import QuoteService.Proofs.Json.Nesting

/-!
# What bytes mean

How many containers may be open is a limit of the reader and not of what is read. Bytes mean a value
if a reader with some limit reads it, and then every reader with a higher one does.

* `Means`: **bytes mean a value**, in a dialect whose limit does not count.
* `Reading.Extends`: a reading that is the same as another one, unless that was nested too deeply.
* `readsOn`: **with a higher limit every reading extends what it was**, by induction on the fuel.
* `Means.unique`: bytes mean one value at most.
* `means_iff`: **what is not nested too deeply means what is read.**
* `not_means_brackets`: arrays that are never closed mean nothing.
-/

namespace QuoteService.Json

variable {d : Dialect} {n fuel room room' : ℕ} {t : Text} {bytes : List UInt8} {v w : Json}
  {α β : Type} {r r' : Reading α}

/-- The dialect with another limit of how many containers may be open. -/
def Dialect.upTo (d : Dialect) (n : ℕ) : Dialect := { d with maxDepth := n }

/-- Bytes mean a value: a reader for which they are not nested too deeply reads it. -/
def Means (d : Dialect) (bytes : List UInt8) (v : Json) : Prop :=
  ∃ n, parseWith (d.upTo n) bytes = .ok v

/-! ## Readers with more room -/

/-- A reading is the same as another one, unless that was nested too deeply. -/
def Reading.Extends (r' r : Reading α) : Prop := r ≠ .error .tooDeep → r' = r

theorem Reading.Extends.refl : r.Extends r := fun _ => rfl

theorem Reading.Extends.map (h : r'.Extends r) (f : α → β) : (r'.map f).Extends (r.map f) := by
  intro hr
  have hne : r ≠ .error .tooDeep := by
    rintro rfl
    exact hr rfl
  rw [h hne]

/-- A container that finds room finds more room too. -/
theorem Reading.Extends.opened {k : ℕ} (hroom : room ≤ room') (h : r'.Extends r) :
    Reading.Extends (if room' < k then .error .tooDeep else r')
      (if room < k then .error .tooDeep else r) := by
  intro hr
  by_cases hk : room < k
  · rw [if_pos hk] at hr
    exact absurd rfl hr
  · have hk' : ¬room' < k := by omega
    rw [if_neg hk] at hr ⊢
    rw [if_neg hk', h hr]

/-- With some fuel, every reading extends what it was with less room. -/
structure ReadsOn (d : Dialect) (n fuel : ℕ) : Prop where
  value : ∀ {room room'} t, room ≤ room' →
    (Json.value (d.upTo n) fuel room' t).Extends (Json.value d fuel room t)
  items : ∀ {room room'} t, room ≤ room' →
    (Json.items (d.upTo n) fuel room' t).Extends (Json.items d fuel room t)
  members : ∀ {room room'} t, room ≤ room' →
    (Json.members (d.upTo n) fuel room' t).Extends (Json.members d fuel room t)

/-- One more step of fuel for a value. What holds no other value is read without regard to the room. -/
theorem ReadsOn.value_succ (h : ReadsOn d n fuel) (t : Text) (hroom : room ≤ room') :
    (Json.value (d.upTo n) (fuel + 1) room' t).Extends (Json.value d (fuel + 1) room t) := by
  have hinner : ∀ k, room - k ≤ room' - k := fun k => Nat.sub_le_sub_right hroom k
  unfold Json.value
  split
  · exact .refl
  · split
    · exact Reading.Extends.refl.opened hroom
    · exact ((h.items _ (hinner _)).map _).opened hroom
  · split
    · exact Reading.Extends.refl.opened hroom
    · exact ((h.members _ (hinner _)).map _).opened hroom
  all_goals exact .refl

/-- One more step of fuel for the items of an array. -/
theorem ReadsOn.items_succ (h : ReadsOn d n fuel) (t : Text) (hroom : room ≤ room') :
    (Json.items (d.upTo n) (fuel + 1) room' t).Extends (Json.items d (fuel + 1) room t) := by
  unfold Json.items
  by_cases hdeep : Json.value d fuel room t = .error .tooDeep
  · rw [hdeep]
    exact fun hne => absurd rfl hne
  · rw [h.value t hroom hdeep]
    split
    · exact .refl
    · split
      · exact (h.items _ hroom).map _
      · exact .refl
      · exact .refl

/-- One more step of fuel for the members of an object. -/
theorem ReadsOn.members_succ (h : ReadsOn d n fuel) (t : Text) (hroom : room ≤ room') :
    (Json.members (d.upTo n) (fuel + 1) room' t).Extends (Json.members d (fuel + 1) room t) := by
  unfold Json.members
  split
  · rename_i r
    have hname : stringBody (d.upTo n) r = stringBody d r := rfl
    rw [hname]
    split
    · exact .refl
    · split
      · rename_i r' _
        by_cases hdeep : Json.value d fuel room (skipSpace r') = .error .tooDeep
        · rw [hdeep]
          exact fun hne => absurd rfl hne
        · rw [h.value _ hroom hdeep]
          split
          · exact .refl
          · split
            · exact (h.members _ hroom).map _
            · exact .refl
            · exact .refl
      · exact .refl
  · exact .refl

/-- **With a higher limit every reading extends what it was.** -/
theorem readsOn (d : Dialect) (n fuel : ℕ) : ReadsOn d n fuel := by
  induction fuel with
  | zero => exact ⟨fun _ _ => .refl, fun _ _ => .refl, fun _ _ => .refl⟩
  | succ fuel ih => exact ⟨ih.value_succ, ih.items_succ, ih.members_succ⟩

/-! ## What bytes mean -/

/-- Bytes that are not nested too deeply are read alike with a higher limit. -/
theorem parseWith_upTo (hn : d.maxDepth ≤ n) (h : parseWith d bytes ≠ .error .tooDeep) :
    parseWith (d.upTo n) bytes = parseWith d bytes := by
  unfold parseWith at h ⊢
  cases hbytes : decodeText bytes with
  | none => rfl
  | some t =>
    rw [hbytes] at h
    have hdeep : value d (2 * t.length + 2) d.maxDepth (skipSpace t) ≠ .error .tooDeep := by
      intro he
      exact h (by show read d t = _; rw [read, he])
    have hvalue := (readsOn d n (2 * t.length + 2)).value (skipSpace t) hn hdeep
    show read (d.upTo n) t = read d t
    rw [read, read, ← hvalue]
    rfl

/-- Of two limits, what is read with the lower one is read with the higher one. -/
theorem parseWith_upTo_upTo {m : ℕ} (hn : n ≤ m) (h : parseWith (d.upTo n) bytes = .ok v) :
    parseWith (d.upTo m) bytes = .ok v := by
  have hne : parseWith (d.upTo n) bytes ≠ .error .tooDeep := by
    rw [h]
    nofun
  exact (parseWith_upTo (d := d.upTo n) hn hne).trans h

/-- **Bytes mean one value at most.** -/
theorem Means.unique (hv : Means d bytes v) (hw : Means d bytes w) : v = w := by
  obtain ⟨n, hn⟩ := hv
  obtain ⟨m, hm⟩ := hw
  have hv' := parseWith_upTo_upTo (Nat.le_max_left n m) hn
  have hw' := parseWith_upTo_upTo (Nat.le_max_right n m) hm
  exact Except.ok.inj (hv'.symm.trans hw')

theorem means_of_parseWith (h : parseWith d bytes = .ok v) : Means d bytes v := ⟨d.maxDepth, h⟩

/-- **What is not nested too deeply means what is read.** -/
theorem means_iff (h : parseWith d bytes ≠ .error .tooDeep) :
    Means d bytes v ↔ parseWith d bytes = .ok v := by
  refine ⟨?_, means_of_parseWith⟩
  rintro ⟨n, hn⟩
  rcases Nat.le_total d.maxDepth n with hle | hle
  · rw [← parseWith_upTo hle h, hn]
  · exact parseWith_upTo_upTo (m := d.maxDepth) hle hn

/-! ## Brackets -/

/-- Arrays that are never closed give no value, and no item. -/
theorem brackets_ne_ok (d : Dialect) (fuel : ℕ) :
    (∀ {room n found}, Json.value d fuel room (brackets n) ≠ .ok found) ∧
      ∀ {room n found}, Json.items d fuel room (brackets n) ≠ .ok found := by
  induction fuel with
  | zero => exact ⟨nofun, nofun⟩
  | succ fuel ih =>
    obtain ⟨hvalue, hitems⟩ := ih
    refine ⟨fun {room n found} heq => ?_, fun {room n found} heq => ?_⟩
    · cases n with
      | zero => cases heq
      | succ n =>
        rw [brackets, List.replicate_succ, ← brackets, Json.value, skipSpace_brackets] at heq
        split at heq
        · rename_i hclosed
          cases n <;> cases hclosed
        · split at heq
          · cases heq
          · obtain ⟨vs, hvs, -⟩ := Reading.map_eq_ok_iff.1 heq
            exact hitems hvs
    · unfold Json.items at heq
      split at heq
      · cases heq
      · rename_i hfirst
        exact hvalue hfirst

/-- **Arrays that are never closed mean nothing.** -/
theorem not_means_brackets (n : ℕ) : ¬Means d (Utf8.encode (List.replicate n '[')) v := by
  rintro ⟨m, hm⟩
  rw [parseWith, decodeText_brackets] at hm
  change read (d.upTo m) (brackets n) = .ok v at hm
  rw [read, skipSpace_brackets] at hm
  split at hm
  · rename_i hfound
    exact (brackets_ne_ok _ _).1 hfound
  · cases hm

end QuoteService.Json
