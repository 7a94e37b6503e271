import QuoteService.Proofs.Json.Characters

/-!
# What is nested too deeply

A reader has room for so many containers in one another. It stops at the first one beyond, and
nothing but containers takes room.

* `openings`: how many containers a text opens at most.
* `Within`: a reading that leaves an end of its text, and stops for its nesting only where more
  containers are opened than there is room for.
* `readsWithin`: **so does every reading**, by induction on the fuel, one step for each kind of reader.
* `openings_of_parseWith`: **bytes that are nested too deeply open more containers than may be open.**
* `parse_brackets`: so many brackets are nested too deeply.
-/

namespace QuoteService.Json

variable {d : Dialect} {fuel room : ℕ} {t t' rest : Text} {α β : Type} {r : Reading α}

/-- How many containers a text opens at most: the brackets and braces that open one, and those that
stand in strings. -/
def openings (t : Text) : ℕ := t.countP fun p => p = .scalar '[' ∨ p = .scalar '\x7b'

theorem openings_le_of_suffix (h : t' <:+ t) : openings t' ≤ openings t := h.sublist.countP_le

/-- What was read leaves an end of the text, and it was nested too deeply only if the text opens more
containers than there was room for. -/
structure Within (room : ℕ) (t : Text) (r : Reading α) : Prop where
  suffix : ∀ {a rest}, r = .ok (a, rest) → rest <:+ t
  room_lt : r = .error .tooDeep → room < openings t

theorem Within.malformed : Within room t (.error .malformed : Reading α) := ⟨nofun, nofun⟩

theorem Within.done {a : α} (h : rest <:+ t) : Within room t (.ok (a, rest)) := by
  refine ⟨?_, nofun⟩
  intro a' rest' heq
  cases heq
  exact h

/-- What breaks a reading off breaks off the reading of what it is a part of. -/
theorem Within.error {e : ReadError} (h : Within room t (.error e : Reading α)) :
    Within room t (.error e : Reading β) :=
  ⟨nofun, fun he => h.room_lt (by cases he; rfl)⟩

theorem Within.map (h : Within room t r) (f : α → β) : Within room t (r.map f) := by
  cases r with
  | error e => exact h.error
  | ok found => exact .done (h.suffix rfl)

/-- What is read from an end of a text is read from the text. -/
theorem Within.of_suffix (h : Within room t' r) (hs : t' <:+ t) : Within room t r :=
  ⟨fun heq => (h.suffix heq).trans hs,
    fun heq => Nat.lt_of_lt_of_le (h.room_lt heq) (openings_le_of_suffix hs)⟩

theorem openings_cons {p : CodePoint} (hp : p = .scalar '[' ∨ p = .scalar '\x7b') :
    openings (p :: t) = openings t + 1 :=
  List.countP_cons_of_pos (by simpa using hp)

/-- A container takes one place at most, and one that finds none is one that the text opens. -/
theorem Within.opened {p : CodePoint} {isEmpty : Bool} (hp : p = .scalar '[' ∨ p = .scalar '\x7b')
    (hs : t' <:+ t) (h : Within (room - d.taken isEmpty) t' r) :
    Within room (p :: t) (if room < d.taken isEmpty then .error .tooDeep else r) := by
  have htaken := d.taken_le isEmpty
  have hcount := openings_cons (t := t) hp
  split
  · exact ⟨nofun, fun _ => by omega⟩
  · refine ⟨fun heq => (h.suffix heq).trans (hs.trans (List.suffix_cons p t)), fun heq => ?_⟩
    have hlt := h.room_lt heq
    have hle := openings_le_of_suffix hs
    omega

instance (r : Except ReadError Json) (e : ReadError) : Decidable (r = .error e) :=
  match r with
  | .error e' => decidable_of_iff (e' = e) ⟨fun h => h ▸ rfl, fun h => Except.error.inj h⟩
  | .ok _ => .isFalse nofun

/-! ## Readers without containers -/

theorem within_constant {cs : List Char} {v : Json} : Within room t (constant cs v t) := by
  refine ⟨fun heq => (constant_suffix heq).1, fun heq => ?_⟩
  unfold constant at heq
  split at heq <;> cases heq

theorem within_number {negative : Bool} : Within room t (number d negative t) := by
  refine ⟨fun heq => (number_suffix heq).1, fun heq => ?_⟩
  unfold number at heq
  split at heq
  extract_lets tooLong at heq
  split at heq
  · cases heq
  · simp only at heq
    split at heq <;> split at heq <;> cases heq

theorem stringBody_suffix {s : Text} (h : stringBody d t = some (s, rest)) : rest <:+ t := by
  unfold stringBody at h
  split at h
  · cases h
  · rename_i ps found hps
    obtain ⟨s', -, heq⟩ := Option.map_eq_some_iff.1 h
    cases heq
    exact (pieces_suffix hps).1

theorem within_stringBody : Within room t (.ofOption (stringBody d t)) := by
  cases hbody : stringBody d t with
  | none => exact .malformed
  | some found => exact .done (stringBody_suffix hbody)

/-! ## Readers of containers -/

/-- With some fuel, every reading is within the room that it has. -/
structure ReadsWithin (d : Dialect) (fuel : ℕ) : Prop where
  value : ∀ room t, Within room t (Json.value d fuel room t)
  items : ∀ room t, Within room t (Json.items d fuel room t)
  members : ∀ room t, Within room t (Json.members d fuel room t)

/-- One more step of fuel for a value. Only a container has less room for what is in it. -/
theorem ReadsWithin.value_succ (h : ReadsWithin d fuel) (room : ℕ) (t : Text) :
    Within room t (Json.value d (fuel + 1) room t) := by
  have htail : ∀ {p : CodePoint} {r : Text}, r <:+ p :: r := List.suffix_cons _ _
  unfold Json.value
  split
  · exact (within_stringBody.of_suffix htail).map _
  · rename_i r
    have hr := skipSpace_suffix r
    split
    · rename_i rest hempty
      rw [hempty] at hr
      exact .opened (.inl rfl) hr (.done htail)
    · exact .opened (.inl rfl) hr ((h.items _ _).map _)
  · rename_i r
    have hr := skipSpace_suffix r
    split
    · rename_i rest hempty
      rw [hempty] at hr
      exact .opened (.inr rfl) hr (.done htail)
    · exact .opened (.inr rfl) hr ((h.members _ _).map _)
  · exact within_constant.of_suffix htail
  · exact within_constant.of_suffix htail
  · exact within_constant.of_suffix htail
  · exact within_constant.of_suffix htail
  · exact within_constant.of_suffix htail
  · exact within_constant.of_suffix (htail.trans htail)
  · exact within_number.of_suffix htail
  · exact within_number

/-- What an item is followed by is an end of the text. -/
theorem Within.tail_suffix {a : α} {p : CodePoint} (h : Within room t (.ok (a, rest)))
    (hnext : skipSpace rest = p :: t') : t' <:+ t := by
  have hrest := (skipSpace_suffix rest).trans (h.suffix rfl)
  rw [hnext] at hrest
  exact (List.suffix_cons p t').trans hrest

/-- One more step of fuel for the items of an array. -/
theorem ReadsWithin.items_succ (h : ReadsWithin d fuel) (room : ℕ) (t : Text) :
    Within room t (Json.items d (fuel + 1) room t) := by
  have hvalue := h.value room t
  unfold Json.items
  split
  · rename_i e hfirst
    rw [hfirst] at hvalue
    exact hvalue.error
  · rename_i v rest hfirst
    rw [hfirst] at hvalue
    split
    · rename_i r hcomma
      have hr := (skipSpace_suffix r).trans (hvalue.tail_suffix hcomma)
      exact ((h.items _ _).of_suffix hr).map _
    · rename_i r hbracket
      exact .done (hvalue.tail_suffix hbracket)
    · exact .malformed

/-- One more step of fuel for the members of an object. -/
theorem ReadsWithin.members_succ (h : ReadsWithin d fuel) (room : ℕ) (t : Text) :
    Within room t (Json.members d (fuel + 1) room t) := by
  unfold Json.members
  split
  · rename_i r
    split
    · exact .malformed
    · rename_i name afterName hname
      have hafter : Within room (.scalar '"' :: r) (.ok (name, afterName)) :=
        .done ((stringBody_suffix hname).trans (List.suffix_cons _ _))
      split
      · rename_i r' hcolon
        have hr := (skipSpace_suffix r').trans (hafter.tail_suffix hcolon)
        have hvalue := (h.value room (skipSpace r')).of_suffix hr
        split
        · rename_i e hfirst
          rw [hfirst] at hvalue
          exact hvalue.error
        · rename_i v rest hfirst
          rw [hfirst] at hvalue
          split
          · rename_i r'' hcomma
            have hr := (skipSpace_suffix r'').trans (hvalue.tail_suffix hcomma)
            exact ((h.members _ _).of_suffix hr).map _
          · rename_i r'' hbrace
            exact .done (hvalue.tail_suffix hbrace)
          · exact .malformed
      · exact .malformed
  · exact .malformed

/-- **Every reading is within the room that it has.** -/
theorem readsWithin (d : Dialect) (fuel : ℕ) : ReadsWithin d fuel := by
  induction fuel with
  | zero => exact ⟨fun _ _ => .malformed, fun _ _ => .malformed, fun _ _ => .malformed⟩
  | succ fuel ih => exact ⟨ih.value_succ, ih.items_succ, ih.members_succ⟩

/-- **Bytes that are nested too deeply open more containers than may be open.** -/
theorem openings_of_parseWith {bytes : List UInt8} (h : parseWith d bytes = .error .tooDeep) :
    ∃ t, decodeText bytes = some t ∧ d.maxDepth < openings t := by
  unfold parseWith at h
  split at h
  · rename_i t ht
    refine ⟨t, ht, ?_⟩
    have hvalue := ((readsWithin d (2 * t.length + 2)).value d.maxDepth (skipSpace t)).of_suffix
      (skipSpace_suffix t)
    unfold read at h
    split at h
    · split at h <;> cases h
    · rename_i e he
      cases h
      exact hvalue.room_lt he
  · cases h

/-! ## Brackets -/

/-- The text of so many opening brackets. -/
def brackets (n : ℕ) : Text := List.replicate n (.scalar '[')

theorem skipSpace_brackets (n : ℕ) : skipSpace (brackets n) = brackets n := by
  cases n <;> rfl

/-- **Brackets beyond the room are nested too deeply.** Each one takes two steps: one for the value and
one for its first item. -/
theorem value_brackets (hd : d.countsEmpty = true) {n : ℕ} (hn : room < n) (hfuel : 2 * room < fuel) :
    Json.value d fuel room (brackets n) = .error .tooDeep := by
  have htaken : ∀ isEmpty, d.taken isEmpty = 1 := by
    intro isEmpty
    rw [Dialect.taken, hd, Bool.not_true, Bool.and_false, if_neg Bool.false_ne_true]
  induction room generalizing fuel n with
  | zero =>
    obtain ⟨fuel, rfl⟩ := Nat.exists_eq_succ_of_ne_zero (Nat.ne_of_gt hfuel)
    obtain ⟨n, rfl⟩ := Nat.exists_eq_succ_of_ne_zero (Nat.ne_of_gt hn)
    rw [brackets, List.replicate_succ, Json.value]
    simp only [htaken, Nat.zero_lt_one, if_true]
    split <;> rfl
  | succ room ih =>
    obtain ⟨fuel, rfl⟩ := Nat.exists_eq_add_of_le' (show 2 ≤ fuel by omega)
    obtain ⟨n, rfl⟩ := Nat.exists_eq_add_of_le' (show 2 ≤ n by omega)
    have hinner : Json.value d fuel room (brackets (n + 1)) = .error .tooDeep :=
      ih (by omega) (by omega)
    have hitems : Json.items d (fuel + 1) room (brackets (n + 1)) = .error .tooDeep := by
      rw [Json.items, hinner]
    have hroom : ¬room + 1 < 1 := by omega
    rw [brackets, List.replicate_succ, ← brackets, Json.value, skipSpace_brackets]
    split
    · rename_i hclosed
      cases hclosed
    · rw [htaken, if_neg hroom, Nat.add_sub_cancel, hitems]
      rfl

/-- Bytes of brackets are UTF-8. -/
theorem decodeText_brackets (n : ℕ) :
    decodeText (Utf8.encode (List.replicate n '[')) = some (brackets n) := by
  have hread : decodeText (Utf8.encode (List.replicate n '[')) =
      Utf8.decodeLoose (Utf8.encode (List.replicate n '[')) := by
    rcases n with _ | _ | _ | _ | n <;> rfl
  rw [hread, Utf8.decodeLoose_encode, brackets]
  exact congrArg some (List.map_replicate ..)

/-- **Bytes of so many brackets are nested too deeply.** -/
theorem parse_brackets {n : ℕ} (hn : Dialect.lenient.maxDepth < n) :
    parse (Utf8.encode (List.replicate n '[')) = .error .tooDeep := by
  obtain ⟨n, rfl⟩ := Nat.exists_eq_succ_of_ne_zero (Nat.ne_of_gt (Nat.zero_lt_of_lt hn))
  have hvalue : value .lenient (2 * (brackets (n + 1)).length + 2) Dialect.lenient.maxDepth
      (skipSpace (brackets (n + 1))) = .error .tooDeep := by
    rw [skipSpace_brackets]
    refine value_brackets rfl hn ?_
    rw [brackets, List.length_replicate]
    omega
  rw [parse, parseWith, decodeText_brackets]
  show read .lenient (brackets (n + 1)) = _
  rw [read, hvalue]

end QuoteService.Json
