import QuoteService.Proofs.Json.Bytes

/-!
# The strict reader gives characters

The bytes of a request are UTF-8, so the text that is read has no half of a surrogate pair alone, and
the strict dialect refuses the escapes that would spell one.

* `skipSpace_suffix` and its like: what follows a part of a text is an end of the text.
* `Whole`: every text in a value is made of characters.
* `stringBody_isChars`: a string of characters gives characters.
* `readsWhole`: so do values, by induction on the fuel, one step for each kind of container.
* `whole_of_parseStrict`: **no half of a pair stands alone in what the strict reader gives.**
-/

namespace QuoteService.Json

variable {d : Dialect} {t rest : Text} {v : Json}

/-- Every text in a value is made of characters. -/
inductive Whole : Json → Prop
  | null : Whole .null
  | bool (b : Bool) : Whole (.bool b)
  | int (n : ℤ) : Whole (.int n)
  | float (x : Double) : Whole (.float x)
  | str {t : Text} (h : IsChars t) : Whole (.str t)
  | arr {items : List Json} (h : ∀ v ∈ items, Whole v) : Whole (.arr items)
  | obj {members : List (Text × Json)} (hnames : ∀ m ∈ members, IsChars m.1)
      (h : ∀ m ∈ members, Whole m.2) : Whole (.obj members)

/-! ## What follows -/

theorem isChars_iff : IsChars t ↔ ∀ p ∈ t, ∃ c, p = .scalar c := by
  constructor
  · rintro ⟨cs, rfl⟩ p hp
    obtain ⟨c, -, rfl⟩ := List.mem_map.1 hp
    exact ⟨c, rfl⟩
  · intro h
    induction t with
    | nil => exact isChars_ofChars []
    | cons p t ih =>
      obtain ⟨c, rfl⟩ := h p List.mem_cons_self
      exact isChars_cons c (ih fun q hq => h q (List.mem_cons_of_mem _ hq))

theorem IsChars.suffix (ht : IsChars t) (h : rest <:+ t) : IsChars rest :=
  isChars_iff.2 fun p hp => isChars_iff.1 ht p (h.subset hp)

theorem skipSpace_suffix (t : Text) : skipSpace t <:+ t := List.dropWhile_suffix _

theorem afterChars?_suffix {cs : List Char} (h : afterChars? cs t = some rest) : rest <:+ t := by
  induction cs generalizing t with
  | nil =>
    cases h
    exact List.suffix_refl _
  | cons c cs ih =>
    cases t with
    | nil => cases h
    | cons p t =>
      rw [afterChars?] at h
      split at h
      · exact (ih h).trans (List.suffix_cons p t)
      · cases h

theorem spanDigits_suffix (t : Text) : (spanDigits t).2 <:+ t := by
  induction t with
  | nil => exact List.suffix_refl _
  | cons p t ih =>
    rw [spanDigits]
    split
    · exact ih.trans (List.suffix_cons p t)
    · exact List.suffix_refl _

theorem fraction_suffix (t : Text) : (fraction t).2 <:+ t := by
  unfold fraction
  split
  · rename_i r
    have hspan := (spanDigits_suffix r).trans (List.suffix_cons (.scalar '.') r)
    split
    · exact List.suffix_refl _
    · exact hspan
  · exact List.suffix_refl _

theorem exponent?_suffix {e : ℤ} (h : exponent? t = some (e, rest)) : rest <:+ t := by
  unfold exponent? at h
  split at h
  · rename_i c r
    split at h
    · split at h
      rename_i negative r' hsign
      -- a sign in front of the digits is passed over
      have hr : r' <:+ r := by
        split at hsign
        · cases hsign
          exact List.suffix_cons _ _
        · cases hsign
          exact List.suffix_cons _ _
        · cases hsign
          exact List.suffix_refl _
      have hspan := spanDigits_suffix r'
      split at h
      · cases h
      · rename_i ds found _ hdigits
        cases h
        rw [hdigits] at hspan
        exact hspan.trans (hr.trans (List.suffix_cons _ _))
    · cases h
  · cases h

/-- What follows a number is a part of the text, and a number is no text. -/
theorem number_suffix {negative : Bool} (h : number d negative t = .ok (v, rest)) :
    rest <:+ t ∧ Whole v := by
  unfold number at h
  split at h
  rename_i ds afterInt hint
  have hint : afterInt <:+ t := by
    split at hint
    · cases hint
      exact List.suffix_cons _ _
    · have hspan := spanDigits_suffix t
      rw [hint] at hspan
      exact hspan
  have hfraction := (fraction_suffix afterInt).trans hint
  extract_lets tooLong at h
  split at h
  · cases h
  · simp only at h
    split at h
    · -- an integer
      split at h
      · cases h
      · cases h
        exact ⟨hint, .int _⟩
    · split at h
      · cases h
      · cases h
        refine ⟨?_, .float _⟩
        cases hexponent : exponent? (fraction afterInt).2 with
        | none => exact hfraction
        | some found => exact (exponent?_suffix hexponent).trans hfraction

theorem constant_suffix {cs : List Char} {v' : Json} (h : constant cs v' t = .ok (v, rest)) :
    rest <:+ t ∧ v = v' := by
  unfold constant at h
  split at h
  · rename_i found hfound
    cases h
    exact ⟨afterChars?_suffix hfound, rfl⟩
  · cases h

/-- The plain pieces of a string stand in its text, or are escaped characters. -/
theorem pieces_suffix {ps : List Piece} (h : pieces t = some (ps, rest)) :
    rest <:+ t ∧ ∀ p, .plain p ∈ ps → p ∈ t ∨ ∃ c, p = .scalar c := by
  fun_induction pieces t generalizing ps rest with
  | case1 => cases h
  | case2 r =>
    cases h
    exact ⟨List.suffix_cons _ _, nofun⟩
  | case3 a b c e r n ps' rest' hps' _ ih =>
    cases h
    obtain ⟨hrest, hplain⟩ := ih hps'
    have hr : r <:+ .scalar '\\' :: .scalar 'u' :: a :: b :: c :: e :: r := ⟨[_, _, _, _, _, _], rfl⟩
    refine ⟨hrest.trans hr, fun p hp => ?_⟩
    rcases List.mem_cons.1 hp with heq | hp
    · cases heq
    · exact (hplain p hp).imp_left fun hmem => hr.subset hmem
  | case4 => cases h
  | case5 e r _ c ps' rest' hps' _ ih =>
    cases h
    obtain ⟨hrest, hplain⟩ := ih hps'
    have hr : r <:+ .scalar '\\' :: e :: r := ⟨[_, _], rfl⟩
    refine ⟨hrest.trans hr, fun p hp => ?_⟩
    rcases List.mem_cons.1 hp with heq | hp
    · cases heq
      exact .inr ⟨c, rfl⟩
    · exact (hplain p hp).imp_left fun hmem => hr.subset hmem
  | case6 => cases h
  | case7 => cases h
  | case8 q r _ _ _ _ ih =>
    obtain ⟨⟨ps', rest'⟩, hps', heq⟩ := Option.map_eq_some_iff.1 h
    cases heq
    obtain ⟨hrest, hplain⟩ := ih hps'
    have hr : r <:+ q :: r := List.suffix_cons q r
    refine ⟨hrest.trans hr, fun p hp => ?_⟩
    rcases List.mem_cons.1 hp with heq | hp
    · cases heq
      exact .inl List.mem_cons_self
    · exact (hplain p hp).imp_left fun hmem => hr.subset hmem

/-! ## Strings -/

theorem isChars_consNat {n : ℕ} {tail : Option Text} {s : Text} (h : ¬(0xD800 ≤ n ∧ n < 0xE000))
    (hs : Utf8.consNat n tail = some s) (htail : ∀ r, tail = some r → IsChars r) : IsChars s := by
  unfold Utf8.consNat at hs
  split at hs
  · rename_i p r hp
    cases hs
    rw [CodePoint.ofNat?, dif_neg h] at hp
    split at hp
    · cases hp
      exact isChars_cons _ (htail r rfl)
    · cases hp
  · cases hs

/-- **Pieces join to characters** where no half of a pair may stand alone. -/
theorem joinPieces_isChars {ps : List Piece} {s : Text} (h : joinPieces false ps = some s)
    (hplain : ∀ p, .plain p ∈ ps → ∃ c, p = .scalar c) : IsChars s := by
  fun_induction joinPieces false ps generalizing s with
  | case1 =>
    cases h
    exact isChars_ofChars []
  | case2 n m ps hpair ih =>
    -- two halves of a pair are one character beyond 16 bits
    refine isChars_consNat (by omega) h fun r hr => ih hr fun p hp => ?_
    exact hplain p (List.mem_cons_of_mem _ (List.mem_cons_of_mem _ hp))
  | case3 => cases h
  | case4 n m ps _ hlone ih =>
    refine isChars_consNat (fun hn => hlone ⟨hn.1, hn.2, rfl⟩) h fun r hr => ih hr fun p hp => ?_
    exact hplain p (List.mem_cons_of_mem _ hp)
  | case5 => cases h
  | case6 n ps _ hlone ih =>
    refine isChars_consNat (fun hn => hlone ⟨hn.1, hn.2, rfl⟩) h fun r hr => ih hr fun p hp => ?_
    exact hplain p (List.mem_cons_of_mem _ hp)
  | case7 p ps ih =>
    obtain ⟨r, hr, rfl⟩ := Option.map_eq_some_iff.1 h
    obtain ⟨c, rfl⟩ := hplain p List.mem_cons_self
    exact isChars_cons c (ih hr fun q hq => hplain q (List.mem_cons_of_mem _ hq))

/-- **A string of characters gives characters**, and characters follow it. -/
theorem stringBody_isChars (hd : d.loneHalves = false) (ht : IsChars t) {s : Text}
    (h : stringBody d t = some (s, rest)) : IsChars s ∧ IsChars rest := by
  unfold stringBody at h
  split at h
  · cases h
  · rename_i ps found hps
    obtain ⟨s', hjoin, heq⟩ := Option.map_eq_some_iff.1 h
    cases heq
    obtain ⟨hrest, hplain⟩ := pieces_suffix hps
    rw [hd] at hjoin
    refine ⟨joinPieces_isChars hjoin fun p hp => ?_, ht.suffix hrest⟩
    exact (hplain p hp).elim (isChars_iff.1 ht p) id

/-! ## Values -/

/-- Every text in a member is made of characters. -/
def WholeMember (m : Text × Json) : Prop := IsChars m.1 ∧ Whole m.2

theorem wholeMember_of_mem_put {m : Text × Json} (hm : WholeMember m) {ms : List (Text × Json)}
    (hms : ∀ m ∈ ms, WholeMember m) : ∀ m' ∈ put m.1 m.2 ms, WholeMember m' := by
  induction ms with
  | nil => exact List.forall_mem_singleton.2 hm
  | cons first ms ih =>
    obtain ⟨hfirst, hms⟩ := List.forall_mem_cons.1 hms
    rw [put]
    split
    · exact List.forall_mem_cons.2 ⟨hm, hms⟩
    · exact List.forall_mem_cons.2 ⟨hfirst, ih hms⟩

theorem whole_ofMembers {ms : List (Text × Json)} (h : ∀ m ∈ ms, WholeMember m) :
    Whole (ofMembers ms) := by
  have key : ∀ acc : List (Text × Json), (∀ m ∈ acc, WholeMember m) →
      ∀ m ∈ ms.foldl (fun acc m => put m.1 m.2 acc) acc, WholeMember m := by
    induction ms with
    | nil => exact fun _ hacc => hacc
    | cons m ms ih =>
      obtain ⟨hm, hms⟩ := List.forall_mem_cons.1 h
      exact fun acc hacc => ih hms _ (wholeMember_of_mem_put hm hacc)
  have hall := key [] nofun
  exact .obj (fun m hm => (hall m hm).1) fun m hm => (hall m hm).2

theorem Reading.map_eq_ok_iff {α β : Type} {f : α → β} {r : Reading α} {b : β} :
    r.map f = .ok (b, rest) ↔ ∃ a, r = .ok (a, rest) ∧ f a = b := by
  constructor
  · intro h
    cases r with
    | error e => cases h
    | ok found =>
      obtain ⟨a, rest'⟩ := found
      cases h
      exact ⟨a, rfl, rfl⟩
  · rintro ⟨a, rfl, rfl⟩
    rfl

/-- With some fuel, what is read from characters is made of characters, and characters follow it. -/
structure ReadsWhole (d : Dialect) (fuel : ℕ) : Prop where
  value : ∀ {room t v rest}, IsChars t → Json.value d fuel room t = .ok (v, rest) →
    Whole v ∧ IsChars rest
  items : ∀ {room t vs rest}, IsChars t → Json.items d fuel room t = .ok (vs, rest) →
    (∀ v ∈ vs, Whole v) ∧ IsChars rest
  members : ∀ {room t ms rest}, IsChars t → Json.members d fuel room t = .ok (ms, rest) →
    (∀ m ∈ ms, WholeMember m) ∧ IsChars rest

variable {fuel room : ℕ}

theorem IsChars.tail {p : CodePoint} (h : IsChars (p :: t)) : IsChars t := h.suffix (List.suffix_cons p t)

theorem IsChars.skipSpace (h : IsChars t) : IsChars (skipSpace t) := h.suffix (skipSpace_suffix t)

/-- One more step of fuel for a value. A container hands its content on; all else ends here. -/
theorem ReadsWhole.value_succ (hreads : ReadsWhole d fuel) (hd : d.loneHalves = false)
    (ht : IsChars t) (h : Json.value d (fuel + 1) room t = .ok (v, rest)) :
    Whole v ∧ IsChars rest := by
  have hconstant : ∀ {cs : List Char} {c : Json} {r : Text}, Whole c → IsChars r →
      constant cs c r = .ok (v, rest) → Whole v ∧ IsChars rest := by
    intro cs c r hc hr h
    obtain ⟨hrest, rfl⟩ := constant_suffix h
    exact ⟨hc, hr.suffix hrest⟩
  have hnumber : ∀ {negative : Bool} {r : Text}, IsChars r →
      number d negative r = .ok (v, rest) → Whole v ∧ IsChars rest := by
    intro negative r hr h
    obtain ⟨hrest, hwhole⟩ := number_suffix h
    exact ⟨hwhole, hr.suffix hrest⟩
  unfold Json.value at h
  split at h
  · obtain ⟨s, hs, rfl⟩ := Reading.map_eq_ok_iff.1 h
    cases hbody : stringBody d _ with
    | none =>
      rw [hbody] at hs
      cases hs
    | some found =>
      rw [hbody] at hs
      cases hs
      obtain ⟨hchars, hrest⟩ := stringBody_isChars hd ht.tail hbody
      exact ⟨.str hchars, hrest⟩
  · have hr := ht.tail.skipSpace
    split at h
    · rename_i hempty
      rw [hempty] at hr
      split at h
      · cases h
      · cases h
        exact ⟨.arr (List.forall_mem_nil _), hr.tail⟩
    · split at h
      · cases h
      · obtain ⟨vs, hvs, rfl⟩ := Reading.map_eq_ok_iff.1 h
        obtain ⟨hwhole, hrest⟩ := hreads.items hr hvs
        exact ⟨.arr hwhole, hrest⟩
  · have hr := ht.tail.skipSpace
    split at h
    · rename_i hempty
      rw [hempty] at hr
      split at h
      · cases h
      · cases h
        exact ⟨.obj (List.forall_mem_nil _) (List.forall_mem_nil _), hr.tail⟩
    · split at h
      · cases h
      · obtain ⟨ms, hms, rfl⟩ := Reading.map_eq_ok_iff.1 h
        obtain ⟨hwhole, hrest⟩ := hreads.members hr hms
        exact ⟨whole_ofMembers hwhole, hrest⟩
  · exact hconstant (.bool true) ht.tail h
  · exact hconstant (.bool false) ht.tail h
  · exact hconstant .null ht.tail h
  · exact hconstant (.float _) ht.tail h
  · exact hconstant (.float _) ht.tail h
  · exact hconstant (.float _) ht.tail.tail h
  · exact hnumber ht.tail h
  · exact hnumber ht h

/-- One more step of fuel for the items of an array. -/
theorem ReadsWhole.items_succ (hreads : ReadsWhole d fuel) (ht : IsChars t) {vs : List Json}
    (h : Json.items d (fuel + 1) room t = .ok (vs, rest)) : (∀ v ∈ vs, Whole v) ∧ IsChars rest := by
  unfold Json.items at h
  split at h
  · cases h
  · rename_i first afterFirst hfirst
    obtain ⟨hwhole, hafter⟩ := hreads.value ht hfirst
    have hr := hafter.skipSpace
    split at h
    · rename_i r hcomma
      rw [hcomma] at hr
      obtain ⟨others, hothers, rfl⟩ := Reading.map_eq_ok_iff.1 h
      obtain ⟨hall, hrest⟩ := hreads.items hr.tail.skipSpace hothers
      exact ⟨List.forall_mem_cons.2 ⟨hwhole, hall⟩, hrest⟩
    · rename_i r hbracket
      rw [hbracket] at hr
      cases h
      exact ⟨List.forall_mem_singleton.2 hwhole, hr.tail⟩
    · cases h

/-- One more step of fuel for the members of an object. -/
theorem ReadsWhole.members_succ (hreads : ReadsWhole d fuel) (hd : d.loneHalves = false)
    (ht : IsChars t) {ms : List (Text × Json)}
    (h : Json.members d (fuel + 1) room t = .ok (ms, rest)) :
    (∀ m ∈ ms, WholeMember m) ∧ IsChars rest := by
  unfold Json.members at h
  split at h
  · split at h
    · cases h
    · rename_i name afterName hname
      obtain ⟨hchars, hafter⟩ := stringBody_isChars hd ht.tail hname
      have hr := hafter.skipSpace
      split at h
      · rename_i r hcolon
        rw [hcolon] at hr
        split at h
        · cases h
        · rename_i first afterFirst hfirst
          obtain ⟨hwhole, hafter⟩ := hreads.value hr.tail.skipSpace hfirst
          have hr := hafter.skipSpace
          split at h
          · rename_i r hcomma
            rw [hcomma] at hr
            obtain ⟨others, hothers, rfl⟩ := Reading.map_eq_ok_iff.1 h
            obtain ⟨hall, hrest⟩ := hreads.members hr.tail.skipSpace hothers
            exact ⟨List.forall_mem_cons.2 ⟨⟨hchars, hwhole⟩, hall⟩, hrest⟩
          · rename_i r hbrace
            rw [hbrace] at hr
            cases h
            exact ⟨List.forall_mem_singleton.2 ⟨hchars, hwhole⟩, hr.tail⟩
          · cases h
      · cases h
  · cases h

/-- **What is read from characters is made of characters** where no half of a pair may stand alone. -/
theorem readsWhole (hd : d.loneHalves = false) (fuel : ℕ) : ReadsWhole d fuel := by
  induction fuel with
  | zero => exact ⟨nofun, nofun, nofun⟩
  | succ fuel ih =>
    exact ⟨fun ht h => ih.value_succ hd ht h, fun ht h => ih.items_succ ht h,
      fun ht h => ih.members_succ hd ht h⟩

/-- **No half of a pair stands alone in what the strict reader gives.** -/
theorem whole_of_parseStrict {bytes : List UInt8} (h : parseStrict bytes = .ok v) : Whole v := by
  unfold parseStrict at h
  split at h
  · rename_i cs hcs
    unfold read at h
    split at h
    · rename_i found after hfound
      split at h
      · cases h
        exact ((readsWhole rfl _).value (isChars_ofChars cs).skipSpace hfound).1
      · cases h
    · cases h
  · cases h

end QuoteService.Json
