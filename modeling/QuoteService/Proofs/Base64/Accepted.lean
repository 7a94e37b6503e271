import Mathlib.Algebra.Group.Nat.Defs
import Mathlib.Data.List.TakeWhile
import QuoteService.Proofs.Base64.Strict

/-!
# Which texts are strict Base64

* `AlikeAbove`: values of six bits that differ in the lowest bits of the last one at most.
* `bytes_eq_iff`: **values hold the bytes that they encode**, up to the bits that fill no byte.
* `Holds`: digits that hold some bytes: the ones of the encoded bytes, up to those bits of the last one.
* `tailFault_eq_none_iff`: the signs of padding that may follow.
* `Spelled`, `decode_eq_ok_iff`: **which texts are read, and as which bytes.**
-/

namespace QuoteService.Base64

/-! ## Values of six bits -/

/-- The bits of the last of the digits of `n` bytes that fill no byte. -/
def spareBits (n : ℕ) : ℕ :=
  match n % 3 with
  | 1 => 4
  | 2 => 2
  | _ => 0

theorem spareBits_add_three (n : ℕ) : spareBits (n + 3) = spareBits n := by
  unfold spareBits
  rw [Nat.add_mod_right]

/-- Values that are the same, but for the lowest `bits` bits of the last one. -/
inductive AlikeAbove (bits : ℕ) : List ℕ → List ℕ → Prop
  | nil : AlikeAbove bits [] []
  | last {front : List ℕ} {v w : ℕ} (h : v / 2 ^ bits = w / 2 ^ bits) :
      AlikeAbove bits (front ++ [v]) (front ++ [w])

variable {bits : ℕ} {vs ws : List ℕ} {bs : List UInt8}

theorem AlikeAbove.refl (vs : List ℕ) : AlikeAbove bits vs vs := by
  rcases List.eq_nil_or_concat vs with rfl | ⟨front, v, rfl⟩
  · exact .nil
  · rw [List.concat_eq_append]
    exact .last rfl

theorem AlikeAbove.singleton {v w : ℕ} (h : v / 2 ^ bits = w / 2 ^ bits) :
    AlikeAbove bits [v] [w] := by
  rw [← List.nil_append [v], ← List.nil_append [w]]
  exact .last h

theorem AlikeAbove.append (h : AlikeAbove bits vs ws) (front : List ℕ) :
    AlikeAbove bits (front ++ vs) (front ++ ws) := by
  cases h with
  | nil => exact .refl _
  | last h =>
    rw [← List.append_assoc, ← List.append_assoc]
    exact .last h

/-- Only the last values may differ. -/
theorem AlikeAbove.of_cons {w : ℕ} (hne : ws ≠ []) (h : AlikeAbove bits vs (w :: ws)) :
    ∃ vs', vs = w :: vs' ∧ AlikeAbove bits vs' ws := by
  generalize hall : w :: ws = all at h
  cases h with
  | nil => cases hall
  | @last front v w' h =>
    cases front with
    | nil =>
      cases hall
      exact absurd rfl hne
    | cons x front =>
      cases hall
      exact ⟨front ++ [v], rfl, .last h⟩

/-- The last values are alike. -/
theorem AlikeAbove.of_singleton {w : ℕ} (h : AlikeAbove bits vs [w]) :
    ∃ v, vs = [v] ∧ v / 2 ^ bits = w / 2 ^ bits := by
  generalize hall : [w] = all at h
  cases h with
  | nil => cases hall
  | @last front v w' h =>
    cases front with
    | nil =>
      cases hall
      exact ⟨v, rfl, h⟩
    | cons x front => cases front <;> cases hall

theorem AlikeAbove.length_eq (h : AlikeAbove bits vs ws) : vs.length = ws.length := by
  cases h with
  | nil => rfl
  | last _ => rw [List.length_append, List.length_append]; rfl

/-- Values are the ones that encode the bytes that they hold, up to the spare bits, unless there is one
too many. -/
theorem alikeAbove_sextets_bytes (hlt : ∀ v ∈ vs, v < 64) (hlen : vs.length % 4 ≠ 1) :
    AlikeAbove (spareBits (bytes vs).length) vs (sextets (bytes vs)) := by
  fun_induction bytes vs with
  | case1 a b c d r ih =>
    simp only [List.forall_mem_cons] at hlt
    obtain ⟨ha, hb, hc, hd, hr⟩ := hlt
    have hrest : r.length % 4 ≠ 1 := by simp only [List.length_cons] at hlen; omega
    have hgroup : ∀ x y z : UInt8, x = .ofNat (a * 4 + b / 16) → y = .ofNat (b % 16 * 16 + c / 4) →
        z = .ofNat (c % 4 * 64 + d) →
        sextets (x :: y :: z :: bytes r) = [a, b, c, d] ++ sextets (bytes r) := by
      rintro x y z rfl rfl rfl
      simp only [sextets, UInt8.toNat_ofNat', List.cons_append, List.nil_append, List.cons.injEq,
        and_true]
      omega
    rw [hgroup _ _ _ rfl rfl rfl, List.length_cons, List.length_cons, List.length_cons,
      spareBits_add_three]
    exact (ih hr hrest).append [a, b, c, d]
  | case2 a b c =>
    simp only [List.forall_mem_cons] at hlt
    obtain ⟨ha, hb, hc, -⟩ := hlt
    have hsextets : sextets [.ofNat (a * 4 + b / 16), .ofNat (b % 16 * 16 + c / 4)] =
        [a, b] ++ [c / 4 * 4] := by
      simp only [sextets, UInt8.toNat_ofNat', List.cons_append, List.nil_append, List.cons.injEq,
        and_true]
      omega
    rw [hsextets]
    have hlast : AlikeAbove 2 [c] [c / 4 * 4] := .singleton (by omega)
    exact hlast.append [a, b]
  | case3 a b =>
    simp only [List.forall_mem_cons] at hlt
    obtain ⟨ha, hb, -⟩ := hlt
    have hsextets : sextets [.ofNat (a * 4 + b / 16)] = [a] ++ [b / 16 * 16] := by
      simp only [sextets, UInt8.toNat_ofNat', List.cons_append, List.nil_append, List.cons.injEq,
        and_true]
      omega
    rw [hsextets]
    have hlast : AlikeAbove 4 [b] [b / 16 * 16] := .singleton (by omega)
    exact hlast.append [a]
  | case4 vs hfour hthree htwo =>
    -- what is left are no values at all, or one alone
    match vs with
    | [] => exact .nil
    | [_] => exact absurd rfl hlen
    | [a, b] => exact absurd rfl (htwo a b)
    | [a, b, c] => exact absurd rfl (hthree a b c)
    | a :: b :: c :: d :: r => exact absurd rfl (hfour a b c d r)

/-- The spare bits of values do not count. -/
theorem bytes_of_alikeAbove (h : AlikeAbove (spareBits bs.length) vs (sextets bs)) : bytes vs = bs := by
  fun_induction sextets bs generalizing vs with
  | case1 =>
    obtain rfl := List.length_eq_zero_iff.1 h.length_eq
    rfl
  | case2 a =>
    obtain ⟨_, rfl, h1⟩ := h.of_cons (by simp)
    obtain ⟨v, rfl, hv⟩ := h1.of_singleton
    have hv : v / 16 = a.toNat % 4 * 16 / 16 := hv
    have ha : a.toNat / 4 * 4 + v / 16 = a.toNat := by omega
    simp only [bytes, ha, UInt8.ofNat_toNat]
  | case3 a b =>
    obtain ⟨_, rfl, h1⟩ := h.of_cons (by simp)
    obtain ⟨_, rfl, h2⟩ := h1.of_cons (by simp)
    obtain ⟨v, rfl, hv⟩ := h2.of_singleton
    have hv : v / 4 = b.toNat % 16 * 4 / 4 := hv
    have hb := b.toNat_lt
    have h1 : a.toNat / 4 * 4 + (a.toNat % 4 * 16 + b.toNat / 16) / 16 = a.toNat := by omega
    have h2 : (a.toNat % 4 * 16 + b.toNat / 16) % 16 * 16 + v / 4 = b.toNat := by omega
    simp only [bytes, h1, h2, UInt8.ofNat_toNat]
  | case4 a b c r ih =>
    -- a whole group in front is read for itself
    have hgroup : ∀ vs', bytes (sextets [a, b, c] ++ vs') = a :: b :: c :: bytes vs' := by
      intro vs'
      have hread := bytes_sextets [a, b, c]
      show bytes (sextets [a, b, c]) ++ bytes vs' = _
      rw [hread]
      rfl
    obtain ⟨_, rfl, h1⟩ := h.of_cons (by simp)
    obtain ⟨_, rfl, h2⟩ := h1.of_cons (by simp)
    obtain ⟨_, rfl, h3⟩ := h2.of_cons (by simp)
    cases r with
    | nil =>
      -- and has no spare bits
      obtain ⟨v, rfl, hv⟩ := h3.of_singleton
      obtain rfl : v = c.toNat % 64 := by simpa [spareBits] using hv
      exact hgroup []
    | cons x r =>
      have hne : sextets (x :: r) ≠ [] := by
        rw [← List.length_pos_iff_ne_nil, length_sextets, List.length_cons]
        omega
      obtain ⟨vs', rfl, h4⟩ := h3.of_cons hne
      rw [List.length_cons, List.length_cons, List.length_cons, spareBits_add_three] at h4
      rw [← ih h4]
      exact hgroup vs'

/-- **Values hold the bytes that they encode**, up to the bits that fill no byte. -/
theorem bytes_eq_iff (hlt : ∀ v ∈ vs, v < 64) : bytes vs = bs ∧ vs.length % 4 ≠ 1 ↔
    AlikeAbove (spareBits bs.length) vs (sextets bs) := by
  constructor
  · rintro ⟨rfl, hlen⟩
    exact alikeAbove_sextets_bytes hlt hlen
  · intro h
    refine ⟨bytes_of_alikeAbove h, ?_⟩
    rw [h.length_eq, length_sextets]
    omega

/-! ## Digits -/

/-- The value of a digit gives the digit back. -/
theorem digit_of_value? {c : Char} {v : ℕ} (h : Alphabet.standard.value? c = some v) :
    Alphabet.standard.digit v = c ∧ v < 64 := by
  unfold Alphabet.value? at h
  unfold Alphabet.digit
  simp only at h
  split_ifs at h with hupper hlower hfigure hplus hslash
  · obtain rfl := Option.some.inj h
    rw [if_pos (by omega), show 0x41 + (c.toNat - 0x41) = c.toNat by omega, Char.ofNat_toNat]
    exact ⟨rfl, by omega⟩
  · obtain rfl := Option.some.inj h
    rw [if_neg (by omega), if_pos (by omega),
      show 0x61 + (c.toNat - 0x61 + 26 - 26) = c.toNat by omega, Char.ofNat_toNat]
    exact ⟨rfl, by omega⟩
  · obtain rfl := Option.some.inj h
    rw [if_neg (by omega), if_neg (by omega), if_pos (by omega),
      show 0x30 + (c.toNat - 0x30 + 52 - 52) = c.toNat by omega, Char.ofNat_toNat]
    exact ⟨rfl, by omega⟩
  · obtain rfl := Option.some.inj h
    exact ⟨hplus.symm, by omega⟩
  · obtain rfl := Option.some.inj h
    exact ⟨hslash.symm, by omega⟩

/-- Two digits have the same value but for the lowest `bits` bits. -/
def AgreeAbove (bits : ℕ) (c c' : Char) : Prop :=
  ∃ v w, Alphabet.standard.value? c = some v ∧ Alphabet.standard.value? c' = some w ∧
    v / 2 ^ bits = w / 2 ^ bits

/-- Digits that hold some bytes: the ones of the encoded bytes, but for the spare bits of the last. -/
inductive Holds : List Char → List UInt8 → Prop
  | nil : Holds [] []
  | digits {front : List Char} {c c' : Char} {bs : List UInt8}
      (h : Alphabet.standard.encode bs = front ++ [c']) (hlast : AgreeAbove (spareBits bs.length) c c') :
      Holds (front ++ [c]) bs

variable {digits : List Char}

/-- The values of digits. -/
theorem exists_values (h : ∀ c ∈ digits, Alphabet.standard.isDigit c = true) :
    ∃ vs, digits = vs.map Alphabet.standard.digit ∧ (∀ v ∈ vs, v < 64) ∧
      digits.filterMap Alphabet.standard.value? = vs := by
  induction digits with
  | nil => exact ⟨[], rfl, nofun, rfl⟩
  | cons c digits ih =>
    obtain ⟨hc, hrest⟩ := List.forall_mem_cons.1 h
    obtain ⟨v, hv⟩ := Option.isSome_iff_exists.1 hc
    obtain ⟨hdigit, hlt⟩ := digit_of_value? hv
    obtain ⟨vs, rfl, hvs, hvalues⟩ := ih hrest
    refine ⟨v :: vs, by rw [List.map_cons, hdigit], List.forall_mem_cons.2 ⟨hlt, hvs⟩, ?_⟩
    rw [List.filterMap_cons, hv, hvalues]

theorem Holds.isDigit (h : Holds digits bs) : ∀ c ∈ digits, Alphabet.standard.isDigit c = true := by
  cases h with
  | nil => exact nofun
  | @digits front c c' _ h hlast =>
    intro x hx
    rcases List.mem_append.1 hx with hfront | hx
    · refine isDigit_of_mem_encode Alphabet.standard_lawful bs x ?_
      rw [h]
      exact List.mem_append_left _ hfront
    · obtain rfl := List.mem_singleton.1 hx
      obtain ⟨v, w, hv, -⟩ := hlast
      rw [Alphabet.isDigit, hv]
      rfl

/-- Digits hold bytes just if their values encode them, up to the spare bits. -/
theorem holds_map_iff (hlt : ∀ v ∈ vs, v < 64) : Holds (vs.map Alphabet.standard.digit) bs ↔
    AlikeAbove (spareBits bs.length) vs (sextets bs) := by
  constructor
  · intro h
    generalize hdigits : vs.map Alphabet.standard.digit = digits at h
    have hvalues : digits.filterMap Alphabet.standard.value? = vs := by
      rw [← hdigits, List.filterMap_map]
      have hback : ∀ v ∈ vs, (Alphabet.standard.value? ∘ Alphabet.standard.digit) v = some v :=
        fun v hv => Alphabet.standard_lawful.value?_digit v (hlt v hv)
      rw [List.filterMap_congr hback, List.filterMap_some]
    cases h with
    | nil =>
      rw [← hvalues]
      exact .nil
    | @digits front c c' _ hencode hlast =>
      obtain ⟨v, w, hv, hw, halike⟩ := hlast
      have hsextets := filterMap_encode Alphabet.standard_lawful bs
      rw [hencode, List.filterMap_append] at hsextets
      rw [← hvalues, ← hsextets, List.filterMap_append]
      simp only [List.filterMap_cons, hv, hw, List.filterMap_nil]
      exact .last halike
  · intro h
    generalize hsextets : sextets bs = ws at h
    have hencode : Alphabet.standard.encode bs = ws.map Alphabet.standard.digit := by
      rw [Alphabet.encode, hsextets]
    have hws := sextets_lt bs
    rw [hsextets] at hws
    cases h with
    | nil =>
      have hlength := length_sextets bs
      rw [hsextets, List.length_nil] at hlength
      obtain rfl : bs = [] := List.length_eq_zero_iff.1 (by omega)
      exact .nil
    | @last front v w halike =>
      rw [List.map_append, List.map_cons, List.map_nil] at hencode ⊢
      have hlast : ∀ {l : List ℕ} {x : ℕ}, x ∈ l ++ [x] := List.mem_append_right _ List.mem_cons_self
      exact .digits hencode ⟨v, w, Alphabet.standard_lawful.value?_digit v (hlt v hlast),
        Alphabet.standard_lawful.value?_digit w (hws w hlast), halike⟩

/-- **Digits hold the bytes as which their values are read**, and one digit too many holds nothing. -/
theorem holds_iff (h : ∀ c ∈ digits, Alphabet.standard.isDigit c = true) :
    Holds digits bs ↔
      bytes (digits.filterMap Alphabet.standard.value?) = bs ∧ digits.length % 4 ≠ 1 := by
  obtain ⟨vs, rfl, hlt, hvalues⟩ := exists_values h
  rw [hvalues, List.length_map, bytes_eq_iff hlt, holds_map_iff hlt]

/-! ## Padding -/

theorem restFault_eq_none_iff {pads rest : List Char} {atEnd : Option DecodeError} :
    tailFault.restFault pads rest atEnd = none ↔ rest = [] ∧ atEnd = none := by
  unfold tailFault.restFault
  split
  · exact ⟨fun h => ⟨rfl, h⟩, fun h => h.2⟩
  · constructor
    · intro h
      split at h <;> cases h
    · intro h
      cases h.1

/-- Nothing follows the signs of padding. -/
theorem dropWhile_pad_eq_nil_iff {tail : List Char} :
    tail.dropWhile (· == '=') = [] ↔ tail = List.replicate tail.length '=' := by
  rw [List.dropWhile_eq_nil_iff, List.eq_replicate_iff]
  simp

/-- An end that has to complete a group is no fault just if it does that and no more. -/
theorem tailFault_open {count : ℕ} (h : count % 4 = 2 ∨ count % 4 = 3) {tail : List Char} :
    tailFault count tail = none ↔ tail = List.replicate (4 - count % 4) '=' := by
  have hneeded : padsNeeded (count % 4) = some (4 - count % 4) := by
    rcases h with h | h <;> rw [h] <;> rfl
  simp only [tailFault, hneeded]
  constructor
  · intro hnone
    split at hnone
    · rename_i hle
      split at hnone
      · rename_i hlength
        -- all that is there are the signs that are needed
        have hfront := List.takeWhile_prefix (l := tail) (· == '=')
        have hall := hfront.eq_of_length (Nat.le_antisymm hfront.length_le (hlength ▸ hle))
        rw [List.takeWhile_eq_self_iff] at hall
        exact List.eq_replicate_iff.2 ⟨hlength, fun c hc => by simpa using hall c hc⟩
      · cases hnone
    · obtain ⟨-, hend⟩ := restFault_eq_none_iff.1 hnone
      cases hend
  · intro htail
    have hall : tail.takeWhile (· == '=') = tail := by
      rw [htail, List.takeWhile_eq_self_iff]
      intro c hc
      rw [List.eq_of_mem_replicate hc]
      rfl
    rw [hall, htail, List.length_replicate, if_pos (Nat.le_refl _), if_pos rfl]

/-- **Which ends are no fault**: after whole groups any number of signs of padding, and else the number
that completes the last group. -/
theorem tailFault_eq_none_iff {count : ℕ} {tail : List Char} : tailFault count tail = none ↔
    ∃ pads, tail = List.replicate pads '=' ∧ count % 4 ≠ 1 ∧
      (count % 4 ≠ 0 → pads = 4 - count % 4) := by
  have hfour : count % 4 = 0 ∨ count % 4 = 1 ∨ count % 4 = 2 ∨ count % 4 = 3 := by omega
  rcases hfour with h | h | h
  · simp only [tailFault, h, padsNeeded, restFault_eq_none_iff, dropWhile_pad_eq_nil_iff]
    constructor
    · rintro ⟨htail, -⟩
      exact ⟨_, htail, by decide, fun hne => absurd rfl hne⟩
    · rintro ⟨pads, rfl, -⟩
      exact ⟨by rw [List.length_replicate], if_neg (by decide)⟩
  · simp only [tailFault, h, padsNeeded, restFault_eq_none_iff]
    constructor
    · rintro ⟨-, hend⟩
      cases hend
    · rintro ⟨_, -, hne, -⟩
      exact absurd rfl hne
  · rw [tailFault_open h]
    constructor
    · intro htail
      exact ⟨_, htail, by omega, fun _ => rfl⟩
    · rintro ⟨pads, rfl, -, hpads⟩
      rw [hpads (by omega)]

/-! ## Texts -/

/-- How many signs of padding may follow the digits of `n` bytes: any number after whole groups, if
there is one, and else the number that completes the last group. -/
def PadsAfter (n pads : ℕ) : Prop :=
  (n % 3 ≠ 0 → pads = 3 - n % 3) ∧ (n = 0 → pads = 0)

/-- A text that spells some bytes: digits that hold them, followed by signs of padding alone. -/
def Spelled (cs : List Char) (bs : List UInt8) : Prop :=
  ∃ digits pads, cs = digits ++ List.replicate pads '=' ∧ Holds digits bs ∧ PadsAfter bs.length pads

theorem Holds.length_eq (h : Holds digits bs) : digits.length = (4 * bs.length + 2) / 3 := by
  have hencoded : (Alphabet.standard.encode bs).length = (4 * bs.length + 2) / 3 := by
    rw [Alphabet.encode, List.length_map, length_sextets]
  rw [← hencoded]
  cases h with
  | nil => rfl
  | digits h _ => rw [h, List.length_append, List.length_append]; rfl

/-- The signs that complete the last group of digits are the ones that its bytes ask for. -/
theorem Holds.missing_eq (h : Holds digits bs) (hopen : bs.length % 3 ≠ 0) :
    4 - digits.length % 4 = 3 - bs.length % 3 := by
  have hlength := h.length_eq
  have hrest : bs.length % 3 = 1 ∨ bs.length % 3 = 2 := by omega
  rcases hrest with hrest | hrest <;> omega

/-- Digits in front of signs of padding are told from them. -/
theorem span_pads (h : ∀ c ∈ digits, Alphabet.standard.isDigit c = true) (pads : ℕ) :
    (digits ++ List.replicate pads '=').takeWhile Alphabet.standard.isDigit = digits ∧
      (digits ++ List.replicate pads '=').dropWhile Alphabet.standard.isDigit =
        List.replicate pads '=' := by
  have hpad := Alphabet.standard_lawful.isDigit_pad
  rw [List.takeWhile_append_of_pos h, List.dropWhile_append_of_pos h]
  cases pads with
  | zero => exact ⟨List.append_nil _, rfl⟩
  | succ pads => simp [List.replicate_succ, hpad]

/-- A text that spells bytes is ASCII, and padding does not stand in front. -/
theorem Spelled.guards {cs : List Char} (h : Spelled cs bs) :
    (cs.any fun c => 0x80 ≤ c.toNat) = false ∧ cs.head? ≠ some '=' := by
  obtain ⟨digits, pads, rfl, hholds, -, hnone⟩ := h
  constructor
  · rw [List.any_eq_false]
    intro c hc
    have hsign : IsSign c := by
      rcases List.mem_append.1 hc with hdigit | hpad
      · exact isSign_of_isDigit (hholds.isDigit c hdigit)
      · rw [List.eq_of_mem_replicate hpad]
        exact .inr (.inr (.inl rfl))
    unfold IsSign at hsign
    rw [decide_eq_true_eq]
    omega
  · cases digits with
    | nil =>
      have hlength := hholds.length_eq
      rw [List.length_nil] at hlength
      rw [hnone (by omega)]
      exact nofun
    | cons c digits =>
      intro hhead
      obtain rfl : c = '=' := Option.some.inj hhead
      have hdigit := hholds.isDigit '=' List.mem_cons_self
      rw [Alphabet.standard_lawful.isDigit_pad] at hdigit
      cases hdigit

/-- **A text is read as the bytes that it spells**, and none else is read. -/
theorem decode_eq_ok_iff {cs : List Char} : decode cs = .ok bs ↔ Spelled cs bs := by
  constructor
  · intro h
    have hdigits : ∀ c ∈ cs.takeWhile Alphabet.standard.isDigit, Alphabet.standard.isDigit c = true :=
      fun c hc => List.mem_takeWhile_imp hc
    obtain ⟨vs, hmap, -, hvalues⟩ := exists_values hdigits
    have hlength : vs.length = (cs.takeWhile Alphabet.standard.isDigit).length := by
      rw [hmap, List.length_map]
    unfold decode leadingValues at h
    rw [hvalues] at h
    split at h
    · cases h
    · split at h
      · cases h
      · rename_i hhead
        simp only at h
        split at h
        · cases h
        · rename_i htail
          obtain rfl := Except.ok.inj h
          obtain ⟨pads, htail, hone, hpads⟩ := tailFault_eq_none_iff.1 htail
          rw [hlength] at hone hpads
          have hholds := (holds_iff hdigits).2 ⟨congrArg bytes hvalues, hone⟩
          have hcount := hholds.length_eq
          have hcs : cs = cs.takeWhile Alphabet.standard.isDigit ++ List.replicate pads '=' := by
            rw [← htail, List.takeWhile_append_dropWhile]
          refine ⟨_, pads, hcs, hholds, fun hopen => ?_, fun hnone => ?_⟩
          · rw [hpads (by omega), hholds.missing_eq hopen]
          · -- without digits the padding would stand in front
            have hnil : cs.takeWhile Alphabet.standard.isDigit = [] :=
              List.length_eq_zero_iff.1 (by omega)
            rw [hcs, hnil, List.nil_append] at hhead
            cases pads with
            | zero => rfl
            | succ pads => exact absurd rfl hhead
  · intro h
    obtain ⟨hascii, hhead⟩ := h.guards
    obtain ⟨digits, pads, rfl, hholds, hpads, hnone⟩ := h
    obtain ⟨htake, hdrop⟩ := span_pads hholds.isDigit pads
    obtain ⟨vs, hmap, -, hvalues⟩ := exists_values hholds.isDigit
    obtain ⟨hbytes, hone⟩ := (holds_iff hholds.isDigit).1 hholds
    have hlength : vs.length = digits.length := by rw [hmap, List.length_map]
    have hcount := hholds.length_eq
    have htail : tailFault vs.length (List.replicate pads '=') = none := by
      refine tailFault_eq_none_iff.2 ⟨pads, rfl, by rw [hlength]; exact hone, fun hopen => ?_⟩
      rw [hlength] at hopen ⊢
      have hopen : bs.length % 3 ≠ 0 := by omega
      rw [hpads hopen, hholds.missing_eq hopen]
    rw [hvalues] at hbytes
    unfold decode leadingValues
    rw [hascii, if_neg Bool.false_ne_true, if_neg hhead]
    simp only [htake, hdrop, hvalues, htail, hbytes]

end QuoteService.Base64
