import Mathlib.Data.Int.Notation
import Mathlib.Data.List.Nodup
import QuoteService.Proofs.Json.Strings
import QuoteService.Proofs.Text.Numerals

/-!
# Values survive their JSON form

* `Plain`: the values that a dialect reads back: no number of double precision, integers of as
  many digits as it takes, text without halves of pairs, members with names of their own.
* `value_render`: such a value is read back in front of whatever may follow a value.
* `read_render`: **a written value is read back**, in either style.
-/

namespace QuoteService.Json

/-- Whether a dialect takes the digits of an integer. -/
def Dialect.Admits (d : Dialect) (n : ℤ) : Prop :=
  ∀ limit, d.maxDigits = some limit →
    (Text.digits n.natAbs).length + (if decide (n < 0) && d.countsSign then 1 else 0) ≤ limit

/-- The lenient dialect takes integers of up to 4300 digits, whatever their sign. -/
theorem Dialect.admits_lenient_iff {n : ℤ} :
    Dialect.lenient.Admits n ↔ (Text.digits n.natAbs).length ≤ 4300 := by
  constructor
  · intro h
    have hlimit := h 4300 rfl
    simpa [Dialect.lenient] using hlimit
  · intro h limit hlimit
    obtain rfl : 4300 = limit := Option.some.inj hlimit
    simpa [Dialect.lenient] using h

/-- The values that a dialect reads back from their text. -/
inductive Plain (d : Dialect) : Json → Prop
  | null : Plain d .null
  | bool (b : Bool) : Plain d (.bool b)
  | int {n : ℤ} (h : d.Admits n) : Plain d (.int n)
  | str (cs : List Char) : Plain d (.str (Text.ofChars cs))
  | arr {items : List Json} (h : ∀ v ∈ items, Plain d v) : Plain d (.arr items)
  | obj {members : List (Text × Json)} (hnames : (members.map Prod.fst).Nodup)
      (hchars : ∀ m ∈ members, ∃ cs, m.1 = Text.ofChars cs)
      (h : ∀ m ∈ members, Plain d m.2) : Plain d (.obj members)

/-- An object of members with names that are given by strings. -/
theorem Plain.ofFields {d : Dialect} (fs : List (String × Json))
    (hnames : (fs.map fun f => Text.ofString f.1).Nodup) (h : ∀ f ∈ fs, Plain d f.2) :
    Plain d (.obj (fs.map fun f => field f.1 f.2)) := by
  refine .obj (by rw [List.map_map]; exact hnames) (fun m hm => ?_) (fun m hm => ?_)
  · obtain ⟨f, -, rfl⟩ := List.mem_map.1 hm
    exact ⟨f.1.toList, rfl⟩
  · obtain ⟨f, hf, rfl⟩ := List.mem_map.1 hm
    exact h f hf

/-- What may follow a value: nothing, a comma or the end of a container. -/
def Closes : Text → Prop
  | [] => True
  | p :: _ => p = .scalar ',' ∨ p = .scalar ']' ∨ p = .scalar '\x7d'

theorem closes_comma (t : Text) : Closes (.scalar ',' :: t) := .inl rfl

theorem closes_bracket (t : Text) : Closes (.scalar ']' :: t) := .inr (.inl rfl)

theorem closes_brace (t : Text) : Closes (.scalar '\x7d' :: t) := .inr (.inr rfl)

/-! ## Numbers -/

theorem spanDigits_closes {rest : Text} (h : Closes rest) : spanDigits rest = ([], rest) := by
  cases rest with
  | nil => rfl
  | cons p r => rcases h with rfl | rfl | rfl <;> rfl

theorem fraction_closes {rest : Text} (h : Closes rest) : fraction rest = ([], rest) := by
  cases rest with
  | nil => rfl
  | cons p r => rcases h with rfl | rfl | rfl <;> rfl

theorem exponent?_closes {rest : Text} (h : Closes rest) : exponent? rest = none := by
  cases rest with
  | nil => rfl
  | cons p r => rcases h with rfl | rfl | rfl <;> rfl

theorem spanDigits_append {ds : List Char} (hd : ∀ c ∈ ds, (Text.digitValue? c).isSome = true)
    {rest : Text} (hr : Closes rest) :
    spanDigits (Text.ofChars ds ++ rest) = (ds.filterMap Text.digitValue?, rest) := by
  induction ds with
  | nil => exact spanDigits_closes hr
  | cons c ds ih =>
    obtain ⟨v, hv⟩ := Option.isSome_iff_exists.1 (hd c List.mem_cons_self)
    have ih := ih fun x hx => hd x (List.mem_cons_of_mem _ hx)
    rw [Text.ofChars] at ih ⊢
    simp only [List.map_cons, List.cons_append, spanDigits, digit?, hv, ih, List.filterMap_cons]

theorem length_filterMap_digits (n : ℕ) :
    ((Text.digits n).filterMap Text.digitValue?).length = (Text.digits n).length := by
  rw [List.length_filterMap_eq_countP, List.countP_eq_length]
  exact Text.digitValue?_of_mem_digits n

/-- **A natural number is read back**, with the sign that was read before it. -/
theorem number_digits (d : Dialect) (negative : Bool) (n : ℕ) {rest : Text} (hr : Closes rest)
    (hlimit : ∀ limit, d.maxDigits = some limit →
      (Text.digits n).length + (if negative && d.countsSign then 1 else 0) ≤ limit) :
    number d negative (Text.ofChars (Text.digits n) ++ rest) =
      .ok (.int (if negative then -(n : ℤ) else n), rest) := by
  unfold number
  split
  rename_i ds afterInt hint
  obtain ⟨hds, hlen, rfl⟩ : Text.ofDigits ds = n ∧ ds.length = (Text.digits n).length ∧
      afterInt = rest := by
    rcases Nat.eq_zero_or_pos n with rfl | hn
    · rw [Text.digits_zero] at hint ⊢; cases hint; exact ⟨rfl, rfl, rfl⟩
    · have hspan := spanDigits_append (Text.digitValue?_of_mem_digits n) hr
      split at hint
      · -- a positive number has no leading zero
        rename_i r hr0
        cases hdig : Text.digits n with
        | nil => exact absurd hdig (Text.digits_ne_nil n)
        | cons c cs =>
          rw [hdig] at hr0
          have hc : c = '0' := CodePoint.scalar.inj (List.cons.inj hr0).1
          exact absurd (by rw [hdig, hc]; rfl) (Text.head?_digits hn)
      · rw [hspan] at hint
        cases hint
        exact ⟨Text.ofDigits_digits n, length_filterMap_digits n, rfl⟩
  have hne : ds ≠ [] := by
    intro h
    rw [h] at hlen
    exact Text.digits_ne_nil n (List.length_eq_zero_iff.1 hlen.symm)
  rw [if_neg hne, fraction_closes hr]
  simp only [exponent?_closes hr, hds, hlen]
  cases hmax : d.maxDigits with
  | none => rfl
  | some limit =>
    have hlim := hlimit limit hmax
    simp only [decide_eq_true_eq]
    rw [if_neg (by omega)]

/-! ## Values -/

theorem afterChars?_append (cs : List Char) (rest : Text) :
    afterChars? cs (Text.ofChars cs ++ rest) = some rest := by
  induction cs with
  | nil => rfl
  | cons c cs ih =>
    rw [Text.ofChars, List.map_cons, List.cons_append, afterChars?, if_pos rfl]
    exact ih

/-- A text begins a value: it starts neither with white space nor with the end of an array. -/
def BeginsValue (t : Text) : Prop := ∃ c r, t = .scalar c :: r ∧ isSpace (.scalar c) = false ∧ c ≠ ']'

theorem skipSpace_of_beginsValue {t : Text} (h : BeginsValue t) (x : Text) :
    skipSpace (t ++ x) = t ++ x := by
  obtain ⟨c, r, rfl, hc, -⟩ := h
  rw [skipSpace, List.cons_append, List.dropWhile_cons_of_neg (by rw [hc]; decide)]

theorem beginsValue_digits (n : ℕ) : BeginsValue (Text.ofChars (Text.digits n)) := by
  cases hd : Text.digits n with
  | nil => exact absurd hd (Text.digits_ne_nil n)
  | cons c r =>
    have hc := Text.digitValue?_of_mem_digits n c (hd ▸ List.mem_cons_self)
    refine ⟨c, Text.ofChars r, rfl, ?_, ?_⟩
    · simp only [isSpace, Bool.or_eq_false_iff, beq_eq_false_iff_ne]
      refine ⟨⟨⟨?_, ?_⟩, ?_⟩, ?_⟩ <;> (rintro rfl; exact absurd hc (by decide))
    · rintro rfl; exact absurd hc (by decide)

theorem beginsValue_render (style : Style) {d : Dialect} {v : Json} (hv : Plain d v) :
    BeginsValue (render style v) := by
  cases hv with
  | null => exact ⟨'n', _, rfl, by decide, by decide⟩
  | bool b => cases b <;> exact ⟨_, _, rfl, by decide, by decide⟩
  | @int n _ =>
    cases n with
    | ofNat n => exact beginsValue_digits n
    | negSucc n => exact ⟨'-', _, rfl, by decide, by decide⟩
  | str cs => exact ⟨'"', _, rfl, by decide, by decide⟩
  | arr h => exact ⟨'[', _, rfl, by decide, by decide⟩
  | obj _ _ h => exact ⟨'\x7b', _, rfl, by decide, by decide⟩

/-- A number without a sign is told by its first digit. -/
theorem value_digits (d : Dialect) (fuel room n : ℕ) (rest : Text) :
    value d (fuel + 1) room (Text.ofChars (Text.digits n) ++ rest) =
      number d false (Text.ofChars (Text.digits n) ++ rest) := by
  cases hd : Text.digits n with
  | nil => exact absurd hd (Text.digits_ne_nil n)
  | cons c r =>
    have hc := Text.digitValue?_of_mem_digits n c (hd ▸ List.mem_cons_self)
    rw [Text.ofChars, List.map_cons, List.cons_append]
    unfold value
    split
    case h_11 => rfl
    -- every other beginning of a value is no digit
    all_goals
      rename_i heq
      obtain rfl := CodePoint.scalar.inj (List.cons.inj heq).1
      exact absurd hc (by decide)

/-- A minus sign and a digit are a number, and no infinity. -/
theorem value_minus (d : Dialect) (fuel room n : ℕ) (rest : Text) :
    value d (fuel + 1) room (.scalar '-' :: (Text.ofChars (Text.digits n) ++ rest)) =
      number d true (Text.ofChars (Text.digits n) ++ rest) := by
  rw [value]
  intro r hr
  cases hd : Text.digits n with
  | nil => exact absurd hd (Text.digits_ne_nil n)
  | cons c cs =>
    have hc := Text.digitValue?_of_mem_digits n c (hd ▸ List.mem_cons_self)
    rw [hd] at hr
    obtain rfl : c = 'I' := CodePoint.scalar.inj (List.cons.inj hr).1
    exact absurd hc (by decide)

/-- A value is read back from its text in front of whatever may follow it. Of the fuel, each
character takes two steps at most. -/
def ReadBack (d : Dialect) (style : Style) (v : Json) : Prop :=
  ∀ fuel room rest, 2 * (render style v).length ≤ fuel + 1 → v.depth ≤ room → Closes rest →
    value d fuel room (render style v ++ rest) = .ok (v, rest)

theorem constant_append (cs : List Char) (v : Json) (rest : Text) :
    constant cs v (Text.ofChars cs ++ rest) = .ok (v, rest) := by
  rw [constant, afterChars?_append]

theorem readBack_int (style : Style) {d : Dialect} {n : ℤ} (h : d.Admits n) :
    ReadBack d style (.int n) := by
  intro fuel room rest hfuel _ hr
  have hpos : 1 ≤ (render style (.int n)).length := by
    obtain ⟨c, r, hcr, -⟩ := beginsValue_render style (.int h)
    rw [hcr]; exact Nat.le_add_left 1 _
  obtain ⟨fuel, rfl⟩ : ∃ f, fuel = f + 1 := ⟨fuel - 1, by omega⟩
  cases n with
  | ofNat n =>
    have hlimit := number_digits d false n hr fun limit hl => by
      have hle : (Text.digits n).length ≤ limit := le_trans (Nat.le_add_right _ _) (h limit hl)
      simpa using hle
    rw [← value_digits d fuel room] at hlimit
    exact hlimit
  | negSucc n =>
    have hlimit := number_digits d true (n + 1) hr fun limit hl => by
      have := h limit hl
      simpa using this
    rw [← value_minus d fuel room] at hlimit
    exact hlimit

theorem depth_le_depthList {items : List Json} {v : Json} (h : v ∈ items) :
    v.depth ≤ depthList items := by
  induction items with
  | nil => cases h
  | cons w ws ih =>
    rw [depthList]
    rcases List.mem_cons.1 h with rfl | h
    · exact le_max_left _ _
    · exact le_trans (ih h) (le_max_right _ _)

theorem depth_le_depthMembers {members : List (Text × Json)} {m : Text × Json} (h : m ∈ members) :
    m.2.depth ≤ depthMembers members := by
  induction members with
  | nil => cases h
  | cons w ws ih =>
    rw [depthMembers]
    rcases List.mem_cons.1 h with rfl | h
    · exact le_max_left _ _
    · exact le_trans (ih h) (le_max_right _ _)

theorem skipSpace_comma (t : Text) : skipSpace (.scalar ',' :: t) = .scalar ',' :: t := rfl

theorem skipSpace_bracket (t : Text) : skipSpace (.scalar ']' :: t) = .scalar ']' :: t := rfl

theorem skipSpace_brace (t : Text) : skipSpace (.scalar '\x7d' :: t) = .scalar '\x7d' :: t := rfl

theorem skipSpace_colon (t : Text) : skipSpace (.scalar ':' :: t) = .scalar ':' :: t := rfl

theorem skipSpace_quote (t : Text) : skipSpace (.scalar '"' :: t) = .scalar '"' :: t := rfl

variable {d : Dialect} {style : Style}

theorem renderItems_cons (v w : Json) (ws : List Json) : renderItems style (v :: w :: ws) =
    render style v ++ .scalar ',' :: renderItems style (w :: ws) := by
  rw [renderItems]
  nofun

theorem renderMembers_cons (m w : Text × Json) (ws : List (Text × Json)) :
    renderMembers style (m :: w :: ws) = renderString style m.1 ++ .scalar ':' ::
      (render style m.2 ++ .scalar ',' :: renderMembers style (w :: ws)) := by
  rw [renderMembers]
  nofun

theorem beginsValue_renderItems {v : Json} {vs : List Json} (hv : Plain d v) :
    BeginsValue (renderItems style (v :: vs)) := by
  cases vs with
  | nil => rw [renderItems]; exact beginsValue_render style hv
  | cons w ws =>
    obtain ⟨c, r, hcr, hc⟩ := beginsValue_render style hv
    exact ⟨c, _, by rw [renderItems_cons, hcr]; rfl, hc⟩

/-- **Items are read back** up to the bracket that closes them, if each of them is. -/
theorem items_render {room : ℕ} (rest : Text) : ∀ (vs : List Json) (fuel : ℕ), vs ≠ [] →
    (∀ v ∈ vs, Plain d v ∧ ReadBack d style v) → 2 * (renderItems style vs).length ≤ fuel →
    depthList vs ≤ room →
    items d fuel room (renderItems style vs ++ .scalar ']' :: rest) = .ok (vs, rest) := by
  intro vs
  induction vs with
  | nil => intro _ h; exact absurd rfl h
  | cons v vs ih =>
    intro fuel _ hvs hfuel hdepth
    obtain ⟨hplain, hback⟩ := hvs v List.mem_cons_self
    have hv := le_trans (depth_le_depthList List.mem_cons_self) hdepth
    cases vs with
    | nil =>
      rw [renderItems] at hfuel ⊢
      obtain ⟨c, r, hcr, -⟩ := beginsValue_render style hplain
      obtain ⟨fuel, rfl⟩ : ∃ f, fuel = f + 1 :=
        ⟨fuel - 1, by rw [hcr, List.length_cons] at hfuel; omega⟩
      rw [items, hback fuel room (.scalar ']' :: rest) hfuel hv (closes_bracket rest)]
      simp only [skipSpace_bracket]
    | cons w ws =>
      rw [renderItems_cons] at hfuel ⊢
      rw [List.length_append, List.length_cons] at hfuel
      obtain ⟨fuel, rfl⟩ : ∃ f, fuel = f + 1 := ⟨fuel - 1, by omega⟩
      have hws : ∀ x ∈ w :: ws, Plain d x ∧ ReadBack d style x :=
        fun x hx => hvs x (List.mem_cons_of_mem _ hx)
      have hrest := ih fuel (List.cons_ne_nil _ _) hws (by omega)
        (le_trans (le_max_right v.depth _) hdepth)
      rw [List.append_assoc, List.cons_append, items,
        hback fuel room _ (by omega) hv (closes_comma _)]
      simp only [skipSpace_comma, skipSpace_of_beginsValue
        (beginsValue_renderItems (hws w List.mem_cons_self).1), hrest]
      rfl

theorem renderString_append (t x : Text) : renderString style t ++ x =
    .scalar '"' :: (t.flatMap (renderPoint style) ++ .scalar '"' :: x) := by
  rw [renderString, List.cons_append, List.append_assoc]; rfl

theorem head_renderMembers (style : Style) (m : Text × Json) (ms : List (Text × Json)) :
    ∃ t, renderMembers style (m :: ms) = .scalar '"' :: t := by
  cases ms with
  | nil => exact ⟨_, by rw [renderMembers, renderString_append]⟩
  | cons y ys => exact ⟨_, by rw [renderMembers_cons, renderString_append]⟩

/-- **Members are read back** up to the brace that closes them, if each of their values is. -/
theorem members_render {room : ℕ} (rest : Text) : ∀ (ms : List (Text × Json)) (fuel : ℕ), ms ≠ [] →
    (∀ m ∈ ms, (∃ cs, m.1 = Text.ofChars cs) ∧ Plain d m.2 ∧ ReadBack d style m.2) →
    2 * (renderMembers style ms).length ≤ fuel → depthMembers ms ≤ room →
    members d fuel room (renderMembers style ms ++ .scalar '\x7d' :: rest) = .ok (ms, rest) := by
  intro ms
  induction ms with
  | nil => intro _ h; exact absurd rfl h
  | cons m ms ih =>
    intro fuel _ hms hfuel hdepth
    obtain ⟨name, v⟩ := m
    obtain ⟨⟨cs, rfl⟩, (hplain : Plain d v), (hback : ReadBack d style v)⟩ :=
      hms _ List.mem_cons_self
    have hv : v.depth ≤ room :=
      le_trans (depth_le_depthMembers (m := (Text.ofChars cs, v)) List.mem_cons_self) hdepth
    have hbegins := beginsValue_render style hplain
    cases ms with
    | nil =>
      have hrender : renderMembers style [(Text.ofChars cs, v)] =
          renderString style (Text.ofChars cs) ++ .scalar ':' :: render style v := by
        rw [renderMembers]
      rw [hrender] at hfuel ⊢
      rw [List.length_append, List.length_cons] at hfuel
      obtain ⟨fuel, rfl⟩ : ∃ f, fuel = f + 1 := ⟨fuel - 1, by omega⟩
      rw [List.append_assoc, renderString_append, List.cons_append, members]
      simp only [stringBody_render, skipSpace_colon, skipSpace_of_beginsValue hbegins,
        hback fuel room (.scalar '\x7d' :: rest) (by omega) hv (closes_brace rest), skipSpace_brace]
    | cons w ws =>
      rw [renderMembers_cons] at hfuel ⊢
      simp only [List.length_append, List.length_cons] at hfuel
      obtain ⟨fuel, rfl⟩ : ∃ f, fuel = f + 1 := ⟨fuel - 1, by omega⟩
      have hrest := ih fuel (List.cons_ne_nil _ _)
        (fun x hx => hms x (List.mem_cons_of_mem _ hx)) (by omega)
        (le_trans (le_max_right v.depth _) hdepth)
      obtain ⟨t, ht⟩ := head_renderMembers style w ws
      rw [List.append_assoc, renderString_append, List.cons_append, List.append_assoc,
        List.cons_append, members]
      rw [ht, List.cons_append] at hrest
      simp only [stringBody_render, skipSpace_colon, skipSpace_of_beginsValue hbegins,
        hback fuel room _ (by omega) hv (closes_comma _), skipSpace_comma, ht, List.cons_append,
        skipSpace_quote, hrest]
      rfl

/-- Members with names of their own stay as they were written. -/
theorem ofMembers_of_nodup {ms : List (Text × Json)} (h : (ms.map Prod.fst).Nodup) :
    ofMembers ms = .obj ms := by
  have hput : ∀ (name : Text) (v : Json) (acc : List (Text × Json)), name ∉ acc.map Prod.fst →
      put name v acc = acc ++ [(name, v)] := by
    intro name v acc
    induction acc with
    | nil => intro _; rfl
    | cons a acc ih =>
      intro hn
      rw [List.map_cons, List.mem_cons, not_or] at hn
      rw [put, if_neg (Ne.symm hn.1), ih hn.2, List.cons_append]
  have key : ∀ (ms acc : List (Text × Json)), ((acc ++ ms).map Prod.fst).Nodup →
      ms.foldl (fun acc m => put m.1 m.2 acc) acc = acc ++ ms := by
    intro ms
    induction ms with
    | nil => intro acc _; rw [List.append_nil]; rfl
    | cons m ms ih =>
      intro acc hnd
      have hm : m.1 ∉ acc.map Prod.fst := by
        rw [List.map_append, List.map_cons, List.nodup_append] at hnd
        exact fun hin => hnd.2.2 _ hin _ List.mem_cons_self rfl
      rw [List.foldl_cons, hput _ _ _ hm, ih _ (by rwa [List.append_assoc]), List.append_assoc]
      rfl
  rw [ofMembers, key ms [] h]
  rfl

theorem Dialect.taken_le (d : Dialect) (isEmpty : Bool) : d.taken isEmpty ≤ 1 := by
  unfold Dialect.taken; split <;> omega

theorem readBack_arr {vs : List Json} (h : ∀ v ∈ vs, Plain d v ∧ ReadBack d style v) :
    ReadBack d style (.arr vs) := by
  intro fuel room rest hfuel hdepth hr
  have hrender : render style (.arr vs) = .scalar '[' :: (renderItems style vs ++ [.scalar ']']) := by
    rw [render]
  rw [hrender] at hfuel ⊢
  simp only [List.length_cons, List.length_append, List.length_nil] at hfuel
  rw [depth] at hdepth
  obtain ⟨fuel, rfl⟩ : ∃ f, fuel = f + 1 := ⟨fuel - 1, by omega⟩
  have htaken := d.taken_le
  rw [List.cons_append, List.append_assoc, value]
  cases vs with
  | nil =>
    have hroom : ¬room < d.taken true := by have := htaken true; omega
    exact if_neg hroom
  | cons v vs =>
    have hroom : ¬room < d.taken false := by have := htaken false; omega
    have hbegins : BeginsValue (renderItems style (v :: vs)) :=
      beginsValue_renderItems (h v List.mem_cons_self).1
    have hitems := items_render rest (v :: vs) fuel (List.cons_ne_nil _ _) h (by omega)
      (show depthList (v :: vs) ≤ room - d.taken false by have : d.taken false = 1 := rfl; omega)
    rw [skipSpace_of_beginsValue hbegins]
    split
    · -- an item does not begin with the end of an array
      rename_i heq
      obtain ⟨c, r, hcr, -, hc⟩ := hbegins
      rw [hcr] at heq
      exact absurd (CodePoint.scalar.inj (List.cons.inj heq).1) hc
    · rw [if_neg hroom]
      exact congrArg (Reading.map arr) hitems

theorem readBack_obj {ms : List (Text × Json)} (hnames : (ms.map Prod.fst).Nodup)
    (h : ∀ m ∈ ms, (∃ cs, m.1 = Text.ofChars cs) ∧ Plain d m.2 ∧ ReadBack d style m.2) :
    ReadBack d style (.obj ms) := by
  intro fuel room rest hfuel hdepth hr
  have hrender : render style (.obj ms) =
      .scalar '\x7b' :: (renderMembers style ms ++ [.scalar '\x7d']) := by
    rw [render]
  rw [hrender] at hfuel ⊢
  simp only [List.length_cons, List.length_append, List.length_nil] at hfuel
  rw [depth] at hdepth
  obtain ⟨fuel, rfl⟩ : ∃ f, fuel = f + 1 := ⟨fuel - 1, by omega⟩
  have htaken := d.taken_le
  rw [List.cons_append, List.append_assoc, value]
  cases ms with
  | nil =>
    have hroom : ¬room < d.taken true := by have := htaken true; omega
    exact if_neg hroom
  | cons m ms =>
    have hroom : ¬room < d.taken false := by have := htaken false; omega
    have hmembers := members_render rest (m :: ms) fuel (List.cons_ne_nil _ _) h (by omega)
      (show depthMembers (m :: ms) ≤ room - d.taken false by
        have : d.taken false = 1 := rfl
        omega)
    obtain ⟨t, ht⟩ := head_renderMembers style m ms
    rw [ht] at hmembers ⊢
    rw [List.cons_append, skipSpace_quote, ← ofMembers_of_nodup hnames]
    exact (if_neg hroom).trans (congrArg (Reading.map ofMembers) hmembers)

/-- **A plain value is read back** in front of whatever may follow it. -/
theorem value_render {v : Json} (hv : Plain d v) : ReadBack d style v := by
  -- a constant is told by its first letter, a container by its bracket
  induction hv with
  | null =>
    intro fuel room rest hfuel _ _
    obtain ⟨fuel, rfl⟩ : ∃ f, fuel = f + 1 := ⟨fuel - 1, by have : 8 ≤ fuel + 1 := hfuel; omega⟩
    exact constant_append ['u', 'l', 'l'] .null rest
  | bool b =>
    intro fuel room rest hfuel _ _
    cases b with
    | true =>
      obtain ⟨fuel, rfl⟩ : ∃ f, fuel = f + 1 := ⟨fuel - 1, by have : 8 ≤ fuel + 1 := hfuel; omega⟩
      exact constant_append ['r', 'u', 'e'] (.bool true) rest
    | false =>
      obtain ⟨fuel, rfl⟩ : ∃ f, fuel = f + 1 := ⟨fuel - 1, by have : 10 ≤ fuel + 1 := hfuel; omega⟩
      exact constant_append ['a', 'l', 's', 'e'] (.bool false) rest
  | int h => exact readBack_int style h
  | str cs =>
    intro fuel room rest hfuel _ _
    rw [render, renderString, List.length_cons, List.length_append] at hfuel
    obtain ⟨fuel, rfl⟩ : ∃ f, fuel = f + 1 := ⟨fuel - 1, by omega⟩
    rw [render, renderString_append, value, stringBody_render]
    rfl
  | arr h ih => exact readBack_arr fun v hv => ⟨h v hv, ih v hv⟩
  | obj hnames hchars h ih =>
    exact readBack_obj hnames fun m hm => ⟨hchars m hm, h m hm, ih m hm⟩

/-- **A written value is read back**, in either style. -/
theorem read_render {v : Json} (hv : Plain d v) (hdepth : v.depth ≤ d.maxDepth) :
    read d (render style v) = .ok v := by
  have hback : ReadBack d style v := value_render hv
  have hread := hback (2 * (render style v).length + 2) d.maxDepth [] (by omega) hdepth trivial
  have hskip := skipSpace_of_beginsValue (beginsValue_render style hv) []
  rw [List.append_nil] at hread hskip
  rw [read, hskip, hread]
  rfl

end QuoteService.Json
