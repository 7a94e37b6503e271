import QuoteService.Proofs.Client.Failures

/-!
# What a client returns for an answer that succeeds

A call promises a text, or some texts, and a fault of the api where there is none. If the answer
succeeds there is no fault, and the promise is kept by what the data of the answer happen to be.

* `Keeps`: a call returns what it promises, or reports a fault.
* `Json.ListsTexts`: values that are listed as texts, some that are no array among them.
* `listed_keeps_iff`: **these are the values whose list is one of texts.**
* `GivesText`, `GivesTexts`: members of an answer with which a call keeps its promise.
* `quoteOf_keeps_iff`, `quotesOf_keeps_iff`: **with no others it does.**
* `Answer.promises_kept_iff`: so do the calls of every client that get the answer, if it is not nested
  too deeply.
-/

namespace QuoteService

namespace Json

/-- A value is a text. -/
def IsText (v : Json) : Prop := ∃ t, v = .str t

/-- Values that are listed as texts: an array of texts, the characters of a text, the names of an
object, and what is listed as nothing. -/
inductive ListsTexts : Json → Prop
  | null : ListsTexts .null
  | no : ListsTexts (.bool false)
  | zero : ListsTexts (.int 0)
  | zeroFloat {x : Double} (h : x.isZero = true) : ListsTexts (.float x)
  | str (t : Text) : ListsTexts (.str t)
  | obj (ms : List (Text × Json)) : ListsTexts (.obj ms)
  | arr {vs : List Json} (h : ∀ v ∈ vs, IsText v) : ListsTexts (.arr vs)

end Json

namespace Client

open ApiClient

/-- Some values are texts. -/
def AreTexts (vs : List Json) : Prop := ∀ v ∈ vs, v.IsText

/-- A call returns what it promises, or reports a fault of the api. -/
def Keeps {α : Type} (promise : α → Prop) (r : Except CallError α) : Prop :=
  (∃ x, r = .ok x ∧ promise x) ∨ ∃ fault, r = .error (.api fault)

section Keeps

variable {α : Type} {promise : α → Prop} {x : α} {e : CallError}

theorem keeps_ok_iff : Keeps promise (.ok x) ↔ promise x := by
  constructor
  · rintro (⟨y, hy, h⟩ | ⟨fault, hfault⟩)
    · cases hy
      exact h
    · cases hfault
  · exact fun h => .inl ⟨x, rfl, h⟩

theorem keeps_error_iff : Keeps promise (.error e) ↔ ∃ fault, e = .api fault := by
  constructor
  · rintro (⟨x, hx, -⟩ | ⟨fault, hfault⟩)
    · cases hx
    · exact ⟨fault, Except.error.inj hfault⟩
  · rintro ⟨fault, rfl⟩
    exact .inr ⟨fault, rfl⟩

theorem not_keeps_missing {name : String} : ¬Keeps promise (.error (.missing name)) := by
  rw [keeps_error_iff]
  nofun

theorem not_keeps_wrongShape : ¬Keeps promise (.error .wrongShape) := by
  rw [keeps_error_iff]
  nofun

theorem not_keeps_tooDeep : ¬Keeps promise (.error .tooDeep) := by
  rw [keeps_error_iff]
  nofun

end Keeps

variable {a : Answer} {v : Json} {ms : List (Text × Json)}

/-- **The values whose list is one of texts.** -/
theorem listed_keeps_iff : Keeps AreTexts (listed v) ↔ v.ListsTexts := by
  have hnothing : Keeps AreTexts (.ok []) := keeps_ok_iff.2 (List.forall_mem_nil _)
  cases v with
  | null => exact iff_of_true hnothing .null
  | bool b =>
    cases b
    · exact iff_of_true hnothing .no
    · exact iff_of_false not_keeps_wrongShape nofun
  | int n =>
    rw [listed]
    split
    · rename_i hn
      subst hn
      exact iff_of_true hnothing .zero
    · rename_i hn
      refine iff_of_false not_keeps_wrongShape fun h => ?_
      cases h
      exact hn rfl
  | float x =>
    rw [listed]
    split
    · exact iff_of_true hnothing (.zeroFloat ‹_›)
    · rename_i hx
      refine iff_of_false not_keeps_wrongShape fun h => ?_
      cases h
      exact hx ‹_›
  | str t =>
    refine iff_of_true (keeps_ok_iff.2 fun v hv => ?_) (.str t)
    obtain ⟨p, -, rfl⟩ := List.mem_map.1 hv
    exact ⟨[p], rfl⟩
  | arr items =>
    rw [listed, keeps_ok_iff]
    refine ⟨.arr, fun h => ?_⟩
    cases h
    assumption
  | obj members =>
    refine iff_of_true (keeps_ok_iff.2 fun v hv => ?_) (.obj members)
    obtain ⟨m, -, rfl⟩ := List.mem_map.1 hv
    exact ⟨m.1, rfl⟩

/-! ## Answers that succeed -/

/-- The members of an answer give a text as quote. -/
def GivesText (ms : List (Text × Json)) : Prop :=
  ∃ members t, Json.find? (Text.ofString "data") ms = some (.obj members) ∧
    Json.find? (Text.ofString "fortune") members = some (.str t)

/-- The members of an answer give texts as quotes. -/
def GivesTexts (ms : List (Text × Json)) : Prop :=
  ∃ v, Json.find? (Text.ofString "data") ms = some v ∧ v.ListsTexts

theorem data_eq_ok (h : a.envelope = .ok ms) (hv : Json.find? (Text.ofString "data") ms = some v) :
    a.data = .ok v := by
  simp only [Answer.data, h, hv]

theorem data_eq_missing (h : a.envelope = .ok ms)
    (hv : Json.find? (Text.ofString "data") ms = none) : a.data = .error (.missing "data") := by
  simp only [Answer.data, h, hv]

/-- **A quote is a text** if the members give one. -/
theorem quoteOf_keeps_iff (h : a.envelope = .ok ms) :
    Keeps Json.IsText (quoteOf a) ↔ GivesText ms := by
  cases hdata : Json.find? (Text.ofString "data") ms with
  | none =>
    rw [quoteOf, data_eq_missing h hdata]
    refine iff_of_false not_keeps_missing ?_
    rintro ⟨members, t, hv, -⟩
    rw [hdata] at hv
    cases hv
  | some v =>
    have hgives : GivesText ms ↔ ∃ members t, v = .obj members ∧
        Json.find? (Text.ofString "fortune") members = some (.str t) := by
      simp only [GivesText, hdata, Option.some.injEq]
    rw [quoteOf, data_eq_ok h hdata, hgives]
    split
    · rename_i heq
      cases heq
    · rename_i members heq
      cases heq
      split
      · rename_i w hquote
        rw [keeps_ok_iff]
        constructor
        · rintro ⟨t, rfl⟩
          exact ⟨members, t, rfl, hquote⟩
        · rintro ⟨members', t, heq, ht⟩
          cases heq
          exact ⟨t, Option.some.inj (hquote.symm.trans ht)⟩
      · rename_i hquote
        refine iff_of_false not_keeps_missing ?_
        rintro ⟨members', t, heq, ht⟩
        cases heq
        cases hquote.symm.trans ht
    · rename_i hother heq
      cases heq
      refine iff_of_false not_keeps_wrongShape ?_
      rintro ⟨members, t, rfl, -⟩
      exact hother members rfl

/-- **Quotes are texts** if the members give some. -/
theorem quotesOf_keeps_iff (h : a.envelope = .ok ms) :
    Keeps AreTexts (quotesOf a) ↔ GivesTexts ms := by
  cases hdata : Json.find? (Text.ofString "data") ms with
  | none =>
    rw [quotesOf, data_eq_missing h hdata]
    refine iff_of_false not_keeps_missing ?_
    rintro ⟨v, hv, -⟩
    rw [hdata] at hv
    cases hv
  | some v =>
    have hgives : GivesTexts ms ↔ v.ListsTexts := by
      simp only [GivesTexts, hdata, Option.some.injEq, exists_eq_left']
    rw [quotesOf, data_eq_ok h hdata, hgives]
    exact listed_keeps_iff

/-- **The calls that return quotes keep their promise** for an answer that succeeds just if it is not
nested too deeply and its data give a text, or texts. -/
theorem Answer.promises_kept_iff (hs : a.isSuccess = true) (hms : a.Means (.obj ms)) :
    (∀ (c : ApiClient) (transport : Transport),
      (c.exchange transport quotePath false none).1 = .ok a →
        (Keeps Json.IsText (c.quote transport).1 ↔ ¬a.IsTooDeep ∧ GivesText ms)) ∧
      ∀ (c : ApiClient) (transport : Transport),
        (c.exchange transport allPath true none).1 = .ok a →
          (Keeps AreTexts (c.quotes transport).1 ↔ ¬a.IsTooDeep ∧ GivesTexts ms) := by
  by_cases hdeep : a.IsTooDeep
  · have henvelope := envelope_tooDeep hdeep
    refine ⟨fun c transport h => ?_, fun c transport h => ?_⟩
    · rw [(Receives.quote h).eq_error henvelope]
      exact iff_of_false not_keeps_tooDeep fun hg => hg.1 hdeep
    · rw [(Receives.quotes h).eq_error henvelope]
      exact iff_of_false not_keeps_tooDeep fun hg => hg.1 hdeep
  · have henvelope := envelope_members hs hms hdeep
    refine ⟨fun c transport h => ?_, fun c transport h => ?_⟩
    · rw [ApiClient.quote, reading_eq h, quoteOf_keeps_iff henvelope, and_iff_right hdeep]
    · rw [ApiClient.quotes, reading_eq h, quotesOf_keeps_iff henvelope, and_iff_right hdeep]

/-- The quotes that the service lists are texts, and their list is no quote. -/
theorem Answer.promises_kept_listing :
    let e := Service.Envelope.give 200 (Service.quotesData ["Carpe diem."])
    let a : Answer := ⟨200, [], Utf8.encode e.response.body⟩
    Keeps AreTexts (plain.quotes fun _ => .ok a).1 ∧
      ¬Keeps Json.IsText (plain.quote fun _ => .ok a).1 := by
  intro e a
  have hparse : Json.parse a.body = .ok (.obj e.members) :=
    Service.Envelope.parse_response Service.admits_ok (Service.plain_quotesData _ _)
      ((Service.depth_quotesData_le _).trans (by decide))
  have hdeep : ¬a.IsTooDeep := not_isTooDeep_of_parse hparse
  obtain ⟨hquote, hquotes⟩ := promises_kept_iff (a := a) rfl (Json.means_of_parseWith hparse)
  have hdata : Json.find? (Text.ofString "data") e.members = some (Service.quotesData ["Carpe diem."]) :=
    rfl
  constructor
  · refine (hquotes plain _ (reaches_plain.exchange_bare rfl (by decide) true 200 _)).2 ⟨hdeep, ?_⟩
    exact ⟨_, hdata, .arr (List.forall_mem_singleton.2 ⟨_, rfl⟩)⟩
  · rw [hquote plain _ (reaches_plain.exchange_bare rfl (by decide) false 200 _)]
    rintro ⟨-, members, t, hobject, -⟩
    rw [hdata] at hobject
    cases hobject

/-- An answer that succeeds without data breaks both calls off. -/
theorem Answer.promises_broken_bare :
    let a : Answer := ⟨200, [], Utf8.encode ['\x7b', '\x7d']⟩
    a.Succeeds ∧ Receives a (plain.quote fun _ => .ok a).1 ∧ Receives a (plain.quotes fun _ => .ok a).1 ∧
      ¬Keeps Json.IsText (plain.quote fun _ => .ok a).1 ∧
      ¬Keeps AreTexts (plain.quotes fun _ => .ok a).1 := by
  intro a
  have hparse : Json.parse a.body = .ok (.obj []) := rfl
  have hmeans : a.Means (.obj []) := Json.means_of_parseWith hparse
  have hdeep : ¬a.IsTooDeep := not_isTooDeep_of_parse hparse
  have henvelope : a.envelope = .ok [] := envelope_members rfl hmeans hdeep
  have hquote : (plain.exchange (fun _ => .ok a) quotePath false none).1 = .ok a :=
    reaches_plain.exchange_bare rfl (by decide) false 200 _
  have hquotes : (plain.exchange (fun _ => .ok a) allPath true none).1 = .ok a :=
    reaches_plain.exchange_bare rfl (by decide) true 200 _
  refine ⟨⟨rfl, _, hmeans⟩, .quote hquote, .quotes hquotes, ?_, ?_⟩
  · rw [ApiClient.quote, reading_eq hquote, quoteOf_keeps_iff henvelope]
    rintro ⟨members, t, hdata, -⟩
    cases hdata
  · rw [ApiClient.quotes, reading_eq hquotes, quotesOf_keeps_iff henvelope]
    rintro ⟨v, hdata, -⟩
    cases hdata

end Client

end QuoteService
