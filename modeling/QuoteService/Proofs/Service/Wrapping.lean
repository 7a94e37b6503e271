import QuoteService.Proofs.Service.Answers

/-!
# Nothing is lost in an envelope

An envelope is made of any code, data and message, not only of those that the handlers give. What can
be read back from JSON goes into it as it is and comes out of the body as it went in.

* `Json.Plain.withoutNonFinite_eq`, `Json.Plain.sendable`: a plain value is sent as it is.
* `Envelope.make_makes`: what is made of a code, data and a message, all cases at once.
* `Envelope.toJson_injective`: the object of an envelope tells all of it.
* `Envelope.ofValues_lossless`: **only what says nothing at all, under a code without a phrase, gives no
  envelope; the body of any other is read as the values that it was made of.**
-/

namespace QuoteService

/-! ## Values that are sent as they are -/

namespace Json

theorem itemsWithoutNonFinite_eq_map (vs : List Json) :
    itemsWithoutNonFinite vs = vs.map withoutNonFinite := by
  induction vs with
  | nil => rfl
  | cons v vs ih => rw [itemsWithoutNonFinite, ih, List.map_cons]

theorem membersWithoutNonFinite_eq_map (ms : List (Text × Json)) :
    membersWithoutNonFinite ms = ms.map fun m => (m.1, withoutNonFinite m.2) := by
  induction ms with
  | nil => rfl
  | cons m ms ih => rw [membersWithoutNonFinite, ih, List.map_cons]

variable {d : Dialect} {v : Json}

/-- A plain value has no number that is not finite. -/
theorem Plain.withoutNonFinite_eq (h : Plain d v) : v.withoutNonFinite = v := by
  induction h with
  | null => rfl
  | bool => rfl
  | int => rfl
  | str => rfl
  | @arr items _ ih =>
    have hitems : items.map withoutNonFinite = items := by
      rw [List.map_congr_left ih, List.map_id']
    rw [withoutNonFinite, itemsWithoutNonFinite_eq_map, hitems]
  | @obj members _ _ _ ih =>
    have hmembers : (members.map fun m => (m.1, withoutNonFinite m.2)) = members := by
      have hsame : ∀ m ∈ members, (m.1, withoutNonFinite m.2) = m :=
        fun m hm => Prod.ext rfl (ih m hm)
      rw [List.map_congr_left hsame, List.map_id']
    rw [withoutNonFinite, membersWithoutNonFinite_eq_map, hmembers]

/-- The text of a plain value can be sent. -/
theorem Plain.sendable (h : Plain d v) (style : Style) :
    (renderChars? style v).isNone = false := by
  have hchars : IsChars (render style v) := render_isChars h
  obtain ⟨cs, hcs⟩ := hchars
  rw [renderChars?, hcs, Text.toChars?_ofChars]
  rfl

end Json

namespace Service

open QuoteService.Http

/-- The value of a message: its text, or null. -/
def messageJson (message : Option String) : Json := message.elim .null Json.ofString

theorem messageJson_injective : Function.Injective messageJson := by
  intro message message' h
  cases message with
  | none =>
    cases message' with
    | none => rfl
    | some m' => cases h
  | some m =>
    cases message' with
    | none => cases h
    | some m' => rw [Json.ofString_injective h]

theorem isNull_iff {v : Json} : isNull v = true ↔ v = .null := by
  cases v <;> simp [isNull]

namespace Envelope

variable {code : ℤ} {data : Json} {message : Option String}

theorem messageValue_eq (e : Envelope) : e.messageValue = messageJson e.message := by
  obtain ⟨code, message, data⟩ := e
  cases message <;> rfl

theorem outcome_eq (code : ℤ) :
    outcome code = if 200 ≤ code ∧ code < 300 then "success" else "error" := by
  rw [outcome, isSuccess]
  simp only [Bool.and_eq_true, decide_eq_true_eq]

/-- What is made of a code, data and a message. Where there is neither data nor a message, the phrase of the
code is the message, and a code without a phrase gives no envelope. -/
inductive Makes (code : ℤ) : Json → Option String → Except EnvelopeError Envelope → Prop
  | unregistered (hcode : phrase? code = none) :
      Makes code .null none (.error (.unknownStatus code))
  | named {phrase : String} (hcode : phrase? code = some phrase) :
      Makes code .null none (.ok ⟨code, some phrase, .null⟩)
  | given {data : Json} {message : Option String} (h : ¬(message = none ∧ data = .null)) :
      Makes code data message (.ok ⟨code, message, data⟩)

theorem make_makes (code : ℤ) (data : Json) (message : Option String) :
    Makes code data message (make code data message) := by
  unfold make
  split
  · rename_i hsilent
    obtain ⟨hmessage, hdata⟩ := Bool.and_eq_true_iff.1 hsilent
    obtain rfl := Option.isNone_iff_eq_none.1 hmessage
    obtain rfl := isNull_iff.1 hdata
    split
    · rename_i hphrase
      exact .named hphrase
    · rename_i hphrase
      exact .unregistered hphrase
  · rename_i hsaid
    refine .given ?_
    rintro ⟨rfl, rfl⟩
    exact hsaid rfl

theorem Makes.code_eq {e : Envelope} (h : Makes code data message (.ok e)) : e.code = code := by
  cases h with
  | named => rfl
  | given => rfl

theorem Makes.data_eq {e : Envelope} (h : Makes code data message (.ok e)) : e.data = data := by
  cases h with
  | named => rfl
  | given => rfl

theorem Makes.message_eq {e : Envelope} (h : Makes code data message (.ok e))
    (hdata : data ≠ .null) : e.message = message := by
  cases h with
  | named => exact absurd rfl hdata
  | given => rfl

/-- There is no envelope just where nothing is said and the code has no phrase. -/
theorem make_eq_error_iff : make code data message = .error (.unknownStatus code) ↔
    (message = none ∧ data = .null) ∧ phrase? code = none := by
  have hmade := make_makes code data message
  generalize make code data message = made at hmade ⊢
  cases hmade with
  | unregistered hcode => exact ⟨fun _ => ⟨⟨rfl, rfl⟩, hcode⟩, fun _ => rfl⟩
  | named hcode =>
    refine ⟨nofun, fun h => ?_⟩
    rw [hcode] at h
    cases h.2
  | given hsaid => exact ⟨nofun, fun h => absurd h.1 hsaid⟩

/-- Everything else gives an envelope of the code and the data, with the message or the phrase. -/
theorem exists_make (h : ¬((message = none ∧ data = .null) ∧ phrase? code = none)) :
    ∃ said, make code data message = .ok ⟨code, said, data⟩ ∧
      (message = none ∧ data = .null → said = phrase? code) ∧
      (¬(message = none ∧ data = .null) → said = message) := by
  have hmade := make_makes code data message
  generalize make code data message = made at hmade ⊢
  cases hmade with
  | unregistered hcode => exact absurd ⟨⟨rfl, rfl⟩, hcode⟩ h
  | named hcode => exact ⟨_, rfl, fun _ => hcode.symm, fun hsaid => absurd ⟨rfl, rfl⟩ hsaid⟩
  | given hsaid => exact ⟨_, rfl, fun hsilent => absurd hsilent hsaid, fun _ => rfl⟩

/-- What is made keeps its data where no number of it is replaced. -/
theorem bind_make (hdata : data.withoutNonFinite = data) :
    (do let e ← make code data message; pure { e with data := data.withoutNonFinite }) =
      make code data message := by
  have hmade := make_makes code data message
  cases hmake : make code data message with
  | error fault => rfl
  | ok e =>
    rw [hmake] at hmade
    rw [hdata, ← hmade.data_eq]
    rfl

/-- **Values that can be read back go into an envelope as they are.** -/
theorem ofValues_eq (code : ℤ) (message : Option String) (hdata : Json.Plain .lenient data)
    (hdepth : data.depth ≤ maxDepth) :
    ofValues code data (messageJson message) = make code data message := by
  have hsendable : (Json.renderChars? .unescaped data).isNone = false := hdata.sendable _
  have hshallow : ¬maxDepth < data.depth := Nat.not_lt.2 hdepth
  rw [← bind_make hdata.withoutNonFinite_eq]
  cases message with
  | none =>
    simp only [ofValues, messageJson, Option.elim, pure_bind, Option.map_none, Option.any_none,
      hsendable, hshallow, Bool.or_false, Bool.false_eq_true, if_false]
  | some m =>
    have hshown : (Text.ofString m).shownString = m := Text.shownString_ofString m
    have hchars : (Text.ofString m).toChars?.isNone = false := by
      rw [Text.ofString, Text.toChars?_ofChars, Option.isNone_some]
    simp only [ofValues, messageJson, Option.elim, Json.ofString, pure_bind, Option.map_some,
      Option.any_some, hshown, hchars, hsendable, hshallow, Bool.or_false, Bool.false_eq_true,
      if_false]

/-- An envelope of values that can be read back is made of them. -/
theorem makes_of_ofValues {e : Envelope} (hdata : Json.Plain .lenient data)
    (hdepth : data.depth ≤ maxDepth) (h : ofValues code data (messageJson message) = .ok e) :
    Makes code data message (.ok e) := by
  have hmade := make_makes code data message
  rwa [← ofValues_eq code message hdata hdepth, h] at hmade

/-- The object of an envelope tells all of it. -/
theorem toJson_injective : Function.Injective toJson := by
  intro e e' h
  rw [toJson_eq, toJson_eq, messageValue_eq, messageValue_eq] at h
  simp only [Json.obj.injEq, List.cons.injEq, Json.field, Prod.mk.injEq, Json.int.injEq, true_and,
    and_true] at h
  obtain ⟨-, hcode, hmessage, hdata⟩ := h
  obtain ⟨code, message, data⟩ := e
  obtain ⟨code', message', data'⟩ := e'
  obtain rfl : code = code' := hcode
  obtain rfl : message = message' := messageJson_injective hmessage
  obtain rfl : data = data' := hdata
  rfl

/-- **An envelope is told by its body**, if it can be read back. -/
theorem eq_of_body_eq {e e' : Envelope} (hcode : Json.Dialect.lenient.Admits e.code)
    (hdata : Json.Plain .lenient e.data) (hdepth : e.data.depth ≤ maxDepth)
    (hcode' : Json.Dialect.lenient.Admits e'.code) (hdata' : Json.Plain .lenient e'.data)
    (hdepth' : e'.data.depth ≤ maxDepth) (h : e.response.body = e'.response.body) : e = e' := by
  have hparse := parse_response hcode hdata hdepth
  rw [h, parse_response hcode' hdata' hdepth'] at hparse
  exact (toJson_injective (Except.ok.inj hparse)).symm

/-- **An envelope loses nothing.** Take any code, any message or none, and any data of null, booleans,
integers, strings, lists and objects that are nested no more deeply than is written, where no integer has
more digits than a reader takes. There is no envelope just if there is neither message nor data and the
code is not registered. Otherwise the body of the answer is read as an object of the same code, the same
data and the same message, in whose place there is the reason phrase just if there is neither message nor
data; its status is "success" just for codes from 200 to 299. So answers of the same body are of the same
code and the same data, and of the same message if the data are not null. -/
theorem ofValues_lossless (hcode : Json.Dialect.lenient.Admits code)
    (hdata : Json.Plain .lenient data) (hdepth : data.depth ≤ maxDepth) :
    (ofValues code data (messageJson message) = .error (.unknownStatus code) ↔
      (message = none ∧ data = .null) ∧ phrase? code = none) ∧
    (¬((message = none ∧ data = .null) ∧ phrase? code = none) →
      ∃ e said, ofValues code data (messageJson message) = .ok e ∧
        Json.parse (Utf8.encode e.response.body) = .ok (.obj
          [Json.field "status"
              (Json.ofString (if 200 ≤ code ∧ code < 300 then "success" else "error")),
            Json.field "code" (.int code), Json.field "message" (messageJson said),
            Json.field "data" data]) ∧
        (message = none ∧ data = .null → said = phrase? code) ∧
        (¬(message = none ∧ data = .null) → said = message)) ∧
    ∀ {code' : ℤ} {data' : Json} {message' : Option String} {e e' : Envelope},
      Json.Dialect.lenient.Admits code' → Json.Plain .lenient data' → data'.depth ≤ maxDepth →
      ofValues code data (messageJson message) = .ok e →
      ofValues code' data' (messageJson message') = .ok e' →
      e.response.body = e'.response.body →
        code = code' ∧ data = data' ∧ (data ≠ .null → message = message') := by
  have hmade := ofValues_eq code message hdata hdepth
  refine ⟨?_, ?_, ?_⟩
  · rw [hmade]
    exact make_eq_error_iff
  · intro hsaid
    obtain ⟨said, hmake, hphrase, hmessage⟩ := exists_make hsaid
    refine ⟨_, said, hmade.trans hmake, ?_, hphrase, hmessage⟩
    rw [parse_response hcode hdata hdepth, toJson_eq, outcome_eq, messageValue_eq]
  · intro code' data' message' e e' hcode' hdata' hdepth' he he' hbody
    have hmakes := makes_of_ofValues hdata hdepth he
    have hmakes' := makes_of_ofValues hdata' hdepth' he'
    obtain rfl := hmakes.code_eq
    obtain rfl := hmakes.data_eq
    obtain rfl := hmakes'.code_eq
    obtain rfl := hmakes'.data_eq
    obtain rfl := eq_of_body_eq hcode hdata hdepth hcode' hdata' hdepth' hbody
    refine ⟨rfl, rfl, fun hne => ?_⟩
    rw [← hmakes.message_eq hne, hmakes'.message_eq hne]

/-- What would count as nothing stays what it is, in its place, and gets no phrase. The answer that has an
empty object with the phrase as its message is another one. -/
theorem ofValues_lossless_object :
    let list : Json := .arr [.bool false, .int 0, .arr [], Json.ofString "\"Più tardi\"\n\\"]
    let data : Json := .obj [Json.field "z" list, Json.field "a" .null]
    Json.Dialect.lenient.Admits 200 ∧ Json.Plain .lenient data ∧ data.depth ≤ maxDepth ∧
      ∃ e, ofValues 200 data .null = .ok e ∧
        Json.parse (Utf8.encode e.response.body) = .ok (.obj
          [Json.field "status" (Json.ofString "success"), Json.field "code" (.int 200),
            Json.field "message" .null, Json.field "data" data]) ∧
        ∀ e', ofValues 200 (.obj []) (Json.ofString "OK") = .ok e' →
          e.response.body ≠ e'.response.body := by
  intro list data
  have hzero : Json.Dialect.lenient.Admits 0 :=
    Json.Dialect.admits_lenient_iff.2 (by decide +kernel)
  have hlist : Json.Plain .lenient list := by
    refine .arr ?_
    simp only [List.forall_mem_cons]
    exact ⟨.bool false, .int hzero, .arr nofun, .str _, nofun⟩
  have hdata : Json.Plain .lenient data := by
    refine .ofFields [("z", list), ("a", .null)] (by decide) ?_
    simp only [List.forall_mem_cons]
    exact ⟨hlist, .null, nofun⟩
  have hdepth : data.depth ≤ maxDepth := by show 3 ≤ 255; decide
  have hne : data ≠ .null := nofun
  obtain ⟨-, hread, hapart⟩ := @ofValues_lossless 200 data none admits_ok hdata hdepth
  obtain ⟨e, said, hmade, hparse, -, hsaid⟩ := hread fun hsilent => hne hsilent.1.2
  obtain rfl := hsaid fun hsilent => hne hsilent.2
  refine ⟨admits_ok, hdata, hdepth, e, hmade, hparse, ?_⟩
  intro e' hmade' hbody
  replace hmade' : ofValues 200 (.obj []) (messageJson (some "OK")) = .ok e' := hmade'
  have hempty : Json.Plain .lenient (.obj []) := .ofFields [] List.nodup_nil nofun
  have hshallow : (Json.obj []).depth ≤ maxDepth := by show 1 ≤ 255; decide
  have hsame := hapart admits_ok hempty hshallow hmade hmade' hbody
  exact absurd (Json.obj.inj hsame.2.1) (List.cons_ne_nil _ _)

end Envelope

end Service

end QuoteService
