import QuoteService.Proofs.Json.Characters
import QuoteService.Proofs.Service.Answers
import QuoteService.Proofs.Service.Gate

/-!
# Adding a quote

A request to add a quote is looked at in a fixed order: its body, the store, the quotes in it. What it
ends with is settled by what the body says, told by the value that is read and by nothing else.

* `Payload.Malformed`, `Payload.Lacks`, `Payload.Asks`: what a body says.
* `Payload.says_demand`: **the quote that is taken from a body is what the body says**; nothing is lost on
  the way from the bytes to the quote.
* `Verdict`: the five ways in which such a request ends, each with its answer and its condition.
* `App.handle_eq_response_iff`: **the answer is the one whose condition holds.**
* `App.posting_atomic`: **so there is just one, and the store has the quote in it or is as it was.**
-/

namespace QuoteService.Service

open QuoteService.Http

/-! ## What a body says -/

namespace Payload

variable {body : List UInt8} {q : String}

/-- A body is a JSON object, and its member for the quote is this one, or is missing. -/
def Holds (body : List UInt8) (member : Option Json) : Prop :=
  ∃ members, Json.parseStrict body = .ok (.obj members) ∧
    Json.find? (Text.ofString "fortune") members = member

/-- A body is no JSON object, or its quote is neither a string nor null. -/
def Malformed (body : List UInt8) : Prop :=
  (¬∃ members, Json.parseStrict body = .ok (.obj members)) ∨
    ∃ v, Holds body (some v) ∧ v ≠ .null ∧ ∀ t, v ≠ .str t

/-- A body has no quote: it is missing, null or blank. -/
def Lacks (body : List UInt8) : Prop :=
  Holds body none ∨ Holds body (some .null) ∨
    ∃ q : String, Holds body (some (Json.ofString q)) ∧ Text.trim q.toList = []

/-- A body asks to add a quote that is not blank. -/
def Asks (body : List UInt8) (q : String) : Prop :=
  Holds body (some (Json.ofString q)) ∧ Text.trim q.toList ≠ []

/-- Of what a body asks to store nothing is left just if it is blank. -/
theorem quote?_some_eq_none_iff : quote? ⟨some q⟩ = none ↔ Text.trim q.toList = [] := by
  rw [← Text.isBlankText_iff_trim]
  simp [quote?]

theorem quote?_eq_some {q' : String} (h : quote? ⟨some q⟩ = some q') :
    q' = q ∧ Text.trim q.toList ≠ [] := by
  refine ⟨(Option.some.inj (Option.filter_eq_some_iff.1 h).1).symm, fun hblank => ?_⟩
  rw [quote?_some_eq_none_iff.2 hblank] at h
  cases h

theorem Holds.unique {member member' : Option Json} (h : Holds body member)
    (h' : Holds body member') : member = member' := by
  obtain ⟨members, hread, rfl⟩ := h
  obtain ⟨members', hread', rfl⟩ := h'
  cases hread.symm.trans hread'
  rfl

/-- A string that is read is a string of characters. -/
theorem Holds.exists_ofString {t : Text} (h : Holds body (some (.str t))) :
    ∃ s, t = Text.ofString s := by
  obtain ⟨members, hread, hfind⟩ := h
  obtain ⟨m, hm, hvalue⟩ := Option.map_eq_some_iff.1 hfind
  cases Json.whole_of_parseStrict hread with
  | obj _ hall =>
    have hstr := hall m (List.mem_of_find?_eq_some hm)
    rw [hvalue] at hstr
    cases hstr with
    | str hchars =>
      obtain ⟨cs, rfl⟩ := hchars
      exact ⟨String.ofList cs, by rw [Text.ofString, String.toList_ofList]⟩

theorem Malformed.not_holds {member : Option Json} (h : Malformed body) (hholds : Holds body member) :
    ∃ v, member = some v ∧ v ≠ .null ∧ ∀ t, v ≠ .str t := by
  rcases h with hobject | ⟨v, hv, hshape⟩
  · obtain ⟨members, hread, -⟩ := hholds
    exact absurd ⟨members, hread⟩ hobject
  · exact ⟨v, hholds.unique hv, hshape⟩

theorem Asks.unique {q' : String} (h : Asks body q) (h' : Asks body q') : q = q' :=
  Json.ofString_injective (Option.some.inj (h.1.unique h'.1))

theorem Malformed.not_asks (h : Malformed body) : ¬Asks body q := fun hasks => by
  obtain ⟨v, ⟨⟩, -, hne⟩ := h.not_holds hasks.1
  exact hne _ rfl

theorem Malformed.not_lacks (h : Malformed body) : ¬Lacks body := by
  rintro (hnone | hnull | ⟨q, hholds, -⟩)
  · obtain ⟨v, ⟨⟩, -⟩ := h.not_holds hnone
  · obtain ⟨v, ⟨⟩, hne, -⟩ := h.not_holds hnull
    exact hne rfl
  · obtain ⟨v, ⟨⟩, -, hne⟩ := h.not_holds hholds
    exact hne _ rfl

theorem Lacks.not_asks (h : Lacks body) : ¬Asks body q := fun hasks => by
  rcases h with hnone | hnull | ⟨q', hholds, hblank⟩
  · cases hnone.unique hasks.1
  · cases hnull.unique hasks.1
  · obtain rfl := Json.ofString_injective (Option.some.inj (hholds.unique hasks.1))
    exact hasks.2 hblank

/-- The quote that a body asks to add: there is no payload, no quote in it, or a quote. -/
def demand (body : List UInt8) : Option (Option String) := (ofBody body).map quote?

theorem demand_eq {payload : Payload} {taken : Option String} (h : ofBody body = some payload)
    (hquote : payload.quote? = taken) : demand body = some taken := by
  rw [demand, h, Option.map_some, hquote]

/-- What a body says, beside the quote that is taken from it. -/
inductive Says (body : List UInt8) : Option (Option String) → Prop
  | malformed (h : Malformed body) : Says body none
  | lacks (h : Lacks body) : Says body (some none)
  | asks {q : String} (h : Asks body q) : Says body (some (some q))

theorem Says.unique {d d' : Option (Option String)} (h : Says body d) (h' : Says body d') : d = d' := by
  cases h with
  | malformed h =>
    cases h' with
    | malformed => rfl
    | lacks h' => exact absurd h' h.not_lacks
    | asks h' => exact absurd h' h.not_asks
  | lacks h =>
    cases h' with
    | malformed h' => exact absurd h h'.not_lacks
    | lacks => rfl
    | asks h' => exact absurd h' h.not_asks
  | asks h =>
    cases h' with
    | malformed h' => exact absurd h h'.not_asks
    | lacks h' => exact absurd h h'.not_asks
    | asks h' => rw [h.unique h']

/-- A string says what is left of it when it is trimmed. -/
theorem says_quote? (h : Holds body (some (Json.ofString q))) : Says body (some (quote? ⟨some q⟩)) := by
  cases hquote : quote? ⟨some q⟩ with
  | none => exact .lacks (.inr (.inr ⟨q, h, quote?_some_eq_none_iff.1 hquote⟩))
  | some q' =>
    obtain ⟨rfl, hfull⟩ := quote?_eq_some hquote
    exact .asks ⟨h, hfull⟩

/-- **The quote that is taken from a body is what the body says.** -/
theorem says_demand (body : List UInt8) : Says body (demand body) := by
  by_cases hobject : ∃ members, Json.parseStrict body = .ok (.obj members)
  · obtain ⟨members, hread⟩ := hobject
    rw [demand, ofBody, hread]
    cases hmember : Json.find? (Text.ofString "fortune") members with
    | none =>
      simp only [hmember]
      exact .lacks (.inl ⟨members, hread, hmember⟩)
    | some v =>
      simp only [hmember]
      have hholds : Holds body (some v) := ⟨members, hread, hmember⟩
      cases v with
      | null => exact .lacks (.inr (.inl hholds))
      | str t =>
        obtain ⟨s, rfl⟩ := hholds.exists_ofString
        simp only [Text.toString?_ofString, Option.map_some]
        exact says_quote? hholds
      | bool | int | float | arr | obj => exact .malformed (.inr ⟨_, hholds, nofun, nofun⟩)
  · -- what is no object has no payload
    have hnone : ofBody body = none := by
      unfold ofBody
      split
      · rename_i members hread
        exact absurd ⟨members, hread⟩ hobject
      · rfl
    rw [demand, hnone]
    exact .malformed (.inl hobject)

theorem says_iff {d : Option (Option String)} : Says body d ↔ demand body = d :=
  ⟨fun h => (says_demand body).unique h, fun h => h ▸ says_demand body⟩

theorem malformed_iff : Malformed body ↔ demand body = none := by
  rw [← says_iff]
  refine ⟨.malformed, fun h => ?_⟩
  cases h with
  | malformed h => exact h

theorem lacks_iff : Lacks body ↔ demand body = some none := by
  rw [← says_iff]
  refine ⟨.lacks, fun h => ?_⟩
  cases h with
  | lacks h => exact h

theorem asks_iff : Asks body q ↔ demand body = some (some q) := by
  rw [← says_iff]
  refine ⟨.asks, fun h => ?_⟩
  cases h with
  | asks h => exact h

/-- What is written for a quote that is not blank asks to add it. -/
theorem asks_quoteData (hfull : Text.trim q.toList ≠ []) :
    Asks (Utf8.encode (Json.render .unescaped (quoteData q)).scalars) q := by
  refine ⟨⟨_, parseStrict_quoteData q, ?_⟩, hfull⟩
  simp [Json.find?, Json.field]

end Payload

/-! ## The five ways to end -/

/-- How a request to add a quote ends. -/
inductive Verdict where
  | malformed
  | missing
  | failed
  | duplicate
  | added
  deriving DecidableEq

namespace Verdict

/-- The answer to a request for `path` that ends so. -/
def response (path : String) : Verdict → Response
  | malformed => malformedBody.response
  | missing => (Envelope.say 400 "Parameter 'fortune' is required").response
  | failed => (internalError path).1
  | duplicate => (Envelope.plain 409).response
  | added => (Envelope.plain 201).response

/-- When a request ends so. -/
def Due (body : List UInt8) (db : Database) : Verdict → Prop
  | malformed => Payload.Malformed body
  | missing => Payload.Lacks body
  | failed => (∃ q, Payload.Asks body q) ∧ db.table = none
  | duplicate => ∃ q store, Payload.Asks body q ∧ db.table = some store ∧ q ∈ store.quotes
  | added => ∃ q store, Payload.Asks body q ∧ db.table = some store ∧ q ∉ store.quotes

/-- The status of the answer. -/
def status : Verdict → ℤ
  | malformed | missing => 400
  | failed => 500
  | duplicate => 409
  | added => 201

theorem status_response (path : String) (v : Verdict) : (v.response path).status = v.status := by
  cases v <;> rfl

/-- The answers to what is no body and to a body without a quote differ in what they say. -/
theorem malformed_ne_missing (path : String) : response path malformed ≠ response path missing := by
  show malformedBody.response ≠ (Envelope.say 400 "Parameter 'fortune' is required").response
  decide +kernel

/-- The others differ in their status. -/
theorem response_injective (path : String) : Function.Injective (response path) := by
  intro v v' h
  have hstatus := congrArg Response.status h
  rw [status_response, status_response] at hstatus
  cases v <;> cases v' <;> try first | rfl | exact absurd hstatus (by decide)
  · exact absurd h (malformed_ne_missing path)
  · exact absurd h.symm (malformed_ne_missing path)

end Verdict

open Payload

variable {call : Call} {db : Database} {o : Outcome}

/-- **What becomes of a request is one of the five ways**, and the only one that is due. -/
theorem Adding.verdict (h : Adding call db o) : ∃ v : Verdict,
    o.response = v.response call.request.path ∧ ∀ v', v'.Due call.request.body db ↔ v' = v := by
  cases h with
  | malformed hbody =>
    have hdemand : demand call.request.body = none := by rw [demand, hbody, Option.map_none]
    refine ⟨.malformed, rfl, fun v' => ?_⟩
    cases v' <;> simp [Verdict.Due, malformed_iff, lacks_iff, asks_iff, hdemand]
  | missing hbody hquote =>
    have hdemand := demand_eq hbody hquote
    refine ⟨.missing, rfl, fun v' => ?_⟩
    cases v' <;> simp [Verdict.Due, malformed_iff, lacks_iff, asks_iff, hdemand]
  | unstored hbody hquote htable =>
    have hdemand := demand_eq hbody hquote
    refine ⟨.failed, rfl, fun v' => ?_⟩
    cases v' <;> simp [Verdict.Due, malformed_iff, lacks_iff, asks_iff, hdemand, htable]
  | duplicate hbody hquote htable hstored =>
    have hdemand := demand_eq hbody hquote
    refine ⟨.duplicate, rfl, fun v' => ?_⟩
    cases v' <;> simp [Verdict.Due, malformed_iff, lacks_iff, asks_iff, hdemand, htable, hstored]
  | added hbody hquote htable hadd =>
    have hdemand := demand_eq hbody hquote
    have hnew := (Store.add_eq_ok_iff.1 hadd).1
    refine ⟨.added, rfl, fun v' => ?_⟩
    cases v' <;> simp [Verdict.Due, malformed_iff, lacks_iff, asks_iff, hdemand, htable, hnew]

/-- The database after a quote was added: the store is the old one with the quote appended, untrimmed,
under a number above all others. -/
def Appends (call : Call) (db db' : Database) : Prop :=
  ∃ q store id, Asks call.request.body q ∧ db.table = some store ∧
    (∀ row ∈ store.rows, row.id < id) ∧ db' = ⟨some ⟨store.rows ++ [⟨id, q⟩]⟩⟩

/-- Whatever becomes of a request, the quote is added and told to be, or the database is as it was. -/
theorem Adding.database (h : Adding call db o) :
    (o.response.status = 201 ∧ Appends call db o.database) ∨
      (o.response.status ≠ 201 ∧ o.database = db) := by
  cases h with
  | malformed => exact .inr ⟨(by decide : (400 : ℤ) ≠ 201), rfl⟩
  | missing => exact .inr ⟨(by decide : (400 : ℤ) ≠ 201), rfl⟩
  | unstored => exact .inr ⟨(by decide : (500 : ℤ) ≠ 201), rfl⟩
  | duplicate => exact .inr ⟨(by decide : (409 : ℤ) ≠ 201), rfl⟩
  | @added _ q store _ _ hbody hquote htable hadd =>
    obtain ⟨-, heq⟩ := Store.add_eq_ok_iff.1 hadd
    cases heq
    have hasks : Asks call.request.body q := asks_iff.2 (demand_eq hbody hquote)
    exact .inl ⟨rfl, q, store, store.nextId, hasks, htable, fun _ => Store.lt_nextId, rfl⟩

namespace App

variable {app : App}

/-- An admitted request to add a quote is handled as its handler handles it. -/
theorem handle_adding (hasks : call.asks .add = true) (hadmits : app.admits call = true)
    (db : Database) : ∃ o, Adding call db o ∧ (app.handle call db).response = o.response ∧
      (app.handle call db).database = o.database := by
  obtain ⟨hresponse, hdatabase⟩ := guarded_admitted hadmits db addQuote
  rw [handle_add hasks]
  exact ⟨addQuote call db, addQuote_adding call db, hresponse, hdatabase⟩

/-- **The answer is the one that is due.** -/
theorem handle_eq_response_iff (hasks : call.asks .add = true) (hadmits : app.admits call = true)
    (db : Database) (v : Verdict) :
    (app.handle call db).response = v.response call.request.path ↔ v.Due call.request.body db := by
  obtain ⟨o, hadding, hresponse, -⟩ := handle_adding hasks hadmits db
  obtain ⟨due, hdue, hiff⟩ := hadding.verdict
  rw [hresponse, hdue, hiff]
  exact ⟨fun h => (Verdict.response_injective _ h).symm, fun h => by rw [h]⟩

/-- What is wrong with a body is so whatever is stored. -/
theorem response_eq_of_status (hasks : call.asks .add = true) (hadmits : app.admits call = true)
    (hstatus : (app.handle call db).response.status = 400) (db' : Database) :
    (app.handle call db').response = (app.handle call db).response := by
  obtain ⟨o, hadding, hresponse, -⟩ := handle_adding hasks hadmits db
  obtain ⟨v, hv, -⟩ := hadding.verdict
  rw [← hresponse] at hv
  have hdue := (handle_eq_response_iff hasks hadmits db v).1 hv
  rw [hv, Verdict.status_response] at hstatus
  rw [hv, handle_eq_response_iff hasks hadmits db' v]
  cases v with
  | malformed => exact hdue
  | missing => exact hdue
  | failed | duplicate | added => exact absurd hstatus (by decide)

/-- **Adding a quote ends in just one way and is atomic.** An admitted request to add a quote, with
whatever body and whatever is stored, has exactly one of the five answers, the one whose condition
holds. With 201 the store is the old one with the quote of the body appended as it is, under a number
above all others; with any other answer the database is as it was. What is answered with 400 is
answered so whatever is stored. -/
theorem posting_atomic (app : App) (call : Call) (db : Database) (hasks : call.asks .add = true)
    (hadmits : app.admits call = true) :
    let o := app.handle call db
    (∃! v : Verdict, o.response = v.response call.request.path) ∧
      (∀ v : Verdict, o.response = v.response call.request.path ↔ v.Due call.request.body db) ∧
      (o.response.status = 201 → Appends call db o.database) ∧
      (o.response.status ≠ 201 → o.database = db) ∧
      (o.response.status = 400 → ∀ db', (app.handle call db').response = o.response) := by
  obtain ⟨o, hadding, hresponse, hdatabase⟩ := handle_adding hasks hadmits db
  obtain ⟨v, hv, -⟩ := hadding.verdict
  have hstored := hadding.database
  rw [← hresponse, ← hdatabase] at hstored
  refine ⟨⟨v, hresponse.trans hv, fun v' hv' => ?_⟩, handle_eq_response_iff hasks hadmits db, ?_, ?_,
    fun hstatus => response_eq_of_status hasks hadmits hstatus⟩
  · exact Verdict.response_injective _ (hv'.symm.trans (hresponse.trans hv))
  · rcases hstored with ⟨-, happends⟩ | ⟨hne, -⟩
    · exact fun _ => happends
    · exact fun hstatus => absurd hstatus hne
  · rcases hstored with ⟨hstatus, -⟩ | ⟨-, hdb⟩
    · exact fun hne => absurd hstatus hne
    · exact fun _ => hdb

/-- A quote with blanks around it is added to a store that has it without them, as it is. -/
theorem posting_atomic_padded :
    let authority := Token.Authority.ofLetters
    let app : App := ⟨authority⟩
    let token := authority.minted 0 60 quotePath
    let q := " Carpe diem."
    let body := Utf8.encode (Json.render .unescaped (quoteData q)).scalars
    let call : Call := ⟨⟨"POST", quotePath, none, [("Authorization", token)], body, none⟩, 59999, 0⟩
    let db : Database := ⟨some ⟨[⟨7, "Carpe diem."⟩]⟩⟩
    call.asks .add = true ∧ app.admits call = true ∧ (app.handle call db).response.status = 201 ∧
      ∃ id > 7, (app.handle call db).database =
        ⟨some ⟨[⟨7, "Carpe diem."⟩, ⟨id, q⟩]⟩⟩ := by
  intro authority app token q body call db
  have hasks : call.asks .add = true := by decide
  have hadmits : app.admits call = true := by
    have hminted : authority.generate 0 60 (some quotePath) = .ok token :=
      Token.Authority.generate_ofLetters quotePath
    exact admits_of_minted rfl rfl hminted (by decide) (Call.token?_eq rfl)
  have hquote : Payload.Asks body q := Payload.asks_quoteData (by decide +kernel)
  obtain ⟨-, hanswer, hadded, -, -⟩ := posting_atomic app call db hasks hadmits
  have hresponse := (hanswer .added).2 ⟨_, _, hquote, rfl, by decide⟩
  have hstatus : (app.handle call db).response.status = 201 := by rw [hresponse]; rfl
  obtain ⟨q', store, id, hasked, htable, hlt, hdb⟩ := hadded hstatus
  cases htable
  obtain rfl := hquote.unique hasked
  exact ⟨hasks, hadmits, hstatus, id, hlt ⟨7, "Carpe diem."⟩ List.mem_cons_self, hdb⟩

end App

end QuoteService.Service
