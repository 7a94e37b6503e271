import QuoteService.Proofs.Client.Envelopes
import QuoteService.Proofs.Client.Requests
import QuoteService.Proofs.Service.Posting

/-!
# What a client makes of the answer to a call

* `Answered`: **what the service answers to an admitted request**, by the quotes that are stored.
* `App.handle_answers`: a request that has arrived and is admitted is answered so.
* `App.handle_refuses`: a request that shows no bearer token is refused.
* `Agrees`: what a call has to return, by the quotes that are stored.
* `read_agrees`: **what the service answers is read as what the call has to return.**
-/

namespace QuoteService

/-! ## The service -/

namespace Service

open QuoteService.Client

variable {store : Store} {app : App} {call : Service.Call} {op : Operation} {shown : Option Text}

/-- What the service answers to an admitted request for an operation, and the store after it. -/
inductive Answered (store : Store) : Operation → Envelope → Store → Prop
  | quote {q : String} (h : q ∈ store.quotes) :
      Answered store .quote (.give 200 (quoteData q)) store
  | noQuote (h : store.quotes = []) :
      Answered store .quote (.say 404 "No fortunes available") store
  | quotes : Answered store .quotes (.give 200 (quotesData store.quotes)) store
  | blank {q : String} (h : Text.trim q.toList = []) :
      Answered store (.add q) (.say 400 "Parameter 'fortune' is required") store
  | duplicate {q : String} (hfull : Text.trim q.toList ≠ []) (h : q ∈ store.quotes) :
      Answered store (.add q) (.plain 409) store
  | added {q : String} {row : Row} {store' : Store} (hfull : Text.trim q.toList ≠ [])
      (h : store.add (some q) = .ok (row, store')) : Answered store (.add q) (.plain 201) store'

/-- An outcome has the answer of an operation, and its database the store after it. -/
def Outcome.Answers (o : Outcome) (store : Store) (op : Operation) : Prop :=
  ∃ e store', o.response = e.response ∧ o.database = ⟨some store'⟩ ∧ Answered store op e store'

theorem giveRandom_answers (call : Service.Call) (store : Store) :
    (giveRandom call ⟨some store⟩).Answers store .quote := by
  have h := giveRandom_giving call ⟨some store⟩
  generalize giveRandom call ⟨some store⟩ = outcome at h ⊢
  cases h with
  | unstored htable => cases htable
  | given htable hpick => cases htable; exact ⟨_, store, rfl, rfl, .quote (Store.mem_of_random? hpick)⟩
  | missing htable hempty => cases htable; exact ⟨_, store, rfl, rfl, .noQuote hempty⟩

theorem giveAll_answers (call : Service.Call) (store : Store) :
    (giveAll call ⟨some store⟩).Answers store .quotes :=
  ⟨_, store, rfl, rfl, .quotes⟩

theorem addQuote_answers {q : String} (hbody : Payload.ofBody call.request.body = some ⟨some q⟩)
    (store : Store) : (addQuote call ⟨some store⟩).Answers store (.add q) := by
  have h := addQuote_adding call ⟨some store⟩
  generalize addQuote call ⟨some store⟩ = outcome at h ⊢
  cases h with
  | malformed hnone => rw [hbody] at hnone; cases hnone
  | missing hsome hquote =>
    cases hbody.symm.trans hsome
    exact ⟨_, store, rfl, rfl, .blank (Payload.quote?_some_eq_none_iff.1 hquote)⟩
  | unstored _ _ htable => cases htable
  | duplicate hsome hquote htable hstored =>
    cases hbody.symm.trans hsome
    cases htable
    obtain ⟨rfl, hfull⟩ := Payload.quote?_eq_some hquote
    exact ⟨_, store, rfl, rfl, .duplicate hfull hstored⟩
  | added hsome hquote htable hadd =>
    cases hbody.symm.trans hsome
    cases htable
    obtain ⟨rfl, hfull⟩ := Payload.quote?_eq_some hquote
    exact ⟨_, _, rfl, rfl, .added hfull hadd⟩

namespace App

/-- **A request that has arrived is answered by what is stored**, if its token is admitted wherever
one is asked for. -/
theorem handle_answers (h : op.Arrives shown call.request)
    (hadmits : op.showsToken = true → app.admits call = true) (store : Store) :
    (app.handle call ⟨some store⟩).Answers store op := by
  have hasks : call.asks op.route = true := h.asks call.now call.pick
  cases op with
  | quote =>
    rw [handle_random hasks]
    exact giveRandom_answers call store
  | quotes =>
    obtain ⟨hresponse, hdb⟩ := guarded_admitted (hadmits rfl) ⟨some store⟩ giveAll
    rw [handle_all hasks, Outcome.Answers, hresponse, hdb]
    exact giveAll_answers call store
  | add q =>
    obtain ⟨hresponse, hdb⟩ := guarded_admitted (hadmits rfl) ⟨some store⟩ addQuote
    rw [handle_add hasks, Outcome.Answers, hresponse, hdb]
    exact addQuote_answers (h.quote q rfl) store

/-- **A request that has arrived is refused** if its token is not admitted where one is asked for. -/
theorem handle_refuses (h : op.Arrives shown call.request) (hshows : op.showsToken = true)
    (hadmits : app.admits call = false) (db : Database) :
    (app.handle call db).response = unauthorized ∧ (app.handle call db).database = db := by
  have hasks : call.asks op.route = true := h.asks call.now call.pick
  obtain ⟨failure, hrefuses⟩ := admits_eq_false_iff.1 hadmits
  cases op with
  | quote => cases hshows
  | quotes =>
    rw [handle_all hasks, guarded_refused hrefuses]
    exact ⟨rfl, rfl⟩
  | add q =>
    rw [handle_add hasks, guarded_refused hrefuses]
    exact ⟨rfl, rfl⟩

end App

end Service

/-! ## One call -/

namespace Client

open QuoteService.Service

/-- A call of a client, with the moment in milliseconds at which it is handled and the place in the
store that a random choice hits. -/
structure Step where
  operation : Operation
  now : ℤ
  pick : ℕ

/-- What a call returns or raises. -/
inductive Result where
  | quote (r : Except CallError Json)
  | quotes (r : Except CallError (List Json))
  | added (r : Except CallError Bool)

/-- The quote that a call reports to have added. -/
def reported? : Operation → Result → Option String
  | .add q, .added (.ok true) => some q
  | _, _ => none

/-- **What a call has to return**, by the quotes that are stored. -/
def Agrees (stored : List String) : Operation → Result → Prop
  | .quote, .quote r =>
    (stored ≠ [] → ∃ q ∈ stored, r = .ok (Json.ofString q)) ∧
      (stored = [] → Reports r (Text.ofString "No fortunes available (404)"))
  | .quotes, .quotes r => r = .ok (stored.map Json.ofString)
  | .add q, .added r =>
    (r = .ok true ↔ Text.trim q.toList ≠ [] ∧ q ∉ stored) ∧
      (Reports r (Text.ofString "Conflict (409)") ↔ Text.trim q.toList ≠ [] ∧ q ∈ stored) ∧
      (Reports r (Text.ofString "Parameter 'fortune' is required (400)") ↔ Text.trim q.toList = [])
  | _, _ => False

/-- What a call makes of an answer. -/
def Operation.read : Operation → Answer → Result
  | .quote, a => .quote (ApiClient.quoteOf a)
  | .quotes, a => .quotes (ApiClient.quotesOf a)
  | .add _, a => .added (ApiClient.addedOf a)

variable {store store' : Store} {op : Operation} {e : Envelope}

theorem code_mem_of_answered (h : Answered store op e store') : e.code ∈ Envelope.codes := by
  cases h with
  | quote => show 200 ∈ Envelope.codes; decide
  | noQuote => show 404 ∈ Envelope.codes; decide
  | quotes => show 200 ∈ Envelope.codes; decide
  | blank => show 400 ∈ Envelope.codes; decide
  | duplicate => show 409 ∈ Envelope.codes; decide
  | added => show 201 ∈ Envelope.codes; decide

variable {stored : List String} {q : String} {r : Except CallError Bool} {text : Text}

/-- An addition that reports a text tells nothing else. -/
theorem Reports.alone (h : Reports r text) : r ≠ .ok true ∧
    (∀ text', Reports r text' ↔ text' = text) ∧ reported? (.add q) (.added r) = none := by
  have hother : ∀ text', Reports r text' ↔ text' = text :=
    fun _ => ⟨fun h' => h'.eq h, fun he => he ▸ h⟩
  obtain ⟨fault, rfl, -⟩ := h
  exact ⟨nofun, hother, rfl⟩

theorem agrees_blank (hblank : Text.trim q.toList = [])
    (h : Reports r (Text.ofString "Parameter 'fortune' is required (400)")) :
    Agrees stored (.add q) (.added r) := by
  obtain ⟨hok, hother, -⟩ := h.alone (q := q)
  have hne : Text.ofString "Conflict (409)" ≠
      Text.ofString "Parameter 'fortune' is required (400)" := by decide
  refine ⟨⟨fun he => absurd he hok, fun hn => absurd hblank hn.1⟩, ?_, ?_⟩
  · rw [hother]
    exact ⟨fun he => absurd he hne, fun hn => absurd hblank hn.1⟩
  · exact ⟨fun _ => hblank, fun _ => h⟩

theorem agrees_duplicate (hfull : Text.trim q.toList ≠ []) (hq : q ∈ stored)
    (h : Reports r (Text.ofString "Conflict (409)")) : Agrees stored (.add q) (.added r) := by
  obtain ⟨hok, hother, -⟩ := h.alone (q := q)
  have hne : Text.ofString "Parameter 'fortune' is required (400)" ≠
      Text.ofString "Conflict (409)" := by decide
  refine ⟨⟨fun he => absurd he hok, fun hn => absurd hq hn.2⟩, ⟨fun _ => ⟨hfull, hq⟩, fun _ => h⟩, ?_⟩
  rw [hother]
  exact ⟨fun he => absurd he hne, fun hblank => absurd hblank hfull⟩

theorem agrees_added (hfull : Text.trim q.toList ≠ []) (hnew : q ∉ stored) :
    Agrees stored (.add q) (.added (.ok true)) :=
  ⟨⟨fun _ => ⟨hfull, hnew⟩, fun _ => rfl⟩,
    ⟨fun h => absurd h not_reports_ok, fun h => absurd h.2 hnew⟩,
    ⟨fun h => absurd h not_reports_ok, fun h => absurd h hfull⟩⟩

/-- **What the service answers is read as what the call has to return**, and it tells what is stored. -/
theorem read_agrees (h : Answered store op e store') :
    Agrees store.quotes op (op.read (.ofResponse e.response)) ∧
      store'.quotes = store.quotes ++ (reported? op (op.read (.ofResponse e.response))).toList := by
  cases h with
  | quote hq =>
    refine ⟨⟨fun _ => ⟨_, hq, quoteOf_give _⟩, fun hempty => ?_⟩, (List.append_nil _).symm⟩
    rw [hempty] at hq
    cases hq
  | noQuote hempty =>
    refine ⟨⟨fun hne => absurd hempty hne, fun _ => ?_⟩, (List.append_nil _).symm⟩
    exact reports_say (fun _ _ => quoteOf_eq_error) (by decide) (by decide) (by decide +kernel)
  | quotes => exact ⟨quotesOf_give _, (List.append_nil _).symm⟩
  | blank hblank =>
    have hreports : Reports (ApiClient.addedOf (.ofResponse
        (Envelope.say 400 "Parameter 'fortune' is required").response))
        (Text.ofString "Parameter 'fortune' is required (400)") :=
      reports_say (fun _ _ => addedOf_eq_error) (by decide) (by decide) (by decide +kernel)
    exact ⟨agrees_blank hblank hreports, by
      rw [Operation.read, hreports.alone.2.2]; exact (List.append_nil _).symm⟩
  | duplicate hfull hq =>
    have hreports : Reports (ApiClient.addedOf (.ofResponse (Envelope.plain 409).response))
        (Text.ofString "Conflict (409)") :=
      reports_say (fun _ _ => addedOf_eq_error) (by decide) (by decide) (by decide +kernel)
    exact ⟨agrees_duplicate hfull hq hreports, by
      rw [Operation.read, hreports.alone.2.2]; exact (List.append_nil _).symm⟩
  | added hfull hadd =>
    rw [Operation.read, addedOf_created]
    exact ⟨agrees_added hfull (Store.add_eq_ok_iff.1 hadd).1, Store.add_quotes hadd⟩

end Client

end QuoteService
