import QuoteService.Proofs.Store.Rows
import QuoteService.Service.App

/-!
# What the handlers do

Each handler is taken apart once, into the cases that it tells apart. What is said about its answers
elsewhere is read off these.

* `Giving`: what becomes of a request for a random quote.
* `Adding`: what becomes of a request to add a quote.
* `giveRandom_giving`, `addQuote_adding`: **the handlers do just that.**
-/

namespace QuoteService.Service

variable {call : Call} {db : Database}

/-- What becomes of a request for a random quote. -/
inductive Giving (call : Call) (db : Database) : Outcome → Prop
  | unstored (htable : db.table = none) :
      Giving call db (storageFailure call (handling "GET fortune" call.request) db)
  | given {store : Store} {q : String} (htable : db.table = some store)
      (hpick : store.random? call.pick = some q) :
      Giving call db
        ⟨(Envelope.give 200 (quoteData q)).response, [handling "GET fortune" call.request], db⟩
  | missing {store : Store} (htable : db.table = some store) (hempty : store.quotes = []) :
      Giving call db ⟨(Envelope.say 404 "No fortunes available").response,
        [handling "GET fortune" call.request], db⟩

/-- What becomes of a request to add a quote. The body is looked at before the store is. -/
inductive Adding (call : Call) (db : Database) : Outcome → Prop
  | malformed (hbody : Payload.ofBody call.request.body = none) :
      Adding call db ⟨malformedBody.response,
        [handling "POST fortune" call.request, rejectedBody routerLogger], db⟩
  | missing {payload : Payload} (hbody : Payload.ofBody call.request.body = some payload)
      (hquote : payload.quote? = none) :
      Adding call db ⟨(Envelope.say 400 "Parameter 'fortune' is required").response,
        [handling "POST fortune" call.request], db⟩
  | unstored {payload : Payload} {q : String}
      (hbody : Payload.ofBody call.request.body = some payload) (hquote : payload.quote? = some q)
      (htable : db.table = none) :
      Adding call db (storageFailure call (handling "POST fortune" call.request) db)
  | duplicate {payload : Payload} {q : String} {store : Store}
      (hbody : Payload.ofBody call.request.body = some payload) (hquote : payload.quote? = some q)
      (htable : db.table = some store) (hstored : q ∈ store.quotes) :
      Adding call db ⟨(Envelope.plain 409).response, [handling "POST fortune" call.request,
        ⟨.info, routerLogger, "Add failed due to duplicate fortune: " ++ q⟩], db⟩
  | added {payload : Payload} {q : String} {store store' : Store} {row : Row}
      (hbody : Payload.ofBody call.request.body = some payload) (hquote : payload.quote? = some q)
      (htable : db.table = some store) (hadd : store.add (some q) = .ok (row, store')) :
      Adding call db ⟨(Envelope.plain 201).response, [handling "POST fortune" call.request],
        ⟨some store'⟩⟩

theorem giveRandom_giving (call : Call) (db : Database) : Giving call db (giveRandom call db) := by
  unfold giveRandom
  cases htable : db.table with
  | none => exact .unstored htable
  | some store =>
    cases hpick : store.random? call.pick with
    | none =>
      simp only [hpick]
      exact .missing htable (Store.random?_eq_none_iff.1 hpick)
    | some q =>
      simp only [hpick]
      exact .given htable hpick

theorem addQuote_adding (call : Call) (db : Database) : Adding call db (addQuote call db) := by
  unfold addQuote
  cases hbody : Payload.ofBody call.request.body with
  | none => exact .malformed hbody
  | some payload =>
    cases hquote : payload.quote? with
    | none =>
      simp only [hquote]
      exact .missing hbody hquote
    | some q =>
      cases htable : db.table with
      | none =>
        simp only [hquote]
        exact .unstored hbody hquote htable
      | some store =>
        cases hadd : store.add (some q) with
        | ok added =>
          simp only [hquote, hadd]
          exact .added hbody hquote htable hadd
        | error duplicate =>
          simp only [hquote, hadd]
          -- a new quote would have been added
          refine .duplicate hbody hquote htable ?_
          by_contra hnew
          rw [Store.add_eq_ok_iff.2 ⟨hnew, rfl⟩] at hadd
          cases hadd

end QuoteService.Service
