import QuoteService.Service.Faults
import QuoteService.Service.Payload
import QuoteService.Service.Route
import QuoteService.Store.Basic
import QuoteService.Token.Authority

/-!
# The service

Three routes over one store. Listing and adding need a token for the path of quotes; the token is
checked before anything of the body or the store is looked at.

* `App.handle`: the answer to a request, its log, and the database after it.
* `App.serve`: a run of requests.
-/

namespace QuoteService.Service

open QuoteService.Http

/-- The logger of the handlers. -/
def routerLogger : String := "fortune.api.router_fortune"

/-- The logger of the gate. -/
def gateLogger : String := "fortune.api.deps"

/-- A running service. -/
structure App where
  authority : Token.Authority

/-- A request with the moment in milliseconds at which it is handled, and the place in the store that
a random choice hits. -/
structure Call where
  request : Request
  now : Int
  pick : Nat

/-- An answer, the log of it, and the database after it. -/
structure Outcome where
  response : Response
  logs : List LogRecord
  database : Database

/-- The address that a request is taken to come from. A header that tells it counts unless it is
blank. -/
def callerAddress (r : Request) : String :=
  match r.header? "x-forwarded-for" with
  | some forwarded =>
    if Text.isBlankText forwarded.toList then r.peer.getD "unknown" else forwarded
  | none => r.peer.getD "unknown"

/-- The refusal of a request without a valid token. -/
def unauthorized : Response :=
  (Envelope.plain 401).response.setHeaders [("WWW-Authenticate", "Bearer")]

/-- The record of such a refusal. -/
def unauthorizedRecord (r : Request) : LogRecord :=
  ⟨.warning, gateLogger,
    "Unauthorized " ++ r.method ++ " " ++ shownPath r.path ++ " (" ++ callerAddress r ++ ")"⟩

/-- A debug record of a handler. -/
def handling (what : String) (r : Request) : LogRecord :=
  ⟨.debug, routerLogger, what ++ " (" ++ callerAddress r ++ ")"⟩

/-- What becomes of a request when the store has no table. -/
def storageFailure (call : Call) (log : LogRecord) (db : Database) : Outcome :=
  let (response, failure) := internalError call.request.path
  ⟨response, [log, failure], db⟩

/-- The quote of one row as data. -/
def quoteData (quote : String) : Json := .obj [Json.field "fortune" (Json.ofString quote)]

/-- The quotes of a store as data. -/
def quotesData (quotes : List String) : Json := .arr (quotes.map Json.ofString)

/-- Answers with a quote that is picked at random. -/
def giveRandom (call : Call) (db : Database) : Outcome :=
  let log := handling "GET fortune" call.request
  match db.table with
  | none => storageFailure call log db
  | some store =>
    match store.random? call.pick with
    | some quote => ⟨(Envelope.give 200 (quoteData quote)).response, [log], db⟩
    | none => ⟨(Envelope.say 404 "No fortunes available").response, [log], db⟩

/-- Answers with all quotes. -/
def giveAll (call : Call) (db : Database) : Outcome :=
  let log := handling "GET all fortunes" call.request
  match db.table with
  | none => storageFailure call log db
  | some store => ⟨(Envelope.give 200 (quotesData store.quotes)).response, [log], db⟩

/-- Adds the quote of the body. -/
def addQuote (call : Call) (db : Database) : Outcome :=
  let log := handling "POST fortune" call.request
  match Payload.ofBody call.request.body with
  | none => ⟨malformedBody.response, [log, rejectedBody routerLogger], db⟩
  | some payload =>
    match payload.quote? with
    | none => ⟨(Envelope.say 400 "Parameter 'fortune' is required").response, [log], db⟩
    | some quote =>
      match db.table with
      | none => storageFailure call log db
      | some store =>
        match store.add (some quote) with
        | .ok (_, store') => ⟨(Envelope.plain 201).response, [log], ⟨some store'⟩⟩
        | .error _ =>
          ⟨(Envelope.plain 409).response,
            [log, ⟨.info, routerLogger, "Add failed due to duplicate fortune: " ++ quote⟩], db⟩

namespace App

/-- Lets a request pass to `handler` if its first token opens the path of quotes. -/
def guarded (app : App) (call : Call) (db : Database) (handler : Call → Database → Outcome) :
    Outcome :=
  let r := call.request
  let (valid, logs) :=
    app.authority.validate call.now (r.header? "authorization") (some quotePath)
  if valid then
    let outcome := handler call db
    { outcome with logs := logs ++ outcome.logs }
  else ⟨unauthorized, logs ++ [unauthorizedRecord r], db⟩

/-- The answer to a request, its log, and the database after it. The pages that describe the service
are not among the answers. -/
def handle (app : App) (call : Call) (db : Database) : Outcome :=
  let r := call.request
  match Dispatch.ofRequest r.method r.path.toList with
  | .route .random => giveRandom call db
  | .route .all => app.guarded call db giveAll
  | .route .add => app.guarded call db addQuote
  | .methodNotAllowed allowed =>
    ⟨(Envelope.unhandled 405 (shownPath r.path)).response.setHeaders [("Allow", allowed)], [], db⟩
  | .redirect path => ⟨⟨307, [("content-length", "0"), ("location", r.redirectTo path)], []⟩, [], db⟩
  | .notFound => ⟨(Envelope.unhandled 404 (shownPath r.path)).response, [], db⟩

/-- The outcomes of requests handled one after another. -/
def serve (app : App) (db : Database) : List Call → List Outcome
  | [] => []
  | call :: calls =>
    let outcome := app.handle call db
    outcome :: app.serve outcome.database calls

end App

end QuoteService.Service
