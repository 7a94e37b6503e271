import QuoteService.Http.Address
import QuoteService.Logging.Record
import QuoteService.Service.Envelope

/-!
# Answers to faults

* `Fault`: what ends the handling of a request early.
* `Fault.answer`: the answer and the log of a fault.
-/

namespace QuoteService.Service

open QuoteService.Http

/-- The logger of this module. -/
def appLogger : String := "fortune.core.app"

/-- What ends the handling of a request early. -/
inductive Fault where
  | http (status : Int) (detail : Option Json) (headers : List (String × String))
  | invalidBody
  | unexpected
  deriving Inhabited

/-- The record of a refused body. A star stands in the place of the list of what is wrong with it. -/
def rejectedBody (logger : String) : LogRecord :=
  ⟨.info, logger, "Rejected malformed request body: *"⟩

/-- The answer to a body that is not what it should be. -/
def malformedBody : Envelope := .say 400 "Malformed request body"

/-- The envelope of a status with a detail. Statuses that mean that nothing handles the request tell
its path; others tell the detail, or their reason phrase if there is none. -/
def statusEnvelope (path : String) (status : Int) (detail : Option Json) :
    Except EnvelopeError Envelope :=
  if status = 404 ∨ status = 405 then .ok (.unhandled status (shownPath path))
  else
    match detail with
    | some detail => Envelope.ofValues status .null detail
    | none => .ok (.say status ((phrase? status).getD ""))

/-- Whether a header can be sent. -/
def isSendable (header : String × String) : Bool :=
  let isByte (c : Char) : Bool := c.toNat < 0x100
  (headerName header.1).toList.all isByte && header.2.toList.all isByte

/-- The answer when handling a request for `path` fails within the service, and its record. -/
def internalError (path : String) : Response × LogRecord :=
  ((Envelope.unhandled 500 (shownPath path)).response,
    ⟨.error, appLogger, "Internal error while handling " ++ shownPath path⟩)

namespace Fault

/-- The answer to a request for `path` and the log of it. -/
def answer (path : String) : Fault → Except EnvelopeError (Response × List LogRecord)
  | http status detail headers =>
    match statusEnvelope path status detail with
    | .error e => .error e
    | .ok e =>
      if headers.all isSendable then .ok (e.response.setHeaders headers, []) else .error .unsendable
  | invalidBody => .ok (malformedBody.response, [rejectedBody appLogger])
  | unexpected =>
    let (response, record) := internalError path
    .ok (response, [record])

end Fault

end QuoteService.Service
