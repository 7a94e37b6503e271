import QuoteService.Http.Message
import QuoteService.Json.Display
import QuoteService.Json.Printer

/-!
# The envelope

Every answer is a JSON object of four members: whether the call succeeded, the status code, a
message and data.

* `Envelope.make`: the message is the reason phrase if neither message nor data is given.
* `Envelope.toJson`, `Envelope.response`: the object, and the answer that carries it.
-/

namespace QuoteService.Service

open QuoteService.Http

/-- What an answer says. -/
structure Envelope where
  code : Int
  message : Option String
  data : Json

/-- Why there is no envelope. -/
inductive EnvelopeError where
  | unknownStatus (code : Int)
  | messageType
  /-- Values stand in one another more deeply than is written. -/
  | tooDeep
  /-- A text has characters that cannot be sent. -/
  | unsendable
  deriving DecidableEq

/-- How many values may stand in one another in the data. -/
def maxDepth : Nat := 255

/-- The text of an unknown status. -/
def unknownStatusMessage (code : Int) : String :=
  Text.intString code ++ " is not a valid HTTPStatus"

/-- Whether a value is null. -/
def isNull : Json → Bool
  | .null => true
  | _ => false

namespace Envelope

/-- The envelope of a code, data and a message. -/
def make (code : Int) (data : Json) (message : Option String) : Except EnvelopeError Envelope :=
  if message.isNone && isNull data then
    match phrase? code with
    | some phrase => .ok ⟨code, some phrase, data⟩
    | none => .error (.unknownStatus code)
  else .ok ⟨code, message, data⟩

/-- The envelope of any data and a message that may be any value; it has to be text or null. Numbers
that are not finite become null. -/
def ofValues (code : Int) (data message : Json) : Except EnvelopeError Envelope := do
  let text ← match message with
    | .null => pure none
    | .str t => pure (some t)
    | _ => .error .messageType
  let e ← make code data (text.map Text.shownString)
  if maxDepth < data.depth then .error .tooDeep
  if (Json.renderChars? .unescaped data).isNone || text.any fun t => t.toChars?.isNone then
    .error .unsendable
  pure { e with data := data.withoutNonFinite }

/-- The word for the outcome of a code. -/
def outcome (code : Int) : String := if isSuccess code then "success" else "error"

/-- The object of an envelope. -/
def toJson (e : Envelope) : Json :=
  .obj [Json.field "status" (Json.ofString (outcome e.code)), Json.field "code" (.int e.code),
    Json.field "message" (match e.message with
      | some m => Json.ofString m
      | none => .null),
    Json.field "data" e.data]

/-- The answer that carries an envelope. -/
def response (e : Envelope) : Response := .json e.code (Json.render .unescaped e.toJson).scalars

/-- A message for a code. -/
def say (code : Int) (message : String) : Envelope := ⟨code, some message, .null⟩

/-- The reason phrase of a code, which is the code itself for one that is not registered. -/
def plain (code : Int) : Envelope := say code ((phrase? code).getD (Text.intString code))

/-- Data for a code. -/
def give (code : Int) (data : Json) : Envelope := ⟨code, none, data⟩

/-- What is said about a request that no part of the service handles. -/
def unhandled (code : Int) (path : String) : Envelope :=
  ⟨code, some ((phrase? code).getD (Text.intString code) ++ " (Unhandled)"),
    .obj [Json.field "path" (Json.ofString path)]⟩

end Envelope

end QuoteService.Service
