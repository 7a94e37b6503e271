import QuoteService.Json.Reader
import QuoteService.Text.Blank

/-!
# The body of a new quote

* `Payload.ofBody`: what a body asks to store, if it is a JSON object whose quote is text or null.
* `Payload.quote?`: the quote, unless it is missing or blank.
-/

namespace QuoteService.Service

/-- What a body asks to store. -/
structure Payload where
  quote : Option String
  deriving DecidableEq

namespace Payload

/-- The payload of the bytes of a body. -/
def ofBody (body : List UInt8) : Option Payload :=
  match Json.parseStrict body with
  | .ok (.obj members) =>
    match Json.find? (Text.ofString "fortune") members with
    | none => some ⟨none⟩
    | some .null => some ⟨none⟩
    | some (.str t) => t.toString?.map fun s => ⟨some s⟩
    | some _ => none
  | _ => none

/-- The quote, unless it is missing or blank. -/
def quote? (p : Payload) : Option String :=
  p.quote.filter fun q => !Text.isBlankText q.toList

end Payload

end QuoteService.Service
