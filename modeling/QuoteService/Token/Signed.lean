import QuoteService.Base64.Url
import QuoteService.Hash.Hmac
import QuoteService.Json.Printer
import QuoteService.Json.Reader
import QuoteService.Token.Claims

/-!
# Signed tokens

A signed token is header, payload and signature, three Base64url segments with points between them.

* `Segments.ofToken?`, `Segments.toToken`: the text taken apart and put together.
* `headerAccepted`: what a header must say.
* `sign`: the token that carries a payload under a key.
* `openSigned`: the members of the payload of a token whose signature is right.
-/

namespace QuoteService.Token

/-- The three segments of a token. -/
structure Segments where
  header : List Char
  payload : List Char
  signature : List Char
  deriving DecidableEq

namespace Segments

/-- The text that is signed. -/
def signed (s : Segments) : List Char := s.header ++ '.' :: s.payload

/-- The token. -/
def toToken (s : Segments) : List Char := s.signed ++ '.' :: s.signature

/-- Splits at the last point, and what stands before it at the first. -/
def ofToken? (cs : List Char) : Option Segments :=
  let signature := (cs.reverse.takeWhile (· != '.')).reverse
  match cs.reverse.dropWhile (· != '.') with
  | [] => none
  | _ :: before =>
    let signed := before.reverse
    match signed.dropWhile (· != '.') with
    | [] => none
    | _ :: payload => some ⟨signed.takeWhile (· != '.'), payload, signature⟩

end Segments

/-- The only algorithm. -/
def algorithm : String := "HS512"

/-- Whether the critical extensions that a header names are known: there is one at most, it is
`b64`, and the header says it. -/
def criticalAccepted (header : List (Text × Json)) : Bool :=
  match Json.find? (Text.ofString "crit") header with
  | none => true
  | some (.arr names) =>
    !names.isEmpty && (Json.find? (Text.ofString "b64") header).isSome &&
      names.all fun
        | .str t => t == Text.ofString "b64"
        | _ => false
  | some _ => false

/-- Whether a header says that the payload is not encoded. -/
def isUnencoded (header : List (Text × Json)) : Bool :=
  match Json.find? (Text.ofString "b64") header with
  | some (.bool false) => true
  | _ => false

/-- Whether a header names the algorithm. -/
def namesAlgorithm (header : List (Text × Json)) : Bool :=
  match Json.find? (Text.ofString "alg") header with
  | some (.str t) => t == Text.ofString algorithm
  | _ => false

/-- Whether a header is acceptable. -/
def headerAccepted (header : List (Text × Json)) : Bool :=
  !isUnencoded header && stringIfPresent "kid" header && criticalAccepted header &&
    namesAlgorithm header

/-- The members of a JSON object in bytes. The library that decodes tokens reports what is nested too
deeply to be read as it reports what is not JSON, so here both are no object and make the token
malformed; a client, which reads answers without that library, breaks off instead. -/
def object? (bytes : List UInt8) : Option (List (Text × Json)) :=
  match Json.parse bytes with
  | .ok (.obj members) => some members
  | _ => none

/-- The signature of a text. -/
def signatureOf (key : List UInt8) (signed : List Char) : List UInt8 :=
  Hash.hmacSha512 key (Utf8.encode signed)

/-- The header of every token that is signed here. -/
def mintedHeader : Json :=
  .obj [Json.field "alg" (Json.ofString algorithm), Json.field "typ" (Json.ofString "JWT")]

/-- A value as a segment: its ASCII text, encoded. -/
def segmentOf (v : Json) : List Char :=
  Base64.encodeUrl (Utf8.encode (Json.render .ascii v).scalars)

/-- The segments that carry a payload under a key. -/
def sign (key : List UInt8) (payload : Json) : Segments :=
  let header := segmentOf mintedHeader
  let body := segmentOf payload
  ⟨header, body, Base64.encodeUrl (signatureOf key (header ++ '.' :: body))⟩

/-- The members of the payload of a token, if its header is acceptable and its signature right.
`usable` says whether the key may sign at all. -/
def openSigned (key : List UInt8) (usable : Bool) (cs : List Char) :
    Except Failure (List (Text × Json)) :=
  match Segments.ofToken? cs with
  | none => .error .malformedEnvelope
  | some s =>
    match (Base64.decodeUrl s.header).bind object?, Base64.decodeUrl s.payload,
        Base64.decodeUrl s.signature with
    | some header, some payload, some signature =>
      if headerAccepted header = false ∨ usable = false then .error .malformedEnvelope
      else if signature ≠ signatureOf key s.signed then .error .signatureInvalid
      else
        match object? payload with
        | none => .error .malformedEnvelope
        | some members => .ok members
    | _, _, _ => .error .malformedEnvelope

end QuoteService.Token
