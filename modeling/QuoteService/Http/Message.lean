import QuoteService.Http.Status
import QuoteService.Text.Case
import QuoteService.Text.Decimal
import QuoteService.Text.Utf8

/-!
# Requests and answers

* `Request`, `Response`: what the service takes and gives.
* `Request.header?`: the first header of a name, whatever its letter case.
* `Response.json`: an answer with a JSON body.
* `Response.setHeaders`: headers that take the place of others.
-/

namespace QuoteService.Http

/-- A request. The path is percent-decoded. -/
structure Request where
  method : String
  path : String
  query : Option String
  headers : List (String × String)
  body : List UInt8
  /-- The address of the peer, if it is known. -/
  peer : Option String

/-- An answer; the names of its headers are in lower case. -/
structure Response where
  status : Int
  headers : List (String × String)
  body : List Char
  deriving DecidableEq

/-- Lower case of a header name. -/
def headerName (name : String) : String := String.ofList (Text.lower name.toList)

/-- The value of the first header of a name given in lower case. -/
def Request.header? (r : Request) (name : String) : Option String :=
  (r.headers.find? fun h => headerName h.1 = name).map (·.2)

/-- Sets a header: in place of the one of that name, else at the end. -/
def setHeader (name value : String) : List (String × String) → List (String × String)
  | [] => [(name, value)]
  | h :: hs => if h.1 = name then (name, value) :: hs else h :: setHeader name value hs

namespace Response

/-- An answer with further headers, which take the place of those of the same names. -/
def setHeaders (r : Response) (headers : List (String × String)) : Response :=
  { r with headers := headers.foldl (fun hs h => setHeader (headerName h.1) h.2 hs) r.headers }

/-- The header that states the length of a body in bytes. -/
def lengthHeader (body : List Char) : String × String :=
  ("content-length", Text.natString (Utf8.encode body).length)

/-- An answer with a JSON body. -/
def json (status : Int) (body : List Char) : Response :=
  { status
    headers := (if carriesLength status then [lengthHeader body] else []) ++
      [("content-type", "application/json")]
    body }

end Response

end QuoteService.Http
