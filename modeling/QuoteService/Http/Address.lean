import QuoteService.Http.Message
import QuoteService.Url.Numeric

/-!
# Addresses of requests

* `shownPath`: the path of a request as answers and logs show it.
* `redirectTo`: the address of another path on the same server.
-/

namespace QuoteService.Http

/-- The name that the server has when a request does not tell one. -/
def serverName : String := "test"

/-- Characters of names in addresses. -/
def isHostChar (c : Char) : Bool :=
  c.isAlphanum || "-._~%!$&'()*+,;=".toList.contains c

/-- The highest port. -/
def maxPort : Nat := 65535

/-- Nothing, or a colon and the digits of a port. -/
def isPortPart : List Char → Bool
  | [] => true
  | ':' :: ds =>
    !ds.isEmpty && ds.all Char.isDigit && Text.ofDigits (ds.filterMap Text.digitValue?) ≤ maxPort
  | _ => false

/-- Characters of addresses between brackets. -/
def isBracketChar (c : Char) : Bool := (isHostChar c && c != '%') || c == ':'

/-- An address of a kind yet to come: the letter, a version, a point and something more. -/
def isFutureAddress : List Char → Bool
  | 'v' :: r =>
    let version := r.takeWhile fun c => (Url.hexDigit? c).isSome
    let rest := r.dropWhile fun c => (Url.hexDigit? c).isSome
    !version.isEmpty && rest.head? == some '.' && 2 ≤ rest.length
  | _ => false

/-- Whether a text may stand as host and port in an address. -/
def isHost (cs : List Char) : Bool :=
  match cs with
  | '[' :: r =>
    let inside := r.takeWhile isBracketChar
    match r.dropWhile isBracketChar with
    | ']' :: port => (isFutureAddress inside || Url.isGrouped inside) && isPortPart port
    | _ => false
  | _ =>
    let name := cs.takeWhile isHostChar
    !name.isEmpty && isPortPart (cs.dropWhile isHostChar)

/-- Host and port that a request was sent to. -/
def Request.host (r : Request) : String :=
  match r.header? "host" with
  | some h => if isHost h.toList then h else serverName
  | none => serverName

/-- A character of a path within an address. -/
def pathChar : Char → List Char
  | '?' => "%3F".toList
  | '#' => "%23".toList
  | '\\' => "%5C".toList
  | '\t' => []
  | '\n' => []
  | '\r' => []
  | c => [c]

/-- The path of a request as it stands in its address, with a slash in front if it has none; an empty
path stays empty. -/
def shownPath (path : String) : String :=
  let shown := path.toList.flatMap pathChar
  String.ofList (if path.toList.head?.any (· != '/') then '/' :: shown else shown)

/-- Characters that stand for themselves in the address of a redirection. -/
def isSafe (c : Char) : Bool :=
  c.isAlphanum || "_.-~:/%#?=@[]!$&'()*+,;".toList.contains c

/-- The address of another path on the server of a request, with the same query. -/
def Request.redirectTo (r : Request) (path : List Char) : String :=
  let query := match r.query with
    | none => []
    | some q => if q.isEmpty then [] else '?' :: q.toList
  String.ofList (Url.escape isSafe ("http://".toList ++ r.host.toList ++ path ++ query))

end QuoteService.Http
