import QuoteService.Text.Case
import QuoteService.Text.Quoted
import QuoteService.Text.WholeNumber
import QuoteService.Url.International
import QuoteService.Url.Numeric

/-!
# Addresses

An address is split at the first colon, slashes, question mark and number sign, and then each part
is brought into its normal form.

* `Url`: an address in normal form.
* `Url.parse`: the address of a text.
* `Url.text`: the text of an address.
* `Url.target`, `Url.withTarget`: path and query together.
* `Url.shownHost`: the host as it is shown, in characters of its own.
-/

namespace QuoteService

/-- Why a text is no address. -/
inductive UrlError where
  | tooLong
  | partTooLong (part : String)
  | control (c : Char) (position : Nat)
  | partControl (part : String) (c : Char) (position : Nat)
  | port (text : List Char)
  | dottedHost (text : List Char)
  | groupedHost (text : List Char)
  | namedHost (text : List Char)
  | pathAfterHost
  | pathStartsHost
  | pathStartsScheme
  deriving DecidableEq

/-- A character in quotes, and where it stands. -/
def UrlError.placed (c : Char) (position : Nat) : String :=
  String.ofList (Text.quoted (Text.ofChars [c])) ++ " at position " ++ Text.natString position ++ "."

/-- The text of the error. -/
def UrlError.message : UrlError → String
  | tooLong => "URL too long"
  | partTooLong part => "URL component '" ++ part ++ "' too long"
  | control c position =>
    "Invalid non-printable ASCII character in URL, " ++ placed c position
  | partControl part c position =>
    "Invalid non-printable ASCII character in URL " ++ part ++ " component, " ++ placed c position
  | port text => "Invalid port: " ++ String.ofList (Text.quoted (Text.ofChars text))
  | dottedHost text => "Invalid IPv4 address: " ++ String.ofList (Text.quoted (Text.ofChars text))
  | groupedHost text => "Invalid IPv6 address: " ++ String.ofList (Text.quoted (Text.ofChars text))
  | namedHost text => "Invalid IDNA hostname: " ++ String.ofList (Text.quoted (Text.ofChars text))
  | pathAfterHost => "For absolute URLs, path must be empty or begin with '/'"
  | pathStartsHost => "Relative URLs cannot have a path starting with '//'"
  | pathStartsScheme => "Relative URLs cannot have a path starting with ':'"

/-- An address in normal form. -/
structure Url where
  scheme : List Char
  credentials : List Char
  host : List Char
  /-- The port, unless it is the one that the scheme implies. -/
  port : Option Int
  path : List Char
  query : Option (List Char)
  fragment : Option (List Char)
  deriving DecidableEq

namespace Url

/-- The most characters of an address, and of each of its parts. -/
def maxLength : Nat := 65536

/-! ### The parts of a text -/

/-- An address as it is written, split into its parts. -/
structure Written where
  scheme : List Char
  /-- Credentials, host and port. -/
  authority : List Char
  path : List Char
  query : Option (List Char)
  fragment : Option (List Char)

/-- Whether a scheme may hold a character after its first. -/
def isSchemeChar (c : Char) : Bool := c.isAlphanum || c == '+' || c == '.' || c == '-'

/-- The scheme in front of the first colon, and the rest. -/
def splitScheme (cs : List Char) : List Char × List Char :=
  let scheme := cs.takeWhile isSchemeChar
  match cs.dropWhile isSchemeChar with
  | ':' :: r => if scheme.isEmpty || scheme.head?.any Char.isAlpha then (scheme, r) else ([], cs)
  | _ => ([], cs)

/-- Whether a character ends the authority. -/
def endsAuthority (c : Char) : Bool := c == '/' || c == '?' || c == '#'

/-- The authority after two slashes, and the rest. -/
def splitAuthority : List Char → List Char × List Char
  | '/' :: '/' :: r => (r.takeWhile fun c => !endsAuthority c, r.dropWhile fun c => !endsAuthority c)
  | cs => ([], cs)

/-- What stands in front of the first character `mark`, and what follows it if it is there. -/
def cut (mark : Char) (cs : List Char) : List Char × Option (List Char) :=
  match cs.dropWhile (· != mark) with
  | [] => (cs, none)
  | _ :: r => (cs.takeWhile (· != mark), some r)

/-- The parts of a text. -/
def Written.ofText (cs : List Char) : Written :=
  let (scheme, cs) := splitScheme cs
  let (authority, cs) := splitAuthority cs
  let (cs, fragment) := cut '#' cs
  let (path, query) := cut '?' cs
  { scheme, authority, path, query, fragment }

/-! ### Credentials, host and port -/

/-- The credentials in front of the last at sign, and the rest. -/
def splitCredentials (cs : List Char) : List Char × List Char :=
  if cs.contains '@' then
    let host := (cs.reverse.takeWhile (· != '@')).reverse
    (cs.take (cs.length - host.length - 1), host)
  else ([], cs)

/-- The host in front of the first colon, or up to the last closing bracket if it starts with an
opening one; and the rest. -/
def splitHost (cs : List Char) : List Char × List Char :=
  if cs.head? == some '[' && cs.contains ']' then
    let port := (cs.reverse.takeWhile (· != ']')).reverse
    (cs.take (cs.length - port.length), port)
  else (cs.takeWhile (· != ':'), cs.dropWhile (· != ':'))

/-- The port that a scheme implies. -/
def impliedPort? (scheme : List Char) : Option Int :=
  match String.ofList scheme with
  | "ftp" => some 21
  | "http" => some 80
  | "https" => some 443
  | "ws" => some 80
  | "wss" => some 443
  | _ => none

/-- The port of the text after a host. -/
def portOf (scheme : List Char) (cs : List Char) : Except UrlError (Option Int) :=
  let text := match cs with
    | ':' :: r => r
    | r => r
  if text.isEmpty then .ok none
  else
    match Text.lenientInt? text with
    | none => .error (.port text)
    | some n => .ok (if impliedPort? scheme = some n then none else some n)

/-- The normal form of a host; brackets around it are dropped. -/
def hostOf (cs : List Char) : Except UrlError (List Char) :=
  if looksDotted cs then if isDotted cs then .ok cs else .error (.dottedHost cs)
  else if cs.head? == some '[' && cs.getLast? == some ']' && 2 ≤ cs.length then
    let inside := (cs.drop 1).dropLast
    if isGrouped inside then .ok inside else .error (.groupedHost cs)
  else if cs.all fun c => c.toNat < 0x80 then .ok (escape isNameSafe (Text.lower cs))
  else
    match lookupName (Text.lower cs) with
    | .ok name => .ok name
    | .error _ => .error (.namedHost cs)

/-! ### Paths -/

/-- Leaves out parts of one point, and with a part of two points also the part in front. The parts
that stay are gathered in reverse. -/
def resolved : List (List Char) → List (List Char) → List (List Char)
  | stay, [] => stay.reverse
  | stay, part :: parts =>
    if part = ['.'] then resolved stay parts
    else if part = ['.', '.'] then resolved (if stay = [[]] then stay else stay.tail) parts
    else resolved (part :: stay) parts

/-- A path without parts of one or two points. -/
def resolvePath (path : List Char) : List Char :=
  List.intercalate ['/'] (resolved [] (splitAt '/' path))

/-! ### Normal form -/

/-- The address of the parts of a text. -/
def ofWritten (w : Written) : Except UrlError Url := do
  let (credentials, rest) := splitCredentials w.authority
  let credentials := escape isCredentialsSafe credentials
  let (host, rest) := splitHost rest
  let host ← hostOf host
  let port ← portOf w.scheme rest
  let hasAuthority := !credentials.isEmpty || !host.isEmpty || port.isSome
  if hasAuthority && !w.path.isEmpty && w.path.head? != some '/' then .error .pathAfterHost
  let isRelative := w.scheme.isEmpty && !hasAuthority
  if isRelative && ['/', '/'].isPrefixOf w.path then .error .pathStartsHost
  if isRelative && w.path.head? == some ':' then .error .pathStartsScheme
  pure
    { scheme := w.scheme.map Char.toLower
      credentials
      host
      port
      path := escape isPathSafe (if isRelative then w.path else resolvePath w.path)
      query := w.query.map (escape isQuerySafe)
      fragment := w.fragment.map (escape isFragmentSafe) }

/-- Whether a character is one of the controls of ASCII. -/
def isControl (c : Char) : Bool := c.toNat < 0x20 || c.toNat == 0x7F

/-- The address of a text. -/
def parse (cs : List Char) : Except UrlError Url :=
  if maxLength < cs.length then .error .tooLong
  else
    match cs.find? isControl with
    | some c => .error (.control c (cs.takeWhile (· != c)).length)
    | none => ofWritten (.ofText cs)

/-! ### Text -/

/-- Credentials, host and port. -/
def authority (u : Url) : List Char :=
  (if u.credentials.isEmpty then [] else u.credentials ++ ['@']) ++
    (if u.host.contains ':' then '[' :: (u.host ++ [']']) else u.host) ++
    (match u.port with
      | none => []
      | some n => ':' :: Text.intDigits n)

/-- An optional part after its mark. -/
def marked (mark : Char) : Option (List Char) → List Char
  | none => []
  | some cs => mark :: cs

/-- The text of an address. -/
def text (u : Url) : List Char :=
  (if u.scheme.isEmpty then [] else u.scheme ++ [':']) ++
    (if u.authority.isEmpty then [] else '/' :: '/' :: u.authority) ++
    u.path ++ marked '?' u.query ++ marked '#' u.fragment

/-- Path and query; an empty path is a slash. -/
def target (u : Url) : List Char :=
  (if u.path.isEmpty then ['/'] else u.path) ++ marked '?' u.query

/-- The host as it is shown: the labels that its forms in ASCII stand for. -/
def shownHost (u : Url) : Except NameFault (List Char) :=
  if formMark.isPrefixOf u.host then shownName u.host else .ok u.host

/-- The first part that is too long. -/
def longPart? (w : Written) : Option String :=
  let long (cs : List Char) : Bool := maxLength < cs.length
  if long w.scheme then some "scheme"
  else if long w.authority then some "authority"
  else if long w.path then some "path"
  else if w.query.any long then some "query"
  else if w.fragment.any long then some "fragment"
  else none

/-- The address of parts of which none is too long. -/
def ofParts (w : Written) : Except UrlError Url :=
  match longPart? w with
  | some part => .error (.partTooLong part)
  | none => ofWritten w

/-- The parts of an address. -/
def written (u : Url) : Written := ⟨u.scheme, u.authority, u.path, u.query, u.fragment⟩

/-- The address with another path and query. -/
def withTarget (u : Url) (target : List Char) : Except UrlError Url :=
  let (path, query) := cut '?' target
  ofParts { u.written with path, query }

/-- The address with another host. -/
def withHost (u : Url) (host : List Char) : Except UrlError Url :=
  ofParts { u.written with authority := { u with host }.authority }

/-- The address with another fragment. -/
def withFragment (u : Url) (fragment : List Char) : Except UrlError Url :=
  match longPart? u.written, fragment.find? isControl with
  | none, some c =>
    if maxLength < fragment.length then .error (.partTooLong "fragment")
    else .error (.partControl "fragment" c (fragment.takeWhile (· != c)).length)
  | _, _ => ofParts { u.written with fragment := some fragment }

/-- The address with a slash at the end of path and query. -/
def closed (u : Url) : Except UrlError Url :=
  if u.target.getLast? = some '/' then .ok u else u.withTarget (u.target ++ ['/'])

/-- The address of a path below a closed one. -/
def below (u : Url) (path : List Char) : Except UrlError Url := u.withTarget (u.target ++ path)

end Url

end QuoteService
