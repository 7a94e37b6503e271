import QuoteService.Base64.Alphabet
import QuoteService.Client.Answer
import QuoteService.Json.Printer
import QuoteService.Settings.Basic
import QuoteService.Tls.Identity

/-!
# The api client

A client has the address of the service, limits of time, the certificates it trusts and a bearer
token. Each call returns also the requests that went out for it: one or none.

* `ApiClient.ofSettings`: the client of some settings.
* `ApiClient.quote`, `ApiClient.quotes`, `ApiClient.add`: the three calls.
* `ApiClient.withToken`, `ApiClient.close`: changes between calls.
-/

namespace QuoteService

open QuoteService.Client

/-- The limits of time of a call, in seconds. -/
structure TimeLimits where
  connect : Double
  read : Double
  write : Double
  deriving DecidableEq

/-- A request as it goes out. -/
structure Client.Call where
  method : String
  url : Url
  authorization : Option Text
  contentType : Option String
  body : Text
  limits : TimeLimits
  deriving DecidableEq

/-- The text of the address that a request goes to. -/
def Client.Call.address (call : Client.Call) : List Char := call.url.text

/-- How calls reach the server. -/
abbrev Client.Transport := Client.Call → Except Client.TransportFault Client.Answer

/-- Why settings give no client. -/
inductive Client.OpenError where
  | material (fault : Tls.MaterialError)
  /-- A verifier cannot read the certificates to trust. -/
  | unreadableTrust
  | limitTooLarge
  | address (fault : UrlError)
  deriving DecidableEq

/-- A client of the api. -/
structure ApiClient where
  base : Url
  limits : TimeLimits
  /-- How many certificates are trusted, where it is not those that the system trusts. -/
  trusted : Option Nat
  token : Option Text
  isClosed : Bool

namespace ApiClient

/-- A number of milliseconds in seconds. -/
def seconds (milliseconds : Int) : Except OpenError Double :=
  match Double.ofIntRatio milliseconds 1000 with
  | .infinite _ => .error .limitTooLarge
  | x => .ok x

/-- The limits of time of some settings. -/
def limitsOf (s : ClientSettings) : Except OpenError TimeLimits := do
  let connect ← seconds s.connectTimeout
  let read ← seconds s.readTimeout
  let write ← seconds s.writeTimeout
  pure ⟨connect, read, write⟩

/-- The client of some settings that trusts `trusted` certificates and shows a token. -/
def connect (s : ClientSettings) (trusted : Option Nat) (token : Option Text) :
    Except OpenError ApiClient := do
  let limits ← limitsOf s
  let base ← (do (← Url.parse s.url.shown).closed).mapError .address
  pure ⟨base, limits, trusted, token, false⟩

/-- The client of some settings, with the log records of loading its certificates. -/
def ofSettings (s : ClientSettings) : Except OpenError ApiClient × List LogRecord :=
  match Tls.loadTrust (some s.sslCerts.shownString) with
  | .error fault => (.error (.material fault), [])
  | .ok (none, records) => (connect s none none, records)
  | .ok (some trust, records) =>
    match trust.context? with
    | none => (.error .unreadableTrust, records)
    | some context => (connect s (some context.certificates) none, records)

/-- The client with another token. -/
def withToken (c : ApiClient) (token : Option Text) : ApiClient := { c with token }

/-- The client, closed. -/
def close (c : ApiClient) : ApiClient := { c with isClosed := true }

/-! ### Requests -/

/-- The path of the call for a random quote and for adding one. -/
def quotePath : List Char := "api/v1/fortune".toList

/-- The path of the call for all quotes. -/
def allPath : List Char := "api/v1/fortune/all".toList

/-- Whether all code points are ASCII. -/
def isAscii (t : Text) : Bool := t.all fun p => p.toNat < 0x80

/-- The token that a call shows; an empty one is not shown. -/
def shownToken (c : ApiClient) : Except CallError (Option Text) :=
  match c.token with
  | none => .ok none
  | some [] => .ok none
  | some t => if isAscii t then .ok (some t) else .error (.unsendable .characters)

/-- The text of a body. -/
def bodyText (v : Json) : Except CallError Text :=
  if v.isFinite = false then .error (.unsendable .number)
  else
    let t := Json.render .unescaped v
    if t.toChars?.isSome then .ok t else .error (.unsendable .characters)

/-- The value that shows user and password of an address, if it has them. -/
def credentials? (u : Url) : Option Text :=
  let (user, password) := Url.cut ':' u.credentials
  let password := password.getD []
  if user.isEmpty && password.isEmpty then none
  else
    let shown := Utf8.mend (Url.unescape user) ++ 0x3A :: Utf8.mend (Url.unescape password)
    some (Text.ofString "Basic " ++ Text.ofChars (Base64.Alphabet.standard.encodePadded shown))

/-- A request, before it is known to go out. -/
def request (c : ApiClient) (path : List Char) (showsToken : Bool) (body : Option Json) :
    Except CallError (Url × Call) := do
  let address ← (c.base.below path).mapError .address
  let token ← if showsToken then c.shownToken else pure none
  let text ← match body with
    | some v => bodyText v
    | none => pure []
  let _ ← address.shownHost.mapError .name
  if address.host.any fun ch => 0x80 ≤ ch.toNat then .error (.unsendable .characters)
  if c.isClosed then .error (.unsendable .closed)
  pure (address,
    { method := if body.isSome then "POST" else "GET"
      url := address
      authorization := match credentials? address with
        | some shown => some shown
        | none => token
      contentType := if body.isSome then some "application/json" else none
      body := text
      limits := c.limits })

/-- Whether a text tells in front of a colon how the address is reached. -/
def tellsReach (address : List Char) : Bool :=
  let isPart (c : Char) : Bool := c != '/' && c != ':'
  !(address.takeWhile isPart).isEmpty && (address.dropWhile isPart).head? == some ':'

/-- The answer to a request, and the requests that went out for it. -/
def exchange (c : ApiClient) (transport : Transport) (path : List Char) (showsToken : Bool)
    (body : Option Json) : Except CallError Answer × List Call :=
  match c.request path showsToken body with
  | .error e => (.error e, [])
  | .ok (address, call) =>
    match transport call with
    | .error fault => (.error (.transport fault), [call])
    | .ok answer =>
      (do
        let answer ← answer.opened
        if !tellsReach call.address then .error .unreached
        answer.checkRedirection address
        pure answer, [call])

/-! ### Calls -/

/-- A random quote: whatever the answer has in its place. -/
def quoteOf (a : Answer) : Except CallError Json :=
  match a.data with
  | .error e => .error e
  | .ok (.obj members) =>
    match Json.find? (Text.ofString "fortune") members with
    | some v => .ok v
    | none => .error (.missing "fortune")
  | .ok _ => .error .wrongShape

/-- What a value lists: the items of an array, the characters of a text, the names of an object, and
nothing for what is empty, zero or false. -/
def listed : Json → Except CallError (List Json)
  | .null => .ok []
  | .bool b => if b then .error .wrongShape else .ok []
  | .int n => if n = 0 then .ok [] else .error .wrongShape
  | .float x => if x.isZero then .ok [] else .error .wrongShape
  | .str t => .ok (t.map fun p => .str [p])
  | .arr items => .ok items
  | .obj members => .ok (members.map fun m => .str m.1)

/-- All quotes. -/
def quotesOf (a : Answer) : Except CallError (List Json) :=
  match a.data with
  | .error e => .error e
  | .ok v => listed v

/-- Whether the answer reports success. -/
def addedOf (a : Answer) : Except CallError Bool :=
  a.envelope.map fun members =>
    match Json.find? (Text.ofString "status") members with
    | some (.str t) => t = Text.ofString "success"
    | _ => false

/-- Reads the answer of an exchange. -/
def reading {α : Type} (f : Answer → Except CallError α)
    (outcome : Except CallError Answer × List Call) : Except CallError α × List Call :=
  (match outcome.1 with
    | .ok answer => f answer
    | .error e => .error e, outcome.2)

/-- Calls for a random quote. -/
def quote (c : ApiClient) (transport : Transport) : Except CallError Json × List Call :=
  reading quoteOf (c.exchange transport quotePath false none)

/-- Calls for all quotes, showing the token. -/
def quotes (c : ApiClient) (transport : Transport) : Except CallError (List Json) × List Call :=
  reading quotesOf (c.exchange transport allPath true none)

/-- Calls to add a quote, showing the token. -/
def add (c : ApiClient) (transport : Transport) (quote : Json) : Except CallError Bool × List Call :=
  reading addedOf (c.exchange transport quotePath true (some (.obj [Json.field "fortune" quote])))

end ApiClient

end QuoteService
