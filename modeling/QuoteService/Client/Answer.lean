import QuoteService.Compression.Packing
import QuoteService.Json.Display
import QuoteService.Json.Reader
import QuoteService.Text.Blank
import QuoteService.Url.Basic

/-!
# Answers of the api

* `Answer`: what a server answers to a call.
* `Answer.opened`: the answer with its body unpacked.
* `Answer.envelope`: the members of a successful answer, or why there are none.
* `CallError`: why a call fails.
-/

namespace QuoteService.Client

/-- What a server answers: its status, its headers as they came, and its body. -/
structure Answer where
  status : Int
  headers : List (String × String)
  body : List UInt8
  deriving DecidableEq

/-- The api reports an error, or its answer cannot be read. -/
inductive ApiFault where
  | unreadable (status : Int)
  | unknown (status : Int)
  | reported (message code : Json)

/-- The text of the fault. -/
def ApiFault.message : ApiFault → Text
  | unreadable status => Text.ofString ("Unreadable response (" ++ Text.intString status ++ ")")
  | unknown status =>
    Text.ofString ("An unknown error has occurred (" ++ Text.intString status ++ ")")
  | reported message code => message.display ++ Text.ofString " (" ++ code.display ++ Text.ofString ")"

/-- A failure on the way to the server or back, by the name of its kind. -/
structure TransportFault where
  kind : String
  message : String
  deriving DecidableEq

/-- Kinds of failures on the way to the server or back. -/
def TransportFault.wayKinds : List String :=
  ["HTTPError", "RequestError", "TransportError", "TimeoutException", "ConnectTimeout", "ReadTimeout",
    "WriteTimeout", "PoolTimeout", "NetworkError", "ConnectError", "ReadError", "WriteError",
    "CloseError", "ProxyError", "UnsupportedProtocol", "ProtocolError", "LocalProtocolError",
    "RemoteProtocolError", "DecodingError", "TooManyRedirects"]

/-- Whether the failure is one of the way, and not of how the client is used. -/
def TransportFault.isOnWay (f : TransportFault) : Bool := wayKinds.contains f.kind

/-- The call does not keep to what may be sent. -/
inductive UnsendableCall where
  /-- A token, a text or the host has characters that cannot be sent. -/
  | characters
  /-- A number is not finite. -/
  | number
  /-- The client is closed. -/
  | closed
  deriving DecidableEq

/-- Why a call fails. -/
inductive CallError where
  | address (fault : UrlError)
  /-- The host stands for no name. -/
  | name (fault : Url.NameFault)
  /-- The answer came from an address that does not tell how it is reached. -/
  | unreached
  | unsendable (fault : UnsendableCall)
  | transport (fault : TransportFault)
  /-- A header of the answer has characters that no header may have. -/
  | badHeader
  | api (fault : ApiFault)
  /-- The answer is nested too deeply to be read. -/
  | tooDeep
  | missing (member : String)
  | wrongShape

namespace Answer

/-- Whether the status tells success. -/
def isSuccess (a : Answer) : Bool := 200 ≤ a.status && a.status < 300

/-- The members of the body of a successful answer. Without success the error that the body reports
counts; what it leaves out is nothing as the message, and the status as the code. -/
def envelope (a : Answer) : Except CallError (List (Text × Json)) :=
  if a.body.isEmpty then .error (.api (.unknown a.status))
  else
    match Json.parse a.body with
    | .error .tooDeep => .error .tooDeep
    | .error .malformed => .error (.api (.unreadable a.status))
    | .ok (.obj members) =>
      if a.isSuccess then .ok members
      else
        let message := (Json.find? (Text.ofString "message") members).getD .null
        let code := (Json.find? (Text.ofString "code") members).getD (.int a.status)
        .error (.api (.reported message code))
    | .ok _ => .error (.api (.unknown a.status))

/-- The data of a successful answer. -/
def data (a : Answer) : Except CallError Json :=
  match a.envelope with
  | .error e => .error e
  | .ok members =>
    match Json.find? (Text.ofString "data") members with
    | some v => .ok v
    | none => .error (.missing "data")

/-! ### Headers -/

/-- The values of a header, in the order they came. -/
def headerValues (a : Answer) (name : List Char) : List (List Char) :=
  (a.headers.filter fun h => h.1.toList.map Char.toLower == name).map fun h => h.2.toList

/-- The values of a header, in one text. -/
def header? (a : Answer) (name : List Char) : Option (List Char) :=
  let found := a.headerValues name
  if found.isEmpty then none else some (List.intercalate [',', ' '] found)

/-! ### Packed bodies -/

/-- A way to pack a body. -/
inductive Coding where
  | identity
  | gzip
  | deflate
  deriving DecidableEq

/-- The coding of a name. -/
def Coding.ofName? (name : List Char) : Option Coding :=
  match String.ofList name with
  | "identity" => some identity
  | "gzip" => some gzip
  | "deflate" => some deflate
  | _ => none

/-- What a coding has packed. Blocks without a frame around them are taken too, but what is then
wrong with them counts. -/
def Coding.unpack : Coding → List UInt8 → Except Compression.UnpackFault (List UInt8)
  | identity, body => .ok body
  | gzip, body => (Compression.Packing.file.unpack body).map Array.toList
  | deflate, body =>
    match Compression.Packing.framed.unpack body with
    | .ok data => .ok data.toList
    | .error _ => (Compression.Packing.bare.unpack body).map Array.toList

/-- The codings of the body that are known, in the order they were applied. -/
def codings (a : Answer) : List Coding :=
  let names := (a.headerValues "content-encoding".toList).flatMap (Url.splitAt ',')
  names.filterMap fun name => Coding.ofName? ((Text.trim name).map Char.toLower)

/-- The answer with its body unpacked; headers have to be ASCII. -/
def opened (a : Answer) : Except CallError Answer :=
  if a.headers.any fun h => (h.1.toList ++ h.2.toList).any fun c => 0x80 ≤ c.toNat then
    .error .badHeader
  else
    match a.codings.reverse.foldlM (fun body (coding : Coding) => coding.unpack body) a.body with
    | .ok body => .ok { a with body }
    | .error fault => .error (.transport ⟨"DecodingError", fault.message⟩)

/-! ### Redirections -/

/-- Whether a status tells that the answer is elsewhere. -/
def isRedirection (status : Int) : Bool := [301, 302, 303, 307, 308].contains status

/-- Ways of reaching an address for which a part of an address is completed by another one. -/
def completing : List (List Char) :=
  ["", "ftp", "http", "gopher", "nntp", "imap", "wais", "file", "https", "shttp", "mms", "prospero",
    "rtsp", "rtspu", "sftp", "svn", "svn+ssh", "ws", "wss"].map String.toList

/-- The address `u`, completed by another one as far as scheme, authority and fragment go. -/
def completed (base u : Url) : Url :=
  if u.text.isEmpty then base
  else if (u.scheme.isEmpty || u.scheme == base.scheme) && completing.contains base.scheme then
    if u.authority.isEmpty then
      { u with scheme := base.scheme, credentials := base.credentials, host := base.host,
               port := base.port }
    else { u with scheme := base.scheme }
  else u

/-- The port of an address, also where its scheme implies it. -/
def portOf (u : Url) : Option Int := u.port <|> Url.impliedPort? u.scheme

/-- Where a redirection from one address leads to: a missing host is the one that was asked, what
is left out is completed, and a fragment is kept. -/
def redirectedTo (sentTo : Url) (location : List Char) : Except CallError Url := do
  let u ← (Url.parse location).mapError fun fault => .transport ⟨"RemoteProtocolError",
    "Invalid URL in location header: " ++ fault.message ++ "."⟩
  let shown ← u.shownHost.mapError .name
  let u ← if !u.scheme.isEmpty && shown.isEmpty then do
      let host ← sentTo.shownHost.mapError .name
      (u.withHost host).mapError .address
    else pure u
  let u := if u.scheme.isEmpty || u.host.isEmpty then completed sentTo u else u
  let fragment := (Utf8.decode (Utf8.mend (Url.unescape (sentTo.fragment.getD [])))).getD []
  if fragment.isEmpty || !(u.fragment.getD []).isEmpty then pure u
  else (u.withFragment fragment).mapError .address

/-- Redirections are not followed, but where one leads to has to be an address, and one to another
server needs its name in ASCII. -/
def checkRedirection (a : Answer) (sentTo : Url) : Except CallError Unit :=
  match if isRedirection a.status then a.header? "location".toList else none with
  | none => .ok ()
  | some location => do
    let u ← redirectedTo sentTo location
    let host ← u.shownHost.mapError .name
    let asked ← sentTo.shownHost.mapError .name
    let isSame := u.scheme == sentTo.scheme && host == asked && portOf u == portOf sentTo
    if !isSame && u.host.any fun c => 0x80 ≤ c.toNat then .error (.unsendable .characters)

end Answer

end QuoteService.Client
