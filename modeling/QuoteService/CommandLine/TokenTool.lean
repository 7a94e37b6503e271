import QuoteService.CommandLine.Ending
import QuoteService.Token.Authority

/-!
# The tool for tokens and keys

* `TokenTool.program`: its commands.
* `TokenTool.run`: what it does for some arguments.
-/

namespace QuoteService.CommandLine.TokenTool

/-- How many seconds a token is valid if nothing is said. -/
def defaultExpiresIn : Nat := 86400

/-- The path that a token is for if nothing is said. -/
def defaultPath : String := "/api/v1/fortune"

/-- The command that makes a token. -/
def tokenCommand : Command :=
  ⟨"token", "Generate a bearer token",
    [⟨'k', "signing-key", true, .text, "A Base64 encoded HS512 signing key"⟩,
     ⟨'p', "public-host", true, .text,
      "The public hostname of the api (e.g. fortune.shinton.net)"⟩,
     ⟨'e', "expires-in", false, .whole,
      "Seconds the token stays valid (default: " ++ Text.natString defaultExpiresIn ++ ")"⟩,
     ⟨'a', "api-path", false, .text,
      "The API path for the token (default: " ++ defaultPath ++ ")"⟩]⟩

/-- The command that makes a signing key. -/
def keyCommand : Command := ⟨"key", "Generate a signing key", []⟩

/-- The tool. -/
def program : Program :=
  ⟨"fortune-token", "Utility for working with bearer tokens", [tokenCommand, keyCommand]⟩

/-- Why the tool breaks off. -/
inductive Fault where
  | mint (fault : Token.MintError)
  /-- Nothing is given where a text is needed. -/
  | noText
  /-- Nothing is given where a number is needed. -/
  | noNumber

/-- Makes a token at `now`. -/
def makeToken (now : Int) (values : Values) : Ending Fault :=
  let host := values.text? "public-host" ""
  match Token.Authority.create (values.text? "signing-key" "") (host.getD "") with
  | .error fault => .failed (Text.ofString fault.message) 2
  | .ok authority =>
    match host, values.text? "api-path" defaultPath, values.whole? "expires-in" defaultExpiresIn with
    | some _, some path, some expiresIn =>
      match authority.generate now expiresIn (some path) with
      | .error fault => .broken (.mint fault)
      | .ok token => .done [Text.ofString token]
    | some _, some _, none => .broken .noNumber
    | _, _, _ => .broken .noText

/-- What the tool does at `now` with random bytes at hand. -/
def run (now : Int) (random : List UInt8) (args : List (List Char)) : Ending Fault :=
  match program.read args with
  | .help text => .ofHelp text
  | .refused usage name fault => .ofRefusal usage name fault
  | .run command values =>
    if command = keyCommand.name then .done [Text.ofString (Token.SigningKey.newText random)]
    else makeToken now values

end QuoteService.CommandLine.TokenTool
