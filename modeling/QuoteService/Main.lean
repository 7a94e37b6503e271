import QuoteService.CommandLine.ClientTool
import QuoteService.CommandLine.TokenTool
import Std.Time.DateTime.Timestamp

/-!
# The program

The first argument names the tool, and all after it belong to the tool. What a server answers to the
tool that calls the api is read from standard input: the status on the first line, then the body.
-/

namespace QuoteService.Program

open QuoteService.CommandLine

/-- The characters of a text as a string; a half of a pair that stands alone is replaced. -/
def stringOf (t : Text) : String :=
  String.ofList (t.map fun p => (CodePoint.toChar? p).getD '\ufffd')

/-- Writes what a tool wrote, and gives its code; one that broke off ends with one. -/
def finish {ε : Type} (e : Ending ε) : IO UInt32 := do
  IO.print (stringOf e.output)
  IO.eprint (stringOf e.errors)
  match e.code with
  | .ok n => return UInt32.ofNat n
  | .error _ =>
    IO.eprintln "the tool broke off"
    return 1

/-- The variables of the environment that a client reads. -/
def clientEnvironment : IO (List (String × String)) :=
  ClientSettings.names.filterMapM fun name => do
    let variableName := (Settings.variablePrefix ++ name).map Char.toUpper
    return (← IO.getEnv variableName).map fun value => (variableName, value)

/-- Whatever is asked, the answer in a text: the status on its first line, then the body. -/
def answerIn (text : String) : Client.Transport := fun _ =>
  let line := text.toList.takeWhile (· != '\n')
  match Text.lenientInt? line with
  | some status => .ok ⟨status, [], Utf8.encode ((text.toList.dropWhile (· != '\n')).drop 1)⟩
  | none => .error ⟨"RemoteProtocolError", "no status"⟩

/-- Runs the tool for tokens and keys. -/
def runTokenTool (args : List String) : IO UInt32 := do
  let now ← Std.Time.Timestamp.now
  let random ← IO.getRandomBytes (USize.ofNat Token.minKeyLength)
  finish (TokenTool.run now.toMillisecondsSinceUnixEpoch.val random.toList (args.map String.toList))

/-- Runs the tool that calls the api. -/
def runClientTool (args : List String) : IO UInt32 := do
  let environment ← clientEnvironment
  let text ← (← IO.getStdin).readToEnd
  let outcome := ClientTool.run (answerIn text) environment .initial (args.map String.toList)
  finish outcome.ending

/-- Runs the tool that the first argument names. -/
def run (args : List String) : IO UInt32 := do
  match args with
  | tool :: rest =>
    if tool = TokenTool.program.name then runTokenTool rest
    else if tool = ClientTool.program.name then runClientTool rest
    else
      IO.eprintln "no such tool"
      return 2
  | [] =>
    IO.eprintln "no tool is named"
    return 2

end QuoteService.Program

/-- Runs the tool that the first argument names. -/
def main (args : List String) : IO UInt32 := QuoteService.Program.run args
