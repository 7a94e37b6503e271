import QuoteService.Client.Session
import QuoteService.CommandLine.Ending
import QuoteService.Logging.Setup

/-!
# The tool that calls the api

* `ClientTool.program`: its commands.
* `ClientTool.run`: what it does for some arguments.
-/

namespace QuoteService.CommandLine.ClientTool

open QuoteService.Client

/-- The setting for the address of the api. -/
def urlSetting : Setting :=
  ⟨'u', "url", true, .text, "The base url of the Fortune API (e.g. http://fortune.shinton.net)"⟩

/-- The setting for the token. -/
def tokenSetting : Setting :=
  ⟨'a', "auth-token", true, .text, "The bearer token to use to authenticate this call"⟩

/-- The command that shows a random quote. -/
def getCommand : Command := ⟨"get", "Get a new fortune", [urlSetting]⟩

/-- The command that shows all quotes. -/
def getAllCommand : Command := ⟨"get-all", "Get all fortunes", [urlSetting, tokenSetting]⟩

/-- The command that adds a quote. -/
def addCommand : Command :=
  ⟨"add", "Add a new fortune to the list",
    [urlSetting, tokenSetting, ⟨'f', "fortune", true, .text, "The fortune to add"⟩]⟩

/-- The tool. -/
def program : Program :=
  ⟨"fortune-client", "Utility for querying the fortune api", [getCommand, getAllCommand, addCommand]⟩

/-- Why the tool breaks off. -/
inductive Fault where
  | settings (faults : List Settings.FieldFault)
  | opening (fault : OpenError)
  | call (fault : CallError)

/-- What the tool leaves behind besides its ending: log records, the requests that went out, and the
state of the logger. -/
structure Outcome where
  ending : Ending Fault
  records : List LogRecord
  calls : List Call
  logger : LoggerState

/-- The ending after a call: the lines of its result, or the message of a failure that the service or
the way to it is to blame for. -/
def endingOf {α : Type} (lines : α → List Text) : Except CallError α → Ending Fault
  | .ok a => .done (lines a)
  | .error (.api fault) => .failed fault.message 1
  | .error (.transport fault) =>
    if fault.isOnWay then .failed (Text.ofString fault.message) 1 else .broken (.call (.transport fault))
  | .error fault => .broken (.call fault)

/-- A text that is given, or an empty list where nothing is. -/
def valueJson (text : Option String) : Json := text.elim (.arr []) Json.ofString

/-- Runs a command with a client. -/
def runWith (client : ApiClient) (transport : Transport) (command : String) (values : Values) :
    Ending Fault × List Call :=
  if command = getCommand.name then
    let (result, calls) := client.quote transport
    (endingOf (fun v => [v.display]) result, calls)
  else
    let client := client.withToken ((values.text? "auth-token" "").map Text.ofString)
    if command = getAllCommand.name then
      let (result, calls) := client.quotes transport
      (endingOf (fun vs => vs.map Json.display) result, calls)
    else
      let (result, calls) := client.add transport (valueJson (values.text? "fortune" ""))
      (endingOf (fun added => [Text.ofString
        (if added then "Fortune successfully added" else "Unable to add fortune")]) result, calls)

/-- Runs a command: settings come from the environment but for the address, and only warnings and
what is worse are logged. -/
def runCommand (transport : Transport) (environment : List (String × String)) (logger : LoggerState)
    (command : String) (values : Values) : Outcome :=
  let source : Settings.Source :=
    { arguments := [("url", valueJson (values.text? "url" ""))], environment }
  match ClientSettings.read source with
  | .error faults => ⟨.broken (.settings faults), [], [], logger⟩
  | .ok settings =>
    let logger := (logger.configure (Text.ofString "WARNING")).1
    match ApiClient.ofSettings settings with
    | (.error fault, records) => ⟨.broken (.opening fault), logger.passing records, [], logger⟩
    | (.ok client, records) =>
      let (ending, calls) := runWith client transport command values
      ⟨ending, logger.passing records, calls, logger⟩

/-- What the tool does for some arguments. -/
def run (transport : Transport) (environment : List (String × String)) (logger : LoggerState)
    (args : List (List Char)) : Outcome :=
  match program.read args with
  | .help text => ⟨.ofHelp text, [], [], logger⟩
  | .refused usage name fault => ⟨.ofRefusal usage name fault, [], [], logger⟩
  | .run command values => runCommand transport environment logger command values

end QuoteService.CommandLine.ClientTool
