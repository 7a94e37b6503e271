import QuoteService.CommandLine.Help
import QuoteService.Text.Quoted
import QuoteService.Text.WholeNumber

/-!
# Reading arguments

The first argument that is no flag names the command, and all after it belong to the command. A
flag may be given in full, by a start of its long spelling that no other flag shares, and with its
value attached.

* `classify`: what one argument is.
* `readSettings`: the values that the arguments of a command give.
* `Program.read`: what the arguments of a program ask for.
-/

namespace QuoteService.CommandLine

/-- The value of a setting. -/
inductive Value where
  | text (cs : List Char)
  | whole (n : Int)
  /-- What the separator gives when it is attached to a flag. -/
  | nothing
  deriving DecidableEq

/-- Why arguments are refused. -/
inductive UsageError where
  /-- Something is not given. -/
  | required (names : List (List Char))
  /-- No command has that name. -/
  | choice (given : List Char) (names : List String)
  /-- A flag lacks its value. -/
  | lacksValue (flag : Flag)
  /-- A value is attached to a flag that takes none. -/
  | ignoredValue (value : List Char)
  /-- A value should be a whole number. -/
  | notWhole (flag : Flag) (value : List Char)
  /-- Several flags start like that. -/
  | ambiguous (given : List Char) (spellings : List (List Char))
  /-- Arguments are left over. -/
  | unrecognized (arguments : List (List Char))
  deriving DecidableEq

/-- Texts with a comma and a blank between them. -/
def listing (texts : List (List Char)) : List Char := List.intercalate [',', ' '] texts

/-- A text in quotes. -/
def inQuotes (cs : List Char) : List Char := Text.quoted (Text.ofChars cs)

/-- The text of the error. -/
def UsageError.message : UsageError → List Char
  | required names => "the following arguments are required: ".toList ++ listing names
  | choice given names =>
    "argument command: invalid choice: ".toList ++ inQuotes given ++ " (choose from ".toList ++
      listing (names.map fun n => inQuotes n.toList) ++ [')']
  | lacksValue flag => "argument ".toList ++ flag.shown ++ ": expected one argument".toList
  | ignoredValue value =>
    "argument ".toList ++ Flag.help.shown ++ ": ignored explicit argument ".toList ++ inQuotes value
  | notWhole flag value =>
    "argument ".toList ++ flag.shown ++ ": invalid int value: ".toList ++ inQuotes value
  | ambiguous given spellings =>
    "ambiguous option: ".toList ++ given ++ " could match ".toList ++ listing spellings
  | unrecognized arguments =>
    "unrecognized arguments: ".toList ++ List.intercalate [' '] arguments

/-! ### One argument -/

/-- What an argument is. -/
inductive Kind where
  | plain
  /-- The separator after which every argument is plain. -/
  | separator
  /-- A flag that is not known here. -/
  | unknown
  /-- A flag, and the value attached to it. -/
  | flag (f : Flag) (isLong : Bool) (attached : Option (List Char))

/-- What stands in front of the first equals sign, and what follows it if there is one. -/
def cutEquals (cs : List Char) : List Char × Option (List Char) :=
  match cs.dropWhile (· != '=') with
  | [] => (cs, none)
  | _ :: r => (cs.takeWhile (· != '='), some r)

/-- Whether a text is a number with a minus sign: digits, or a point with digits after it. -/
def isNegativeNumber (cs : List Char) : Bool :=
  let isDigit (c : Char) : Bool := (Text.anyDigitValue? c).isSome
  let body := match cs.drop 1 with
    | [] => []
    | r => if r.getLast? = some '\n' then r.dropLast else r
  let fraction := (body.dropWhile (· != '.')).drop 1
  cs.head? == some '-' && !body.isEmpty &&
    (body.all isDigit ||
      ((body.takeWhile (· != '.')).all isDigit && !fraction.isEmpty && fraction.all isDigit))

/-- Whether a spelling starts with two hyphens. -/
def isLongSpelling (cs : List Char) : Bool := ['-', '-'].isPrefixOf cs

/-- The flags that an argument of two characters or more may mean, with their spelling. -/
def candidates (flags : List Flag) (arg : List Char) : List (List Char × Kind) :=
  if isLongSpelling arg then
    let (start, value) := cutEquals arg
    (Flag.spellings flags).filterMap fun (spelling, f) =>
      if start.isPrefixOf spelling then some (spelling, .flag f true value)
      else none
  else
    (Flag.spellings flags).filterMap fun (spelling, f) =>
      if spelling = arg.take 2 then some (spelling, .flag f false (some (arg.drop 2)))
      else none

/-- What an argument in front of the separator is. -/
def classify (flags : List Flag) (arg : List Char) : Except UsageError Kind :=
  if arg.head? ≠ some '-' then .ok .plain
  else
    let find (spelling : List Char) : Option Flag :=
      ((Flag.spellings flags).find? fun s => s.1 = spelling).map (·.2)
    let (start, value) := cutEquals arg
    match find arg, arg, (if value.isSome then find start else none) with
    | some f, _, _ => .ok (.flag f (isLongSpelling arg) none)
    | none, [_], _ => .ok .plain
    | none, _, some f => .ok (.flag f (isLongSpelling start) value)
    | none, _, none =>
      match candidates flags arg with
      | [(_, kind)] => .ok kind
      | [] => .ok (if isNegativeNumber arg || arg.contains ' ' then .plain else .unknown)
      | several => .error (.ambiguous arg (several.map (·.1)))

/-- The argument after which every argument is plain. -/
def separator : List Char := ['-', '-']

/-- What all arguments are. -/
def classifyAll (flags : List Flag) : List (List Char) → Except UsageError (List (List Char × Kind))
  | [] => .ok []
  | arg :: args =>
    if arg = separator then .ok ((arg, .separator) :: args.map fun a => (a, .plain))
    else do
      let kind ← classify flags arg
      let rest ← classifyAll flags args
      pure ((arg, kind) :: rest)

/-! ### Flags and values -/

/-- Whether the next argument can be the value of a flag. -/
def nextIsPlain : List (List Char × Kind) → Bool
  | (_, .plain) :: _ => true
  | _ => false

/-- A request for help with something attached asks for help all the same if that can be read as
further letters, unless one of them lacks its value. -/
def helpAttached (flags : List Flag) (rest : List (List Char × Kind)) :
    List Char → Option UsageError
  | [] => some (.ignoredValue [])
  | c :: cs =>
    match flags.find? fun f => f.short = ['-', c], cs with
    | none, _ => some (.ignoredValue (c :: cs))
    | some .help, [] => none
    | some .help, cs => helpAttached flags rest cs
    | some f, [] => if nextIsPlain rest then none else some (.lacksValue f)
    | some _, _ :: _ => none

/-- Why a request for help is refused, if it is. -/
def helpRefusal (flags : List Flag) (isLong : Bool) (attached : Option (List Char))
    (rest : List (List Char × Kind)) : Option UsageError :=
  attached.bind fun text => if isLong then some (.ignoredValue text) else helpAttached flags rest text

/-- The value of a setting as it is given. -/
def readValue (s : Setting) (given : List Char) : Except UsageError Value :=
  match s.kind with
  | .text => .ok (.text given)
  | .whole =>
    match Text.lenientInt? given with
    | some n => .ok (.whole n)
    | none => .error (.notWhole (.setting s) given)

/-- The value of a setting as it is attached to its flag. -/
def readAttached (s : Setting) (given : List Char) : Except UsageError Value :=
  if given = separator then .ok .nothing else readValue s given

/-- The values given to settings, by name. -/
abbrev Values := List (String × Value)

/-- What the arguments of a command give. -/
inductive Given where
  | help
  /-- The values in order, and the arguments left over. -/
  | values (values : Values) (extras : List (List Char))
  deriving DecidableEq

/-- Adds a value in front of those given later. -/
def Given.withValue (name : String) (value : Value) : Given → Given
  | help => help
  | values vs extras => values ((name, value) :: vs) extras

/-- Adds an argument that is left over. -/
def Given.withExtra (arg : List Char) : Given → Given
  | help => help
  | values vs extras => values vs (arg :: extras)

/-- What classified arguments give. -/
def gather (flags : List Flag) : List (List Char × Kind) → Except UsageError Given
  | [] => .ok (.values [] [])
  | (_, .flag .help isLong attached) :: rest =>
    match helpRefusal flags isLong attached rest with
    | some e => .error e
    | none => .ok .help
  | (_, .flag (.setting s) _ (some attached)) :: rest => do
    let value ← readAttached s attached
    let given ← gather flags rest
    pure (given.withValue s.name value)
  | (_, .flag (.setting s) _ none) :: (next, .plain) :: rest => do
    let value ← readValue s next
    let given ← gather flags rest
    pure (given.withValue s.name value)
  | (_, .flag (.setting s) _ none) :: _ => .error (.lacksValue (.setting s))
  | (arg, _) :: rest => do
    let given ← gather flags rest
    pure (given.withExtra arg)

/-- The settings that have to be given and are not. -/
def missing (settings : List Setting) (values : Values) : List (List Char) :=
  (settings.filter fun s => s.isRequired && !(values.any fun v => v.1 = s.name)).map fun s =>
    (Flag.setting s).shown

/-- What the arguments of a command give. -/
def readSettings (c : Command) (args : List (List Char)) : Except UsageError Given := do
  let given ← gather c.flags (← classifyAll c.flags args)
  match given with
  | .help => pure .help
  | .values values extras =>
    if missing c.settings values = [] then pure (.values values extras)
    else .error (.required (missing c.settings values))

/-- The value of a setting; the last one given counts. -/
def Values.find? (values : Values) (name : String) : Option Value :=
  (values.reverse.find? fun v => v.1 = name).map (·.2)

/-- The text of a setting; none if nothing is given to it. -/
def Values.text? (values : Values) (name : String) (default : String) : Option String :=
  match values.find? name with
  | some (.text cs) => some (String.ofList cs)
  | some .nothing => none
  | _ => some default

/-- The whole number of a setting; none if nothing is given to it. -/
def Values.whole? (values : Values) (name : String) (default : Int) : Option Int :=
  match values.find? name with
  | some (.whole n) => some n
  | some .nothing => none
  | _ => some default

/-! ### Programs -/

/-- What the arguments of a program ask for. -/
inductive Request where
  /-- A text of help. -/
  | help (text : List Char)
  /-- A command with its values. -/
  | run (command : String) (values : Values)
  /-- Nothing, with the usage and the name of what refuses. -/
  | refused (usage : List Char) (name : String) (fault : UsageError)
  deriving DecidableEq

namespace Program

/-- A refusal by the program itself. -/
def refuse (p : Program) (fault : UsageError) : Request := .refused p.usage p.name fault

/-- What a command with its arguments asks for, after arguments that are left over. -/
def readCommand (p : Program) (extras : List (List Char)) (name : List Char)
    (args : List (List Char)) : Request :=
  match p.command? name with
  | none => p.refuse (.choice name (p.commands.map Command.name))
  | some c =>
    match readSettings c args with
    | .error e => .refused (p.commandUsage c) (p.nameOf c) e
    | .ok .help => .help (p.commandHelp c)
    | .ok (.values values more) =>
      if extras ++ more = [] then .run c.name values
      else p.refuse (.unrecognized (extras ++ more))

/-- What classified arguments ask for; the command has not been found yet. -/
def readFrom (p : Program) (extras : List (List Char)) : List (List Char × Kind) → Request
  | [] => p.refuse (.required ["command".toList])
  | (_, .flag .help isLong attached) :: rest =>
    match helpRefusal [.help] isLong attached rest with
    | some e => p.refuse e
    | none => .help p.help
  | (name, .plain) :: rest => p.readCommand extras name (rest.map (·.1))
  | (arg, .separator) :: rest =>
    if rest.isEmpty then p.refuse (.required ["command".toList])
    else p.readCommand extras arg (rest.map (·.1))
  | (arg, _) :: rest => p.readFrom (extras ++ [arg]) rest

/-- What arguments ask for. -/
def read (p : Program) (args : List (List Char)) : Request :=
  match classifyAll [.help] args with
  | .error e => p.refuse e
  | .ok items => p.readFrom [] items

end Program

end QuoteService.CommandLine
