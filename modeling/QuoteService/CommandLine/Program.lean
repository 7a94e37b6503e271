import QuoteService.Text.Case

/-!
# Programs with commands

A program has commands, a command has settings, and every setting takes one value.

* `Setting`, `Command`, `Program`: what may be given.
* `Flag`: a setting, or the request for help that every command understands.
* `Program.command?`, `Program.nameOf`: the command of a name, and what its messages start with.
-/

namespace QuoteService.CommandLine

/-- How the value of a setting is read. -/
inductive ValueKind where
  | text
  | whole
  deriving DecidableEq

/-- A setting: its letter and its name are two ways to give it. -/
structure Setting where
  letter : Char
  name : String
  isRequired : Bool
  kind : ValueKind
  help : String
  deriving DecidableEq

/-- A command of a program. -/
structure Command where
  name : String
  help : String
  settings : List Setting
  deriving DecidableEq

/-- A program. -/
structure Program where
  name : String
  description : String
  commands : List Command
  deriving DecidableEq

/-- A setting, or the request for help. -/
inductive Flag where
  | help
  | setting (s : Setting)
  deriving DecidableEq

namespace Flag

/-- The short spelling. -/
def short : Flag → List Char
  | help => ['-', 'h']
  | setting s => ['-', s.letter]

/-- The long spelling. -/
def long : Flag → List Char
  | help => "--help".toList
  | setting s => '-' :: '-' :: s.name.toList

/-- Both spellings, as messages show them. -/
def shown (f : Flag) : List Char := f.short ++ '/' :: f.long

/-- The spellings of flags, in order, each with its flag. -/
def spellings (flags : List Flag) : List (List Char × Flag) :=
  flags.flatMap fun f => [(f.short, f), (f.long, f)]

end Flag

/-- The word that stands for the value of a setting. -/
def Setting.placeholder (s : Setting) : List Char :=
  s.name.toList.map fun c => if c = '-' then '_' else c.toUpper

/-- The flags of a command. -/
def Command.flags (c : Command) : List Flag := .help :: c.settings.map .setting

namespace Program

/-- The command of a name. -/
def command? (p : Program) (name : List Char) : Option Command :=
  p.commands.find? fun c => c.name.toList = name

/-- The name of a program with that of a command. -/
def nameOf (p : Program) (c : Command) : String := p.name ++ " " ++ c.name

end Program

end QuoteService.CommandLine
