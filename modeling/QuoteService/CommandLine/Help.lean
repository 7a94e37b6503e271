import QuoteService.CommandLine.Program

/-!
# Help

Help fits a screen of eighty columns. What a flag does stands beside it in a column of its own, or
below it where the flag is too wide.

* `usageOf`: how a program or a command is called.
* `Program.help`, `Command.help`: the whole text of help.
-/

namespace QuoteService.CommandLine

/-- The columns of a line. -/
def lineWidth : Nat := 78

/-- The column in which explanations start at the latest. -/
def maxHelpColumn : Nat := 24

/-- Blanks. -/
def blanks (n : Nat) : List Char := List.replicate n ' '

/-- Words on lines of at most `width` columns, from the line `line` on; `fresh` tells that no word
stands on it yet, and the lines after it start with `margin` blanks. -/
def fillFrom (width margin : Nat) (line : List Char) (fresh : Bool) :
    List (List Char) → List (List Char)
  | [] => [line]
  | word :: words =>
    if fresh then fillFrom width margin (line ++ word) false words
    else if line.length + 1 + word.length ≤ width then
      fillFrom width margin (line ++ ' ' :: word) false words
    else line :: fillFrom width margin (blanks margin ++ word) false words

/-- The words of a text. -/
def words (s : String) : List (List Char) := (s.splitOn " ").map String.toList

/-- Words on lines of at most `width` columns. -/
def fill (width : Nat) (s : String) : List (List Char) := fillFrom width 0 [] true (words s)

/-! ### Usage -/

/-- What the usage says about a flag. -/
def Flag.usage : Flag → List (List Char)
  | help => ["[-h]".toList]
  | setting s =>
    if s.isRequired then [(setting s).short, s.placeholder]
    else ['[' :: (setting s).short ++ ' ' :: (s.placeholder ++ [']'])]

/-- The choice of a command. -/
def Program.choice (p : Program) : List Char :=
  '\x7b' :: (List.intercalate [','] (p.commands.map fun c => c.name.toList) ++ ['\x7d'])

/-- How a program or command of the given name is called, on as many lines as it takes. -/
def usageOf (name : String) (parts : List (List Char)) : List Char :=
  let start := "usage: ".toList ++ name.toList
  List.intercalate ['\n'] (fillFrom lineWidth (start.length + 1) start false parts)

/-- How a program is called. -/
def Program.usage (p : Program) : List Char :=
  usageOf p.name [Flag.help.usage.flatten, p.choice, "...".toList]

/-- How a command of a program is called. -/
def Program.commandUsage (p : Program) (c : Command) : List Char :=
  usageOf (p.nameOf c) (c.flags.flatMap Flag.usage)

/-! ### Tables -/

/-- A line of a table: how far it is moved in, what it is about, and what there is to say. -/
structure Entry where
  margin : Nat
  subject : List Char
  text : String

/-- A flag with the placeholder of its value, in both spellings. -/
def Flag.subject : Flag → List Char
  | help => (help).short ++ ", ".toList ++ (help).long
  | setting s =>
    (setting s).short ++ ' ' :: s.placeholder ++ ", ".toList ++ (setting s).long ++
      ' ' :: s.placeholder

/-- The explanation of a flag. -/
def Flag.text : Flag → String
  | help => "show this help message and exit"
  | setting s => s.help

/-- The entry of a flag. -/
def Flag.entry (f : Flag) : Entry := ⟨2, f.subject, f.text⟩

/-- The entries of the commands of a program under their choice. -/
def Program.entries (p : Program) : List Entry :=
  ⟨2, p.choice, ""⟩ :: p.commands.map fun c => ⟨4, c.name.toList, c.help⟩

/-- The column in which the explanations of some subjects start. -/
def helpColumn (subjects : List (List Char)) : Nat :=
  min ((subjects.foldl (fun n s => max n s.length) 0) + 4) maxHelpColumn

/-- The lines of an entry, explained from a column on. -/
def Entry.lines (column : Nat) (e : Entry) : List (List Char) :=
  let subject := blanks e.margin ++ e.subject
  if e.text.isEmpty then [subject]
  else
    let explained := fill (lineWidth - column) e.text
    if subject.length + 2 ≤ column then
      match explained with
      | [] => [subject]
      | first :: rest =>
        (subject ++ blanks (column - subject.length) ++ first) :: rest.map (blanks column ++ ·)
    else subject :: explained.map (blanks column ++ ·)

/-- A titled table. -/
def table (title : String) (column : Nat) (entries : List Entry) : List Char :=
  List.intercalate ['\n'] (title.toList :: entries.flatMap (Entry.lines column))

/-- Paragraphs with empty lines between them. -/
def page (paragraphs : List (List Char)) : List Char :=
  List.intercalate ['\n', '\n'] paragraphs ++ ['\n']

/-- The help of a program. -/
def Program.help (p : Program) : List Char :=
  let column := helpColumn ((p.entries.map Entry.subject) ++ [Flag.help.subject])
  page [p.usage, p.description.toList, table "positional arguments:" column p.entries,
    table "options:" column [Flag.help.entry]]

/-- The help of a command. -/
def Program.commandHelp (p : Program) (c : Command) : List Char :=
  let column := helpColumn (c.flags.map Flag.subject)
  page [p.commandUsage c, table "options:" column (c.flags.map Flag.entry)]

end QuoteService.CommandLine
