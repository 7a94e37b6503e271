import QuoteService.CommandLine.Arguments

/-!
# How a tool ends

* `Ending`: what a tool wrote and how it ended.
* `Ending.ofHelp`, `Ending.ofRefusal`: the endings without a command.
-/

namespace QuoteService.CommandLine

/-- What a tool wrote on the two streams, and the code it ended with unless it broke off. -/
structure Ending (ε : Type) where
  output : Text
  errors : Text
  code : Except ε Nat

namespace Ending

variable {ε : Type}

/-- Success, with the lines written. -/
def done (lines : List Text) : Ending ε := ⟨lines.flatMap (· ++ Text.ofChars ['\n']), [], .ok 0⟩

/-- Failure with a message and a code. -/
def failed (message : Text) (code : Nat) : Ending ε :=
  ⟨[], Text.ofString "error: " ++ message ++ Text.ofChars ['\n'], .ok code⟩

/-- A tool that broke off. -/
def broken (fault : ε) : Ending ε := ⟨[], [], .error fault⟩

/-- The ending after help. -/
def ofHelp (text : List Char) : Ending ε := ⟨Text.ofChars text, [], .ok 0⟩

/-- The ending after arguments that were refused. -/
def ofRefusal (usage : List Char) (name : String) (fault : UsageError) : Ending ε :=
  ⟨[], Text.ofChars (usage ++ '\n' :: name.toList ++ ": error: ".toList ++ fault.message ++ ['\n']),
    .ok 2⟩

end Ending

end QuoteService.CommandLine
