import QuoteService.Text.Case

/-!
# Audiences

A token is bound to a host and a path, joined into one text.

* `joinPath`: host and path with one slash between them.
* `sameAudience`: equality up to letter case.
-/

namespace QuoteService.Token

/-- A text without the slash at its end, if there is one. -/
def dropTrailingSlash (cs : List Char) : List Char :=
  if cs.getLast? = some '/' then cs.dropLast else cs

/-- A text without the slash at its start, if there is one. -/
def dropLeadingSlash : List Char → List Char
  | '/' :: r => r
  | cs => cs

/-- Joins a host and a path with exactly one slash between them. -/
def joinPath (first second : List Char) : List Char :=
  dropTrailingSlash first ++ '/' :: dropLeadingSlash second

/-- Whether two audiences are equal when letter case is ignored. -/
def sameAudience (a b : List Char) : Bool := Text.lower a == Text.lower b

end QuoteService.Token
