import QuoteService.Text.Blank
import QuoteService.Text.Lines

/-!
# PEM marker lines

* `BlockKind`: the two kinds of block that are picked out of a text.
* `Marker.ofLine?`: the marker that a trimmed line is.
* `contentLines`: the lines of a text, each trimmed.
-/

namespace QuoteService.Pem

/-- What a block holds. -/
inductive BlockKind where
  | privateKey
  | certificate
  deriving DecidableEq

/-- The label of a kind of block. -/
def BlockKind.label : BlockKind → String
  | privateKey => "PRIVATE KEY"
  | certificate => "CERTIFICATE"

/-- A line that opens or closes a block. -/
inductive Marker where
  | opening (kind : BlockKind)
  | closing (kind : BlockKind)
  deriving DecidableEq

namespace Marker

/-- The text of a marker line. -/
def text : Marker → String
  | opening kind => "-----BEGIN " ++ kind.label ++ "-----"
  | closing kind => "-----END " ++ kind.label ++ "-----"

/-- The four markers. -/
def all : List Marker :=
  [.opening .privateKey, .opening .certificate, .closing .privateKey, .closing .certificate]

/-- The marker that a trimmed line is. -/
def ofLine? (line : List Char) : Option Marker := all.find? fun m => m.text.toList = line

end Marker

/-- The lines of a text, each trimmed. -/
def contentLines (text : List Char) : List (List Char) := (Text.splitLines text).map Text.trim

end QuoteService.Pem
