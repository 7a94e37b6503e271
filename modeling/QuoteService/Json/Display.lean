import QuoteService.Json.Value
import QuoteService.Number.Shortest
import QuoteService.Text.Quoted

/-!
# Values in messages

A value within a sentence: a text stands as it is, and in quotes where it is part of a larger value.

* `display`: a value as it stands in a message.
* `nested`: a value as part of a larger one.
-/

namespace QuoteService.Json

/-- The word for nothing. -/
def nothing : List Char := "None".toList

mutual

/-- A value as part of a larger one. -/
def nested : Json → List Char
  | .null => nothing
  | .bool true => "True".toList
  | .bool false => "False".toList
  | .int n => Text.intDigits n
  | .float x => x.chars
  | .str t => Text.quoted t
  | .arr items => '[' :: (nestedItems items ++ [']'])
  | .obj members => '\x7b' :: (nestedMembers members ++ ['\x7d'])

/-- Values with commas and spaces between them. -/
def nestedItems : List Json → List Char
  | [] => []
  | [v] => nested v
  | v :: vs => nested v ++ ',' :: ' ' :: nestedItems vs

/-- Members with commas and spaces between them. -/
def nestedMembers : List (Text × Json) → List Char
  | [] => []
  | [m] => Text.quoted m.1 ++ ':' :: ' ' :: nested m.2
  | m :: ms => Text.quoted m.1 ++ ':' :: ' ' :: (nested m.2 ++ ',' :: ' ' :: nestedMembers ms)

end

/-- A value as it stands in a message. -/
def display : Json → Text
  | .str t => t
  | v => Text.ofChars (nested v)

mutual

/-- Whether all numbers of a value are finite. -/
def isFinite : Json → Bool
  | .float (.finite _ _ _) => true
  | .float _ => false
  | .arr items => areFinite items
  | .obj members => membersAreFinite members
  | _ => true

/-- Whether all numbers of some values are finite. -/
def areFinite : List Json → Bool
  | [] => true
  | v :: vs => isFinite v && areFinite vs

/-- Whether all numbers of the values of some members are finite. -/
def membersAreFinite : List (Text × Json) → Bool
  | [] => true
  | m :: ms => isFinite m.2 && membersAreFinite ms

end

mutual

/-- A value with null in the place of numbers that are not finite. -/
def withoutNonFinite : Json → Json
  | .float (.finite n m e) => .float (.finite n m e)
  | .float _ => .null
  | .arr items => .arr (itemsWithoutNonFinite items)
  | .obj members => .obj (membersWithoutNonFinite members)
  | v => v

/-- Values with null in the place of numbers that are not finite. -/
def itemsWithoutNonFinite : List Json → List Json
  | [] => []
  | v :: vs => withoutNonFinite v :: itemsWithoutNonFinite vs

/-- Members with null in the place of numbers that are not finite. -/
def membersWithoutNonFinite : List (Text × Json) → List (Text × Json)
  | [] => []
  | m :: ms => (m.1, withoutNonFinite m.2) :: membersWithoutNonFinite ms

end

end QuoteService.Json
