import QuoteService.Number.Double
import QuoteService.Text.CodePoint

/-!
# JSON values

* `Json`: a value; an object keeps its members in order, one to a name.
* `Json.put`, `Json.ofMembers`: a member that comes again takes the place of the first.
* `Json.member?`: the value of a name.
* `Json.depth`: how many values stand in one another.
-/

namespace QuoteService

/-- A JSON value. -/
inductive Json where
  | null
  | bool (b : Bool)
  | int (n : Int)
  | float (x : Double)
  | str (t : Text)
  | arr (items : List Json)
  | obj (members : List (Text × Json))
  deriving Inhabited

namespace Json

/-- Sets a member: in the place where the name stands already, else at the end. -/
def put (name : Text) (value : Json) : List (Text × Json) → List (Text × Json)
  | [] => [(name, value)]
  | m :: ms => if m.1 = name then (name, value) :: ms else m :: put name value ms

/-- An object from its members as they were written; of equal names the last value counts. -/
def ofMembers (ms : List (Text × Json)) : Json :=
  .obj (ms.foldl (fun acc m => put m.1 m.2 acc) [])

/-- The value of a name among members. -/
def find? (name : Text) (ms : List (Text × Json)) : Option Json :=
  (ms.find? fun m => m.1 = name).map (·.2)

/-- The value of a member of an object. -/
def member? (name : String) : Json → Option Json
  | .obj ms => find? (Text.ofString name) ms
  | _ => none

/-- The string value of characters. -/
def ofString (s : String) : Json := .str (Text.ofString s)

/-- The name of a member given by a string. -/
def field (name : String) (value : Json) : Text × Json := (Text.ofString name, value)

mutual

/-- How many values stand in one another at most, the innermost counted. -/
def depth : Json → Nat
  | .arr items => depthList items + 1
  | .obj members => depthMembers members + 1
  | _ => 1

/-- The greatest depth of some values. -/
def depthList : List Json → Nat
  | [] => 0
  | v :: vs => max (depth v) (depthList vs)

/-- The greatest depth of the values of some members. -/
def depthMembers : List (Text × Json) → Nat
  | [] => 0
  | m :: ms => max (depth m.2) (depthMembers ms)

end

end Json

end QuoteService
