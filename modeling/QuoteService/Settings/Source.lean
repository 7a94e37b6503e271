import QuoteService.Json.Value
import QuoteService.Text.Case
import QuoteService.Text.WholeNumber

/-!
# Sources of settings

A setting comes from the arguments, else from the environment, else it has its default. Names count
without regard to letter case; variables carry a prefix.

* `Source`: arguments and environment.
* `Source.text`, `Source.whole`: the value of a setting, or what is wrong with it.
* `Source.unknown`: the arguments that no setting takes.
-/

namespace QuoteService.Settings

/-- What is wrong with a value. -/
inductive FaultKind where
  | intParsing
  | intParsingSize
  | intFromFloat
  | intType
  | finiteNumber
  | stringType
  | extraForbidden
  deriving DecidableEq

/-- The word for a kind of fault. -/
def FaultKind.name : FaultKind → String
  | intParsing => "int_parsing"
  | intParsingSize => "int_parsing_size"
  | intFromFloat => "int_from_float"
  | intType => "int_type"
  | finiteNumber => "finite_number"
  | stringType => "string_type"
  | extraForbidden => "extra_forbidden"

/-- A fault of one field. -/
structure FieldFault where
  field : String
  kind : FaultKind
  deriving DecidableEq

/-- A value that was looked up, and the fault that was found if it is not usable. -/
structure Checked (α : Type) where
  value : α
  fault : Option FaultKind

/-- Arguments by name, and variables of the environment. -/
structure Source where
  arguments : List (String × Json)
  environment : List (String × String)

/-- Lower case of a name. -/
def lowerName (name : String) : String := String.ofList (Text.lower name.toList)

/-- What the names of variables start with, in lower case. -/
def variablePrefix : String := "fortune_"

namespace Source

/-- The argument of a name; the last one counts. -/
def fromArguments? (s : Source) (name : String) : Option Json :=
  (s.arguments.reverse.find? fun a => lowerName a.1 = name).map (·.2)

/-- The variable of a name; the last one counts. -/
def fromEnvironment? (s : Source) (name : String) : Option Json :=
  (s.environment.reverse.find? fun v => lowerName v.1 = variablePrefix ++ name).map
    fun v => Json.ofString v.2

/-- The value given for a name, by argument before environment. -/
def find? (s : Source) (name : String) : Option Json :=
  match s.fromArguments? name with
  | some v => some v
  | none => s.fromEnvironment? name

/-- A text setting. -/
def text (s : Source) (name default : String) : Checked Text :=
  match s.find? name with
  | none => ⟨Text.ofString default, none⟩
  | some (.str t) => ⟨t, none⟩
  | some _ => ⟨Text.ofString default, some .stringType⟩

/-- The whole number that a number of double precision is. -/
def wholeOfDouble (x : Double) : Except FaultKind Int :=
  match x with
  | .finite .. =>
    match x.integer? with
    | none => .error .intFromFloat
    | some n =>
      if -0x8000000000000000 < n ∧ n < 0x8000000000000000 then .ok n else .error .intParsingSize
  | _ => .error .finiteNumber

/-- The whole number that a value is. -/
def wholeOfValue : Json → Except FaultKind Int
  | .int n => .ok n
  | .bool b => .ok (if b then 1 else 0)
  | .float x => wholeOfDouble x
  | .str t =>
    match Text.plainInt t.shown with
    | .ok n => .ok n
    | .error .malformed => .error .intParsing
    | .error .tooLong => .error .intParsingSize
  | _ => .error .intType

/-- A whole number setting. -/
def whole (s : Source) (name : String) (default : Int) : Checked Int :=
  match s.find? name with
  | none => ⟨default, none⟩
  | some v =>
    match wholeOfValue v with
    | .ok n => ⟨n, none⟩
    | .error kind => ⟨default, some kind⟩

/-- The arguments that none of the names takes. -/
def unknown (s : Source) (names : List String) : List FieldFault :=
  (s.arguments.filter fun a => !names.contains (lowerName a.1)).map
    fun a => ⟨a.1, .extraForbidden⟩

end Source

/-- The fault of a field, if it has one. -/
def faultOf {α : Type} (field : String) (c : Checked α) : List FieldFault :=
  c.fault.toList.map fun kind => ⟨field, kind⟩

end QuoteService.Settings
