import QuoteService.Text.Case
import QuoteService.Text.RealNumber
import QuoteService.Url.Percent

/-!
# Database addresses

An address names a dialect and a driver, then a user, a host and a port, a file, and options.

* `DatabaseUrl.parse?`: the parts of an address.
* `DatabaseUrl.check`: whether an address names the driver that is there, and nothing but a file and
  options that the driver understands.
-/

namespace QuoteService

/-- Why an address gives no database. -/
inductive DatabaseUrlError where
  | malformed
  | badPort
  /-- More than one driver is named. -/
  | severalDrivers
  | unknownDriver
  | unknownPlugin
  | missingDriver
  /-- A file has neither user nor host. -/
  | notFile
  /-- The value of an option is not of its kind. -/
  | badOption
  /-- An option that takes one value has several. -/
  | repeatedOption
  /-- Options for a file are given without a file, or one of them has several values. -/
  | unusableOptions
  | blockingDriver
  deriving DecidableEq

/-- The parts of an address. -/
structure DatabaseUrl where
  dialect : List Char
  /-- What follows each plus sign behind the dialect. -/
  drivers : List (List Char)
  user : List Char
  password : List Char
  host : List Char
  port : Option (List Char)
  file : Option (List Char)
  /-- The values of each option. -/
  options : List (List Char × List (List Char))
  deriving DecidableEq

namespace DatabaseUrl

/-! ### Parts -/

/-- Characters of the name of a driver. -/
def isNameChar (c : Char) : Bool := c.isAlphanum || c == '_' || c == '+' || 0x80 ≤ c.toNat

/-- User and password in front of a host, and what follows them. -/
def splitUser (cs : List Char) : List Char × List Char × List Char :=
  let user := cs.takeWhile fun c => c != ':' && c != '/'
  let rest := cs.dropWhile fun c => c != ':' && c != '/'
  match rest with
  | ':' :: r =>
    match r.dropWhile (· != '@') with
    | '@' :: after => (user, r.takeWhile (· != '@'), after)
    | _ => atLast user rest
  | _ => atLast user rest
where
  /-- Splits at the last `@` of a text that may be a user. -/
  atLast (user rest : List Char) : List Char × List Char × List Char :=
    match user.reverse.dropWhile (· != '@') with
    | '@' :: before => (before.reverse, [], (user.reverse.takeWhile (· != '@')).reverse ++ rest)
    | _ => ([], [], user ++ rest)

/-- A host, in brackets or not, and what follows it. -/
def splitHost (cs : List Char) : List Char × List Char :=
  match cs with
  | '[' :: r =>
    let inside := r.takeWhile fun c => c != '/' && c != '?'
    match inside.reverse.dropWhile (· != ']') with
    | ']' :: c :: host => ((c :: host).reverse, cs.drop (host.length + 3))
    | _ => plain cs
  | _ => plain cs
where
  /-- A host without brackets. -/
  plain (cs : List Char) : List Char × List Char :=
    (cs.takeWhile fun c => c != '/' && c != ':' && c != '?',
      cs.dropWhile fun c => c != '/' && c != ':' && c != '?')

/-- What follows `mark`, if it stands here, up to the first character that `ends`; and the rest. -/
def splitPart (mark : Char) (ends : Char → Bool) (cs : List Char) :
    Option (List Char) × List Char :=
  match cs with
  | c :: r => if c = mark then (some (r.takeWhile (!ends ·)), r.dropWhile (!ends ·)) else (none, cs)
  | [] => (none, [])

/-- The parts of a text between the characters `sep`. -/
def splitAt (sep : Char) : List Char → List (List Char)
  | [] => [[]]
  | c :: r =>
    match splitAt sep r with
    | [] => [[]]
    | part :: parts => if c = sep then [] :: part :: parts else (c :: part) :: parts

/-- The text that an option stands for: plus signs are blanks, and escapes bytes of UTF-8. -/
def unescaped (cs : List Char) : List Char :=
  let spaced := cs.map fun c => if c = '+' then ' ' else c
  (Utf8.decode (Utf8.mend (Url.unescape spaced))).getD []

/-- Adds a value to those of an option. -/
def addOption (options : List (List Char × List (List Char))) (name value : List Char) :
    List (List Char × List (List Char)) :=
  if options.any fun o => o.1 = name then
    options.map fun o => if o.1 = name then (o.1, o.2 ++ [value]) else o
  else options ++ [(name, [value])]

/-- The options of a text; those without a value do not count. -/
def optionsOf (cs : List Char) : List (List Char × List (List Char)) :=
  (splitAt '&' cs).foldl (fun options part =>
    match part.dropWhile (· != '=') with
    | _ :: c :: value =>
      addOption options (unescaped (part.takeWhile (· != '='))) (unescaped (c :: value))
    | _ => options) []

/-- The parts of an address; what follows them does not count. -/
def parse? (cs : List Char) : Option DatabaseUrl :=
  let name := cs.takeWhile isNameChar
  match name, cs.dropWhile isNameChar with
  | _ :: _, ':' :: '/' :: '/' :: r =>
    let (user, password, r) := splitUser r
    let (host, r) := splitHost r
    let (port, r) := splitPart ':' (fun c => c == '/' || c == '?') r
    let (file, r) := splitPart '/' (· == '?') r
    let (query, _) := splitPart '?' (· == '\n') r
    match splitAt '+' name with
    | dialect :: drivers =>
      some ⟨dialect, drivers, user, password, host, port, file, optionsOf (query.getD [])⟩
    | [] => none
  | _, _ => none

/-! ### Drivers -/

/-- The dialect of files. -/
def fileDialect : String := "sqlite"

/-- The driver that is there and does not block. -/
def usableDriver : String := "aiosqlite"

/-- The drivers of the dialect of files that are there but block; the first is the usual one. -/
def blockingDrivers : List String := ["base", "pysqlite"]

/-- The drivers of each dialect that are known but not there. -/
def missingDrivers : List (String × List String) :=
  [(fileDialect, ["pysqlcipher"]),
    ("postgresql", ["base", "asyncpg", "pg8000", "psycopg", "psycopg2", "psycopg2cffi"]),
    ("mysql", ["base", "aiomysql", "asyncmy", "cymysql", "mariadbconnector", "mysqlconnector",
      "mysqldb", "pymysql", "pyodbc"]),
    ("mariadb", ["base", "aiomysql", "asyncmy", "cymysql", "mariadbconnector", "mysqlconnector",
      "mysqldb", "pymysql", "pyodbc"]),
    ("oracle", ["base", "cx_oracle", "oracledb"]),
    ("mssql", ["base", "aioodbc", "pymssql", "pyodbc"])]

/-- Whether the driver that an address names blocks. -/
def driverBlocks (u : DatabaseUrl) : Except DatabaseUrlError Bool :=
  match u.drivers with
  | _ :: _ :: _ => .error .severalDrivers
  | drivers =>
    let driver := String.ofList (drivers.head?.getD "base".toList)
    let dialect := String.ofList u.dialect
    if dialect = fileDialect ∧ driver = usableDriver then .ok false
    else if dialect = fileDialect ∧ blockingDrivers.contains driver then .ok true
    else if missingDrivers.any fun d => d.1 = dialect ∧ d.2.contains driver then
      .error .missingDriver
    else .error .unknownDriver

/-! ### Options -/

/-- The kinds of options. -/
inductive OptionKind where
  | truth
  | real
  | whole
  | text
  deriving DecidableEq

/-- The options that the driver takes, in the order in which they are read. -/
def driverOptions : List (String × OptionKind) :=
  [("uri", .truth), ("timeout", .real), ("isolation_level", .text), ("detect_types", .whole),
    ("check_same_thread", .truth), ("cached_statements", .whole)]

/-- The truth value of a word. -/
def truth? (cs : List Char) : Option Bool :=
  let word := String.ofList (Text.lower (Text.trim cs))
  if ["true", "yes", "on", "y", "t", "1"].contains word then some true
  else if ["false", "no", "off", "n", "f", "0"].contains word then some false
  else none

/-- The values of an option. -/
def values (u : DatabaseUrl) (name : String) : List (List Char) :=
  ((u.options.find? fun o => o.1 = name.toList).map (·.2)).getD []

/-- Whether the values of an option are of its kind. -/
def checkOption (kind : OptionKind) (values : List (List Char)) : Except DatabaseUrlError Unit :=
  match kind, values with
  | _, [] | .text, _ | .truth, _ :: _ :: _ => .ok ()
  | .truth, [v] => if (truth? v).isSome then .ok () else .error .badOption
  | .real, [v] => if Text.isReal v then .ok () else .error .badOption
  | .whole, [v] => if (Text.lenientInt? v).isSome then .ok () else .error .badOption
  | .real, _ | .whole, _ => .error .repeatedOption

/-- Whether the file is named by an address of its own, to which further options belong. -/
def namesFileByAddress (u : DatabaseUrl) : Bool :=
  match u.values "uri" with
  | [] => false
  | [v] => truth? v = some true
  | _ => true

/-- Checks the options of an address. -/
def checkOptions (u : DatabaseUrl) : Except DatabaseUrlError Unit := do
  driverOptions.forM fun o => checkOption o.2 (u.values o.1)
  let further := u.options.filter fun o => !driverOptions.any fun d => d.1.toList = o.1
  if u.namesFileByAddress && !further.isEmpty &&
      (u.file.isNone || further.any fun o => 1 < o.2.length) then .error .unusableOptions

/-! ### Use -/

/-- The number of a port, if one is given. -/
def portNumber (u : DatabaseUrl) : Except DatabaseUrlError (Option Int) :=
  match u.port with
  | none => .ok none
  | some text =>
    match Text.lenientInt? text with
    | some n => .ok (some n)
    | none => .error .badPort

/-- Whether an address can be used. -/
def check (address : String) : Except DatabaseUrlError Unit := do
  match parse? address.toList with
  | none => .error .malformed
  | some u =>
    let port ← u.portNumber
    if !(u.values "plugin").isEmpty then .error .unknownPlugin
    let blocks ← u.driverBlocks
    if !(u.user.isEmpty && u.password.isEmpty && u.host.isEmpty) || port.any (· != 0) then
      .error .notFile
    u.checkOptions
    if blocks then .error .blockingDriver

end DatabaseUrl

end QuoteService
