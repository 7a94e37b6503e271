import QuoteService.Tls.Identity

/-!
# Directories

A directory is files by name, each with its permission bits and its text.

* `Directory.write`: sets the text of a file; a file that is there keeps its bits.
* `Directory.read`: the files as they are read.
* `writeFiles`, `writeIdentity`: key and chain as two files.
-/

namespace QuoteService

/-- A file by its permission bits and its text. -/
structure File where
  mode : Nat
  text : List Char
  deriving DecidableEq

/-- The text of a file as it is read: a carriage return ends a line, alone or with the line feed behind
it, and every end of a line is a line feed. -/
def File.readText (f : File) : List Char := go f.text
where
  /-- The text with its line ends read. -/
  go : List Char → List Char
    | [] => []
    | '\r' :: '\n' :: r => '\n' :: go r
    | '\r' :: r => '\n' :: go r
    | c :: r => c :: go r

/-- The files of a directory by name. -/
structure Directory where
  files : List (String × File)
  deriving DecidableEq

/-- The file may not be written or read. -/
structure PermissionDenied where
  name : String
  deriving DecidableEq

namespace Directory

/-- A directory without files. -/
def empty : Directory := ⟨[]⟩

/-- The file of a name. -/
def file? (d : Directory) (name : String) : Option File :=
  (d.files.find? fun f => f.1 = name).map (·.2)

/-- Sets a file in its place, or at the end. -/
def put (name : String) (file : File) : List (String × File) → List (String × File)
  | [] => [(name, file)]
  | f :: fs => if f.1 = name then (name, file) :: fs else f :: put name file fs

/-- The permission bit of the owner to read. -/
def ownerReads (mode : Nat) : Bool := mode.testBit 8

/-- The permission bit of the owner to write. -/
def ownerWrites (mode : Nat) : Bool := mode.testBit 7

/-- The bits that a file keeps when it is written: not those that let others run it as its owner or,
where its group may run it, as that group. -/
def keptBits (mode : Nat) : Nat :=
  mode - (mode &&& 0o4000) - (if mode.testBit 3 then mode &&& 0o2000 else 0)

/-- The permission bits that new files never get. -/
def mask : Nat := 0o022

/-- Bits of `mode` that the mask leaves. -/
def masked (mode : Nat) : Nat := mode &&& (0o777 ^^^ mask)

/-- Writes the whole text of a file. One that is not there is made with the bits `mode` as far as the
mask leaves them; one that is there keeps its bits, and its owner has to be allowed to write. -/
def write (d : Directory) (name : String) (mode : Nat) (text : List Char) :
    Except PermissionDenied Directory :=
  match d.file? name with
  | none => .ok ⟨put name ⟨masked mode, text⟩ d.files⟩
  | some old =>
    if ownerWrites old.mode then .ok ⟨put name ⟨keptBits old.mode, text⟩ d.files⟩
    else .error ⟨name⟩

/-- The files as their owner reads them. -/
def read (d : Directory) : Except PermissionDenied (List (String × File)) :=
  d.files.mapM fun (name, file) =>
    if ownerReads file.mode then .ok (name, { file with text := file.readText })
    else .error ⟨name⟩

end Directory

/-- The name of the key file. -/
def keyFileName : String := "tls.key"

/-- The name of the file of the chain. -/
def chainFileName : String := "tls.crt"

/-- The bits that a new key file is made with. -/
def keyFileMode : Nat := 0o600

/-- The bits that other new files are made with. -/
def plainFileMode : Nat := 0o666

/-- Why an identity is not written. -/
inductive WriteError where
  | denied (fault : PermissionDenied)
  | identity (fault : Tls.IdentityError)
  deriving DecidableEq

/-- Work on a directory that may fail, and then leaves what it has done by then. -/
abbrev DirectoryWork (α : Type) := ExceptT WriteError (StateM Directory) α

/-- Writes the text of a file, as `Directory.write` does. -/
def writeFile (name : String) (mode : Nat) (text : List Char) : DirectoryWork Unit := do
  match (← get).write name mode text with
  | .ok d => set d
  | .error fault => throw (.denied fault)

/-- Writes key and chain as two files: the key first. -/
def writeFiles (i : Tls.Identity) : DirectoryWork Unit := do
  match i.keyPem with
  | .ok key =>
    writeFile keyFileName keyFileMode key
    writeFile chainFileName plainFileMode i.chainPem
  | .error fault => throw (.identity fault)

/-- Key and chain written into a directory, if they can be. -/
def writeIdentity (i : Tls.Identity) (d : Directory) : Except WriteError Directory :=
  match (writeFiles i).run.run d with
  | (.ok (), d) => .ok d
  | (.error fault, _) => .error fault

end QuoteService
