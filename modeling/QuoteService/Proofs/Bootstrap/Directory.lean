import QuoteService.Bootstrap.Directory
import QuoteService.Proofs.Tls.Reload

/-!
# Key and chain in a directory

The key file is made for its owner alone, but only if it has to be made: a file that is there is
overwritten and keeps the bits that it had.

* `Directory.bitsAfter`, `Directory.written`: the bits of a file after it is written, and the directory.
* `Directory.write_eq_ok_iff`: **a file is written unless its owner may not**, and then no other changes.
* `writeFiles_eq_ok_iff`, `writeFiles_empty`: key and chain, in any directory and in an empty one.
* `writeIdentity_files`: **what is in a directory after an identity is written to it**, whatever was there
  before. Whether the key is for its owner alone depends on the file that was there
  (`writeIdentity_readable`).
-/

namespace QuoteService

variable {d d' : Directory} {name other : String} {mode : Nat} {text pem : List Char} {i : Tls.Identity}

namespace Directory

theorem file?_put (file : File) (other : String) : ∀ files : List (String × File),
    file? ⟨put name file files⟩ other = if name = other then some file else file? ⟨files⟩ other := by
  intro files
  induction files with
  | nil =>
    by_cases h : name = other <;> simp [put, file?, h]
  | cons f files ih =>
    by_cases hf : f.1 = name
    · rw [put, if_pos hf]
      by_cases h : name = other
      · simp [file?, h]
      · simp [file?, h, hf]
    · rw [put, if_neg hf]
      by_cases hother : f.1 = other
      · have h : name ≠ other := fun h => hf (hother.trans h.symm)
        simp [file?, hother, h]
      · simpa [file?, hother] using ih

/-- The bits of a file after it is written: those that it is made with, or those that it keeps. -/
def bitsAfter (d : Directory) (name : String) (mode : Nat) : Nat :=
  match d.file? name with
  | none => masked mode
  | some old => keptBits old.mode

/-- The directory after a file is written. -/
def written (d : Directory) (name : String) (mode : Nat) (text : List Char) : Directory :=
  ⟨put name ⟨d.bitsAfter name mode, text⟩ d.files⟩

/-- No file of that name denies its owner to write it. -/
def Admits (d : Directory) (name : String) : Prop :=
  ∀ old, d.file? name = some old → ownerWrites old.mode = true

theorem admits_of_absent (h : d.file? name = none) : d.Admits name := fun old hold => by
  cases h.symm.trans hold

theorem admits_of_file {file : File} (h : d.file? name = some file)
    (hwrites : ownerWrites file.mode = true) : d.Admits name := fun old hold => by
  cases h.symm.trans hold
  exact hwrites

@[simp] theorem file?_written_self : (d.written name mode text).file? name =
    some ⟨d.bitsAfter name mode, text⟩ := by
  rw [written, file?_put, if_pos rfl]

theorem file?_written_of_ne (h : other ≠ name) :
    (d.written name mode text).file? other = d.file? other := by
  rw [written, file?_put, if_neg h.symm]

/-- Another file is written as it would have been before. -/
theorem admits_written_iff (h : other ≠ name) : (d.written name mode text).Admits other ↔ d.Admits other := by
  rw [Admits, Admits, file?_written_of_ne h]

/-- **A file is written unless its owner may not write it.** -/
theorem write_eq_ok_iff : d.write name mode text = .ok d' ↔
    d.Admits name ∧ d' = d.written name mode text := by
  unfold write Admits written bitsAfter
  cases hfile : d.file? name with
  | none => exact ⟨fun h => ⟨nofun, (Except.ok.inj h).symm⟩, fun h => congrArg Except.ok h.2.symm⟩
  | some old =>
    simp only [Option.some.injEq, forall_eq']
    cases hwrites : ownerWrites old.mode with
    | true => exact ⟨fun h => ⟨rfl, (Except.ok.inj h).symm⟩, fun h => congrArg Except.ok h.2.symm⟩
    | false => exact ⟨nofun, nofun⟩

end Directory

/-! ## Two files -/

/-- Work of two parts is done when both parts are. -/
theorem run_bind_eq_ok_iff {α β : Type} {x : DirectoryWork α} {f : α → DirectoryWork β} {b : β} :
    (x >>= f).run.run d = (.ok b, d') ↔
      ∃ a d₁, x.run.run d = (.ok a, d₁) ∧ (f a).run.run d₁ = (.ok b, d') := by
  rw [ExceptT.run_bind, StateT.run_bind]
  show (match x.run.run d with | (r, d₁) => _) = _ ↔ _
  obtain ⟨r, d₁⟩ := x.run.run d
  cases r with
  | error fault => exact ⟨nofun, nofun⟩
  | ok a =>
    refine ⟨fun h => ⟨a, d₁, rfl, h⟩, ?_⟩
    rintro ⟨a', d₁', heq, h⟩
    cases heq
    exact h

theorem run_writeFile_eq_ok_iff : (writeFile name mode text).run.run d = (.ok (), d') ↔
    d.Admits name ∧ d' = d.written name mode text := by
  have hget : (get : DirectoryWork Directory).run.run d = (.ok d, d) := rfl
  rw [writeFile, run_bind_eq_ok_iff, ← Directory.write_eq_ok_iff]
  constructor
  · rintro ⟨d₀, d₁, heq, h⟩
    cases hget.symm.trans heq
    cases hwrite : d.write name mode text with
    | error fault => rw [hwrite] at h; cases h
    | ok d₂ =>
      rw [hwrite] at h
      cases h
      rfl
  · intro h
    refine ⟨d, d, hget, ?_⟩
    rw [h]
    rfl

/-- The directory after key and chain are written. -/
def Directory.withIdentity (d : Directory) (pem chain : List Char) : Directory :=
  (d.written keyFileName keyFileMode pem).written chainFileName plainFileMode chain

/-- **Key and chain are written unless one of the two files may not be.** -/
theorem run_writeFiles_eq_ok_iff (h : i.keyPem = .ok pem) :
    (writeFiles i).run.run d = (.ok (), d') ↔
      d.Admits keyFileName ∧ d.Admits chainFileName ∧ d' = d.withIdentity pem i.chainPem := by
  have hnames : chainFileName ≠ keyFileName := by decide
  have hwork : writeFiles i = (do
      writeFile keyFileName keyFileMode pem
      writeFile chainFileName plainFileMode i.chainPem) := by
    rw [writeFiles, h]
  rw [hwork, run_bind_eq_ok_iff]
  constructor
  · rintro ⟨_, d₁, hkey, hchain⟩
    obtain ⟨hadmits, rfl⟩ := run_writeFile_eq_ok_iff.1 hkey
    obtain ⟨hadmits', hd'⟩ := run_writeFile_eq_ok_iff.1 hchain
    exact ⟨hadmits, (Directory.admits_written_iff hnames).1 hadmits', hd'⟩
  · rintro ⟨hadmits, hadmits', hd'⟩
    exact ⟨(), _, run_writeFile_eq_ok_iff.2 ⟨hadmits, rfl⟩,
      run_writeFile_eq_ok_iff.2 ⟨(Directory.admits_written_iff hnames).2 hadmits', hd'⟩⟩

namespace Directory

variable {chain : List Char}

theorem file?_withIdentity_key :
    (d.withIdentity pem chain).file? keyFileName = some ⟨d.bitsAfter keyFileName keyFileMode, pem⟩ := by
  rw [withIdentity, file?_written_of_ne (by decide), file?_written_self]

theorem file?_withIdentity_chain :
    ∃ mode, (d.withIdentity pem chain).file? chainFileName = some ⟨mode, chain⟩ :=
  ⟨_, file?_written_self⟩

theorem file?_withIdentity_of_ne (hkey : name ≠ keyFileName) (hchain : name ≠ chainFileName) :
    (d.withIdentity pem chain).file? name = d.file? name := by
  rw [withIdentity, file?_written_of_ne hchain, file?_written_of_ne hkey]

/-- The key is for its owner alone just if no file was there for others. -/
theorem bitsAfter_key_iff : d.bitsAfter keyFileName keyFileMode = 0o600 ↔
    ∀ old, d.file? keyFileName = some old → keptBits old.mode = 0o600 := by
  unfold bitsAfter
  cases d.file? keyFileName with
  | none => exact ⟨nofun, fun _ => by decide⟩
  | some old => simp

end Directory

/-- **Key and chain, written where no files are**: the key for its owner alone. -/
theorem writeFiles_empty (h : i.keyPem = .ok pem) : ∃ d,
    (writeFiles i).run.run .empty = (.ok (), d) ∧ d.file? keyFileName = some ⟨0o600, pem⟩ ∧
      ∃ mode, d.file? chainFileName = some ⟨mode, i.chainPem⟩ := by
  have hbits : Directory.empty.bitsAfter keyFileName keyFileMode = 0o600 := rfl
  refine ⟨_, (run_writeFiles_eq_ok_iff h).2 ⟨Directory.admits_of_absent rfl,
    Directory.admits_of_absent rfl, rfl⟩, ?_, Directory.file?_withIdentity_chain⟩
  rw [Directory.file?_withIdentity_key, hbits]

theorem writeIdentity_eq_ok_iff (h : i.keyPem = .ok pem) : writeIdentity i d = .ok d' ↔
    d.Admits keyFileName ∧ d.Admits chainFileName ∧ d' = d.withIdentity pem i.chainPem := by
  rw [← run_writeFiles_eq_ok_iff h, writeIdentity]
  rcases (writeFiles i).run.run d with ⟨_ | _, d₁⟩
  · exact ⟨nofun, nofun⟩
  · exact ⟨fun heq => by rw [Except.ok.inj heq], fun heq => by rw [(Prod.mk.inj heq).2]⟩

/-- **What an identity leaves in a directory**, whatever files were in it. It is written unless one of
the two files is there and its owner may not write it. Then the file of the key holds the key, the file
of the chain holds the chain, and every other file is as it was. The key is for its owner alone just if
there was no file of that name or one that keeps just these bits. -/
theorem writeIdentity_files (i : Tls.Identity) (d : Directory) {pem : List Char}
    (h : i.keyPem = .ok pem) :
    ((∃ d', writeIdentity i d = .ok d') ↔ d.Admits keyFileName ∧ d.Admits chainFileName) ∧
      ∀ d', writeIdentity i d = .ok d' →
        (∃ mode, d'.file? keyFileName = some ⟨mode, pem⟩) ∧
        (d'.file? keyFileName = some ⟨0o600, pem⟩ ↔
          ∀ old, d.file? keyFileName = some old → Directory.keptBits old.mode = 0o600) ∧
        (∃ mode, d'.file? chainFileName = some ⟨mode, i.chainPem⟩) ∧
        ∀ name, name ≠ keyFileName → name ≠ chainFileName → d'.file? name = d.file? name := by
  constructor
  · constructor
    · rintro ⟨d', hd'⟩
      obtain ⟨hkey, hchain, -⟩ := (writeIdentity_eq_ok_iff h).1 hd'
      exact ⟨hkey, hchain⟩
    · rintro ⟨hkey, hchain⟩
      exact ⟨_, (writeIdentity_eq_ok_iff h).2 ⟨hkey, hchain, rfl⟩⟩
  · intro d' hd'
    obtain ⟨-, -, rfl⟩ := (writeIdentity_eq_ok_iff h).1 hd'
    refine ⟨⟨_, Directory.file?_withIdentity_key⟩, ?_, Directory.file?_withIdentity_chain,
      fun name hkey hchain => Directory.file?_withIdentity_of_ne hkey hchain⟩
    rw [← Directory.bitsAfter_key_iff, Directory.file?_withIdentity_key]
    simp

/-- An old key is overwritten and stays for its owner alone, and a file of another name is kept. -/
theorem writeIdentity_files_overwritten :
    let i : Tls.Identity := ⟨some Tls.plainKey, []⟩
    let d : Directory := ⟨[(keyFileName, ⟨0o600, "old key".toList⟩), ("other", ⟨0o640, "keep".toList⟩)]⟩
    i.keyPem = .ok Tls.plainKey.toPem ∧ ∃ d', writeIdentity i d = .ok d' ∧
      d'.file? keyFileName = some ⟨0o600, Tls.plainKey.toPem⟩ ∧
      d'.file? "other" = some ⟨0o640, "keep".toList⟩ := by
  intro i d
  have hold : d.file? keyFileName = some ⟨0o600, "old key".toList⟩ := rfl
  have hchain : d.file? chainFileName = none := by decide
  obtain ⟨hreturns, hfiles⟩ := writeIdentity_files i d rfl
  obtain ⟨d', hd'⟩ := hreturns.2 ⟨Directory.admits_of_file hold (by decide),
    Directory.admits_of_absent hchain⟩
  obtain ⟨-, hkey, -, hothers⟩ := hfiles d' hd'
  exact ⟨rfl, d', hd', hkey.2 fun old h => by cases hold.symm.trans h; decide,
    hothers "other" (by decide) (by decide)⟩

/-- **A key file that others may read stays so**, with the new key in it. -/
theorem writeIdentity_readable :
    let i : Tls.Identity := ⟨some Tls.plainKey, []⟩
    let d : Directory := ⟨[(keyFileName, ⟨0o644, "old".toList⟩)]⟩
    ∃ d', writeIdentity i d = .ok d' ∧
      d'.file? keyFileName = some ⟨0o644, Tls.plainKey.toPem⟩ := by
  intro i d
  have hold : d.file? keyFileName = some ⟨0o644, "old".toList⟩ := rfl
  have hchain : d.file? chainFileName = none := by decide
  refine ⟨_, (writeIdentity_eq_ok_iff rfl).2 ⟨Directory.admits_of_file hold (by decide),
    Directory.admits_of_absent hchain, rfl⟩, ?_⟩
  rw [Directory.file?_withIdentity_key, Directory.bitsAfter, hold]
  rfl

end QuoteService
