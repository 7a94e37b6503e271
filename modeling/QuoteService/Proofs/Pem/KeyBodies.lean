import QuoteService.Proofs.Pem.Written

/-!
# Certificates apart from the bodies of keys

The certificates of a bundle do not depend on what is in its key blocks, as long as that is strict
Base64. To see it, the scan is compared with one that drops the body of a key unread.

* `Rekeyed`: lines that differ in the bodies of complete key blocks only.
* `KeysSound`: all complete key blocks are strict Base64.
* `Scan.skim`: one line of a scan that drops the bodies of keys; `Scan.foldlM_skim_rekeyed`: it finds the
  same whatever these are.
* `Scan.foldlM_skim`: **where the keys are sound it finds what the scan finds**, by induction on the lines
  from the end.
* `Bundle.certificates_rekeyed`: so the certificates are the same.
-/

namespace QuoteService.Pem

/-- Lines of which one comes from the other when the bodies of complete key blocks are replaced by other
lines that neither open a block nor close it. -/
inductive Rekeyed : List (List Char) → List (List Char) → Prop
  | nil : Rekeyed [] []
  | keep (line : List Char) {lines lines' : List (List Char)} (h : Rekeyed lines lines') :
      Rekeyed (line :: lines) (line :: lines')
  | block {body body' lines lines' : List (List Char)}
      (hbody : ∀ line ∈ body, IsInner .privateKey line)
      (hbody' : ∀ line ∈ body', IsInner .privateKey line) (h : Rekeyed lines lines') :
      Rekeyed (blockLines .privateKey body ++ lines) (blockLines .privateKey body' ++ lines')

/-- All complete key blocks are strict Base64. -/
def KeysSound (lines : List (List Char)) : Prop :=
  ∀ i j, CompleteBlock lines .privateKey i j → ∃ der, bodyAt lines i j = .ok der

variable {lines lines' body : List (List Char)} {line : List Char} {s : Scan}

theorem Rekeyed.eq_nil_iff (h : Rekeyed lines lines') : lines = [] ↔ lines' = [] := by
  cases h with
  | nil => exact Iff.rfl
  | keep => exact ⟨nofun, nofun⟩
  | block => exact ⟨nofun, nofun⟩

theorem contentLines_eq_nil_iff {text : List Char} : contentLines text = [] ↔ text = [] := by
  rw [contentLines, List.map_eq_nil_iff, Text.splitLines_eq_nil_iff]

/-- A line that is no marker is part of whatever block is open. -/
theorem isInner_of_ofLine? {kind : BlockKind} (h : Marker.ofLine? line = none) : IsInner kind line :=
  ⟨fun ⟨_, heq⟩ => Marker.ne_of_ofLine? h _ heq, Marker.ne_of_ofLine? h _⟩

theorem Rekeyed.refl : ∀ lines : List (List Char), Rekeyed lines lines
  | [] => .nil
  | line :: lines => .keep line (Rekeyed.refl lines)

/-- A key that is written in front of blocks can be exchanged for any other. -/
theorem rekeyed_written (der der' : List UInt8) (blocks : List Block) :
    Rekeyed (contentLines (written ((.privateKey, der) :: blocks)))
      (contentLines (written ((.privateKey, der') :: blocks))) := by
  obtain ⟨lines, hlines, hplain, -⟩ := contentLines_written_cons .privateKey der blocks
  obtain ⟨lines', hlines', hplain', -⟩ := contentLines_written_cons .privateKey der' blocks
  rw [hlines, hlines']
  exact .block (fun line hline => isInner_of_ofLine? (hplain line hline))
    (fun line hline => isInner_of_ofLine? (hplain' line hline)) (.refl _)

/-- Written keys are sound. -/
theorem keysSound_written (blocks : List Block) : KeysSound (contentLines (written blocks)) :=
  (Bundle.picks_of_ofText (Bundle.ofText_written blocks)).sound .privateKey

/-- Key blocks are sound if they are with one more line. -/
theorem KeysSound.of_snoc (h : KeysSound (lines ++ [line])) : KeysSound lines := by
  intro i j hblock
  have hbody := h i j (completeBlock_snoc.2 (.inl hblock))
  rwa [bodyAt_append hblock.lt_length.le] at hbody

namespace Scan

/-- What a scan has found apart from keys. -/
def keyless (s : Scan) : Scan := ⟨⟨none, s.found.certificates⟩, s.block⟩

/-- The effect of one line on a scan that drops the body of a key unread. -/
def skim (s : Scan) (line : List Char) : Except Base64.DecodeError Scan :=
  match Marker.ofLine? line, s.block with
  | some (.closing .privateKey), some (.privateKey, _) => .ok ⟨s.found, none⟩
  | _, _ => s.step line

/-! ## Whatever the bodies are -/

theorem skim_opening (s : Scan) (kind : BlockKind) :
    s.skim (Marker.opening kind).text.toList = .ok ⟨s.found, some (kind, [])⟩ := by
  rw [skim, Marker.ofLine?_eq_some_iff.2 rfl]
  exact s.step_opening kind

theorem skim_closing {held : List (List Char)} (hblock : s.block = some (.privateKey, held)) :
    s.skim (Marker.closing .privateKey).text.toList = .ok ⟨s.found, none⟩ := by
  rw [skim, Marker.ofLine?_eq_some_iff.2 rfl, hblock]

/-- A line in a key block is collected, be it a closing marker of the other kind. -/
theorem skim_inner (hline : IsInner .privateKey line) {held : List (List Char)}
    (hblock : s.block = some (.privateKey, held)) : s.skim line = .ok (s.collect line) := by
  unfold skim step
  cases hmarker : Marker.ofLine? line with
  | none => rfl
  | some m =>
    have htext := Marker.ofLine?_eq_some_iff.1 hmarker
    rcases m with kind | (_ | _)
    · exact absurd ⟨kind, htext⟩ hline.1
    · exact absurd htext hline.2
    · simp only [hblock]
      rfl

/-- **A key block leaves nothing behind.** -/
theorem foldlM_skim_block (hbody : ∀ line ∈ body, IsInner .privateKey line) (s : Scan) :
    (blockLines .privateKey body).foldlM skim s = .ok ⟨s.found, none⟩ := by
  rw [blockLines, List.foldlM_cons, skim_opening]
  show (body ++ [_]).foldlM skim ⟨s.found, some (.privateKey, [])⟩ = _
  rw [List.foldlM_append,
    foldlM_collect (fun line hline _ _ hblock => skim_inner (hbody line hline) hblock) rfl]
  show [(Marker.closing .privateKey).text.toList].foldlM skim
    ⟨s.found, some (.privateKey, [] ++ body)⟩ = _
  rw [List.foldlM_cons, skim_closing rfl]
  rfl

/-- **The bodies of keys do not matter to a scan that drops them.** -/
theorem foldlM_skim_rekeyed (h : Rekeyed lines lines') (s : Scan) :
    lines.foldlM skim s = lines'.foldlM skim s := by
  induction h generalizing s with
  | nil => rfl
  | keep line _ ih =>
    rw [List.foldlM_cons, List.foldlM_cons]
    exact congrArg (s.skim line >>= ·) (funext ih)
  | block hbody hbody' _ ih =>
    rw [List.foldlM_append, List.foldlM_append, foldlM_skim_block hbody, foldlM_skim_block hbody']
    exact ih ⟨s.found, none⟩

/-! ## Sound bodies -/

/-- On a line that ends no key with a fault the two scans go on alike. -/
theorem skim_keyless (hsound : ∀ held, s.block = some (.privateKey, held) →
    line = (Marker.closing .privateKey).text.toList → ∃ der, Base64.decode held.flatten = .ok der) :
    s.keyless.skim line = (s.step line).map keyless := by
  obtain ⟨found, block⟩ := s
  unfold skim step
  cases hmarker : Marker.ofLine? line with
  | none => rfl
  | some m =>
    rcases m with kind | (_ | _)
    · rfl
    · -- a key is closed, or a certificate goes on
      rcases block with _ | ⟨_ | _, held⟩
      · rfl
      · obtain ⟨der, hder⟩ := hsound held rfl (Marker.ofLine?_eq_some_iff.1 hmarker)
        simp only [if_true, hder]
        rfl
      · rfl
    · rcases block with _ | ⟨_ | _, held⟩
      · rfl
      · rfl
      · show (Base64.decode held.flatten).map _ = ((Base64.decode held.flatten).map _).map keyless
        cases Base64.decode held.flatten <;> rfl

/-- **Where the keys are sound, a scan that drops them finds the same certificates**, or the same
fault. -/
theorem foldlM_skim (hsound : KeysSound lines) :
    lines.foldlM skim start = (lines.foldlM step start).map keyless := by
  induction lines using List.reverseRecOn with
  | nil => rfl
  | append_singleton lines line ih =>
    have hbefore := ih hsound.of_snoc
    rw [List.foldlM_append, List.foldlM_append, hbefore]
    cases hscan : lines.foldlM step start with
    | error fault => rfl
    | ok s =>
      have hone : ∀ f : Scan → List Char → Except Base64.DecodeError Scan, ∀ s,
          [line].foldlM f s = f s line := fun f s => bind_pure (f s line)
      show [line].foldlM skim s.keyless = ([line].foldlM step s).map keyless
      rw [hone, hone]
      refine skim_keyless fun held hblock hline => ?_
      -- the line completes the key block that is open
      obtain ⟨i, hopen, rfl⟩ := (((scan_lines lines).1 s hscan).block _ _).1 hblock
      obtain ⟨der, hder⟩ := hsound i lines.length (completeBlock_snoc.2 (.inr ⟨rfl, hopen, hline⟩))
      rw [bodyAt_append le_rfl, bodyAt, between_length] at hder
      exact ⟨der, hder⟩

end Scan

/-! ## Bundles -/

namespace Bundle

variable {text text' : List Char}

/-- The certificates of a bundle are what a scan finds that drops the keys. -/
theorem certificates_ofText (hsound : KeysSound (contentLines text)) :
    (ofText text).map certificates =
      ((contentLines text).foldlM Scan.skim Scan.start).map fun s => s.found.certificates := by
  rw [ofText, Scan.foldlM_skim hsound]
  cases (contentLines text).foldlM Scan.step Scan.start <;> rfl

/-- **The certificates do not depend on the bodies of the keys**, where these are sound. -/
theorem certificates_rekeyed (hlines : Rekeyed (contentLines text) (contentLines text'))
    (hsound : KeysSound (contentLines text)) (hsound' : KeysSound (contentLines text')) :
    (ofText text).map certificates = (ofText text').map certificates := by
  rw [certificates_ofText hsound, certificates_ofText hsound', Scan.foldlM_skim_rekeyed hlines]

/-- A key that is not sound spoils the bundle. -/
theorem ofText_eq_error_of_not_keysSound (h : ¬KeysSound (contentLines text)) :
    ∃ e, ofText text = .error e := by
  cases htext : ofText text with
  | error e => exact ⟨e, rfl⟩
  | ok b => exact absurd ((ofText_eq_ok_iff.1 htext).sound .privateKey) h

/-- **Without an opening marker of a certificate there are no certificates**, if the keys are sound. -/
theorem ofText_of_no_certificate (hsound : KeysSound (contentLines text))
    (hnone : (Marker.opening .certificate).text.toList ∉ contentLines text) :
    ∃ b, ofText text = .ok b ∧ b.certificates = [] := by
  have hkind : ∀ i j, ¬CompleteBlock (contentLines text) .certificate i j := fun i j hblock =>
    hnone (List.mem_of_getElem? hblock.opening)
  cases htext : ofText text with
  | error e =>
    obtain ⟨kind, i, j, hblock, hbody, -⟩ := ofText_eq_error_iff.1 htext
    cases kind with
    | privateKey =>
      obtain ⟨der, hder⟩ := hsound i j hblock
      cases hbody.symm.trans hder
    | certificate => exact absurd hblock (hkind i j)
  | ok b =>
    obtain ⟨places, hplaces, -, hbodies⟩ := (ofText_eq_ok_iff.1 htext).certificates
    have hempty : places = [] := List.eq_nil_iff_forall_not_mem.2 fun p hp =>
      hkind p.1 p.2 ((hplaces p.1 p.2).1 hp)
    rw [hempty, List.map_nil, eq_comm, List.map_eq_nil_iff] at hbodies
    exact ⟨b, rfl, hbodies⟩

end Bundle

end QuoteService.Pem
