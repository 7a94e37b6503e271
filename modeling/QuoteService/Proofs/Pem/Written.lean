import QuoteService.Proofs.Base64.Strict
import QuoteService.Proofs.Pem.Blocks
import QuoteService.Proofs.Text.Lines

/-!
# Written blocks are found again

* `blockLines`: the lines of one block.
* `Scan.foldlM_block`: a block is picked out of its lines, whatever was found before it.
* `encodeBlock_eq_joined`: a written block is lines, each with a line feed.
* `Bundle.ofText_written`: **the bundle of written blocks is what they hold**, each block added in
  its turn.
* `foldl_add`: blocks that are added leave the last key and all certificates.
* `Bundle.ofText_key`, `Bundle.ofText_chain`: so one key is found again, and any number of
  certificates.
-/

namespace QuoteService.Pem

variable {kind : BlockKind} {body : List UInt8} {lines : List (List Char)} {s : Scan}

/-! ## Lines of a block -/

theorem Scan.step_opening (s : Scan) (kind : BlockKind) :
    s.step (Marker.opening kind).text.toList = .ok { s with block := some (kind, []) } := by
  rw [Scan.step, Marker.ofLine?_eq_some_iff.2 rfl]

/-- A line that is no marker belongs to the open block. -/
theorem Scan.step_plain {line : List Char} (h : Marker.ofLine? line = none) :
    s.step line = .ok (s.collect line) := by
  rw [Scan.step, h]

theorem Scan.step_closing {held : List (List Char)} (hblock : s.block = some (kind, held))
    (hbody : Base64.decode held.flatten = .ok body) :
    s.step (Marker.closing kind).text.toList = .ok ⟨s.found.add kind body, none⟩ := by
  rw [Scan.step, Marker.ofLine?_eq_some_iff.2 rfl]
  simp only [hblock, if_true, hbody]
  rfl

/-- Lines that are collected one by one line up in the open block. -/
theorem Scan.foldlM_collect {f : Scan → List Char → Except Base64.DecodeError Scan}
    (hlines : ∀ line ∈ lines, ∀ (s : Scan) (held : List (List Char)),
      s.block = some (kind, held) → f s line = .ok (s.collect line))
    {held : List (List Char)} (hblock : s.block = some (kind, held)) :
    lines.foldlM f s = .ok ⟨s.found, some (kind, held ++ lines)⟩ := by
  induction lines generalizing s held with
  | nil =>
    rw [List.append_nil, ← hblock]
    rfl
  | cons line lines ih =>
    have hcollect : (s.collect line).block = some (kind, held ++ [line]) := by
      rw [Scan.collect, hblock]
      rfl
    have hrest := ih (fun l hl => hlines l (List.mem_cons_of_mem line hl)) hcollect
    rw [List.foldlM_cons, hlines line List.mem_cons_self s held hblock]
    show lines.foldlM f (s.collect line) = _
    rw [hrest, List.append_assoc]
    rfl

/-- Lines that are no markers line up in the open block. -/
theorem Scan.foldlM_plain (hlines : ∀ line ∈ lines, Marker.ofLine? line = none)
    {held : List (List Char)} (hblock : s.block = some (kind, held)) :
    lines.foldlM Scan.step s = .ok ⟨s.found, some (kind, held ++ lines)⟩ :=
  Scan.foldlM_collect (fun line hline _ _ _ => Scan.step_plain (hlines line hline)) hblock

/-- The lines of a block: its markers around other lines. -/
def blockLines (kind : BlockKind) (lines : List (List Char)) : List (List Char) :=
  (Marker.opening kind).text.toList :: (lines ++ [(Marker.closing kind).text.toList])

/-- **A block is picked out of its lines**, whatever was found or open before it. -/
theorem Scan.foldlM_block (hlines : ∀ line ∈ lines, Marker.ofLine? line = none)
    (hbody : Base64.decode lines.flatten = .ok body) (s : Scan) :
    (blockLines kind lines).foldlM Scan.step s = .ok ⟨s.found.add kind body, none⟩ := by
  rw [blockLines, List.foldlM_cons, Scan.step_opening]
  show (lines ++ [_]).foldlM Scan.step ⟨s.found, some (kind, [])⟩ = _
  rw [List.foldlM_append, Scan.foldlM_plain hlines rfl]
  show [(Marker.closing kind).text.toList].foldlM Scan.step ⟨s.found, some (kind, [] ++ lines)⟩ = _
  rw [List.foldlM_cons, Scan.step_closing rfl hbody]
  rfl

/-! ## Digits in lines -/

/-- A line of digits and padding is no marker, since every marker has hyphens. -/
theorem ofLine?_of_isSign {line : List Char} (h : ∀ c ∈ line, Base64.IsSign c) :
    Marker.ofLine? line = none := by
  cases hmarker : Marker.ofLine? line with
  | none => rfl
  | some m =>
    have hhyphen : '-' ∈ m.text.toList := by
      rcases m with ⟨_ | _⟩ | ⟨_ | _⟩ <;> decide
    rw [← Marker.ofLine?_eq_some_iff.1 hmarker] at hhyphen
    have hsign := h '-' hhyphen
    exact absurd hsign (by unfold Base64.IsSign; decide)

/-- Characters in lines of `n` are lines with a line feed after each, and nothing is lost. -/
theorem wrapLines_eq_joined {n : ℕ} (hn : 0 < n) :
    ∀ (fuel : ℕ) (cs : List Char), cs.length ≤ fuel → ∃ lines : List (List Char),
      wrapLines n fuel cs = Text.joined lines ∧ lines.flatten = cs := by
  intro fuel
  induction fuel with
  | zero =>
    intro cs hcs
    obtain rfl : cs = [] := List.eq_nil_of_length_eq_zero (by omega)
    exact ⟨[], rfl, rfl⟩
  | succ fuel ih =>
    intro cs hcs
    cases cs with
    | nil => exact ⟨[], rfl, rfl⟩
    | cons c cs =>
      have hrest : ((c :: cs).drop n).length ≤ fuel := by
        rw [List.length_drop]
        simp only [List.length_cons] at hcs ⊢
        omega
      obtain ⟨lines, hlines, hflat⟩ := ih _ hrest
      refine ⟨(c :: cs).take n :: lines, ?_, ?_⟩
      · rw [wrapLines, hlines, Text.joined, Text.joined, List.flatMap_cons, List.append_assoc]
        rfl
      · rw [List.flatten_cons, hflat, List.take_append_drop]

/-- **A written block is lines with a line feed after each**: its markers around lines of digits. -/
theorem encodeBlock_eq_joined (kind : BlockKind) (body : List UInt8) :
    ∃ lines : List (List Char), encodeBlock kind body = Text.joined (blockLines kind lines) ∧
      lines.flatten = Base64.Alphabet.standard.encodePadded body := by
  obtain ⟨lines, hlines, hflat⟩ := wrapLines_eq_joined (show 0 < 64 by decide) _
    (Base64.Alphabet.standard.encodePadded body) le_rfl
  refine ⟨lines, ?_, hflat⟩
  rw [encodeBlock, hlines, blockLines, Text.joined, Text.joined, List.flatMap_cons, List.flatMap_append,
    List.flatMap_singleton]
  simp only [List.append_assoc, List.cons_append, List.nil_append]

/-- The marker lines have no blanks around them and no line ends in them. -/
theorem marker_line (m : Marker) : Text.trim m.text.toList = m.text.toList ∧
    ∀ c ∈ m.text.toList, Text.isLineEnd c = false := by
  have hends : (m.text.toList.all fun c => !Text.isLineEnd c) = true := by
    rcases m with ⟨_ | _⟩ | ⟨_ | _⟩ <;> decide
  constructor
  · rcases m with ⟨_ | _⟩ | ⟨_ | _⟩ <;> decide
  · intro c hc
    have hend := List.all_eq_true.1 hends c hc
    rwa [Bool.not_eq_true'] at hend

/-- The lines of a block of digits are not changed by trimming and hold no line ends. -/
theorem blockLines_plain (kind : BlockKind) (h : ∀ line ∈ lines, ∀ c ∈ line, Base64.IsSign c) :
    (blockLines kind lines).map Text.trim = blockLines kind lines ∧
      ∀ line ∈ blockLines kind lines, ∀ c ∈ line, Text.isLineEnd c = false := by
  have hdigits : ∀ line ∈ lines, Text.trim line = line ∧ ∀ c ∈ line, Text.isLineEnd c = false := by
    intro line hline
    have hblank : ∀ c ∈ line, Text.isBlank c = false :=
      fun c hc => (h line hline c hc).isBlank_eq_false
    refine ⟨Text.trimBy_eq_self hblank, fun c hc => ?_⟩
    -- a line end would be a blank
    by_contra hend
    rw [Bool.not_eq_false] at hend
    have := hblank c hc
    rw [Text.isBlank_of_isLineEnd hend] at this
    cases this
  have hall : ∀ line ∈ blockLines kind lines,
      Text.trim line = line ∧ ∀ c ∈ line, Text.isLineEnd c = false := by
    intro line hline
    rw [blockLines, List.mem_cons, List.mem_append, List.mem_singleton] at hline
    rcases hline with rfl | hline | rfl
    · exact marker_line _
    · exact hdigits line hline
    · exact marker_line _
  refine ⟨?_, fun line hline => (hall line hline).2⟩
  conv_rhs => rw [← List.map_id (blockLines kind lines)]
  exact List.map_congr_left fun line hline => (hall line hline).1

/-! ## Bundles of written blocks -/

/-- A block by its kind and its body. -/
abbrev Block := BlockKind × List UInt8

/-- The text of blocks one after another. -/
def written (blocks : List Block) : List Char := blocks.flatMap fun b => encodeBlock b.1 b.2

/-- The lines of written blocks are the lines of the first one, in which digits spell its body, and then
the others. -/
theorem contentLines_written_cons (kind : BlockKind) (body : List UInt8) (blocks : List Block) :
    ∃ lines, contentLines (written ((kind, body) :: blocks)) =
        blockLines kind lines ++ contentLines (written blocks) ∧
      (∀ line ∈ lines, Marker.ofLine? line = none) ∧ Base64.decode lines.flatten = .ok body := by
  obtain ⟨lines, htext, hflat⟩ := encodeBlock_eq_joined kind body
  have hsign : ∀ line ∈ lines, ∀ c ∈ line, Base64.IsSign c := by
    intro line hline c hc
    have hdigit : c ∈ Base64.Alphabet.standard.encodePadded body := by
      rw [← hflat]
      exact List.mem_flatten.2 ⟨line, hline, hc⟩
    exact Base64.isSign_of_mem_encodePadded hdigit
  obtain ⟨htrim, hends⟩ := blockLines_plain kind hsign
  refine ⟨lines, ?_, fun line hline => ofLine?_of_isSign (hsign line hline), ?_⟩
  · rw [written, List.flatMap_cons, htext, contentLines, Text.splitLines_joined hends,
      List.map_append, htrim]
    rfl
  · rw [hflat, Base64.decode_encodePadded]

/-- The scan of a text of written blocks adds them in their turn. -/
theorem foldlM_written (blocks : List Block) (s : Scan) (hs : s.block = none) :
    (contentLines (written blocks)).foldlM Scan.step s =
      .ok ⟨blocks.foldl (fun b block => b.add block.1 block.2) s.found, none⟩ := by
  -- the induction is on the blocks; between two of them no block is open
  induction blocks generalizing s with
  | nil =>
    rw [List.foldl_nil, ← hs]
    rfl
  | cons block blocks ih =>
    obtain ⟨kind, body⟩ := block
    obtain ⟨lines, hlines, hplain, hbody⟩ := contentLines_written_cons kind body blocks
    rw [hlines, List.foldlM_append, Scan.foldlM_block hplain hbody]
    exact ih ⟨s.found.add kind body, none⟩ rfl

/-- **The bundle of written blocks is what they hold.** -/
theorem Bundle.ofText_written (blocks : List Block) : Bundle.ofText (written blocks) =
    .ok (blocks.foldl (fun b block => b.add block.1 block.2) Bundle.empty) := by
  rw [Bundle.ofText, foldlM_written blocks Scan.start rfl]
  rfl

/-- A written key is found again. -/
theorem Bundle.ofText_key (der : List UInt8) :
    Bundle.ofText (encodeBlock .privateKey der) = .ok ⟨some der, []⟩ := by
  have h := Bundle.ofText_written [(.privateKey, der)]
  rw [written, List.flatMap_singleton] at h
  exact h

/-- The bodies of the blocks of a kind. -/
def bodies (kind : BlockKind) (blocks : List Block) : List (List UInt8) :=
  (blocks.filter fun b => b.1 = kind).map Prod.snd

theorem bodies_cons (kind : BlockKind) (block : Block) (blocks : List Block) :
    bodies kind (block :: blocks) =
      if block.1 = kind then block.2 :: bodies kind blocks else bodies kind blocks := by
  by_cases h : block.1 = kind <;> simp [bodies, h]

/-- **Blocks that are added in their turn** leave the last key and line up the certificates. -/
theorem foldl_add (blocks : List Block) (b : Bundle) :
    blocks.foldl (fun b block => b.add block.1 block.2) b =
      ⟨(bodies .privateKey blocks).getLast?.or b.privateKey,
        b.certificates ++ bodies .certificate blocks⟩ := by
  induction blocks generalizing b with
  | nil => simp [bodies]
  | cons block blocks ih =>
    obtain ⟨kind, body⟩ := block
    rw [List.foldl_cons, ih, bodies_cons, bodies_cons]
    cases kind with
    | privateKey =>
      -- a later key takes the place of this one
      have hlast : (body :: bodies .privateKey blocks).getLast? =
          (bodies .privateKey blocks).getLast?.or (some body) := by
        rw [List.getLast?_cons]
        cases (bodies .privateKey blocks).getLast? <;> rfl
      simp [Bundle.add, hlast]
    | certificate => simp [Bundle.add]

/-- **Written certificates are found again**, in their order. -/
theorem Bundle.ofText_chain (ders : List (List UInt8)) :
    Bundle.ofText (ders.flatMap (encodeBlock .certificate)) = .ok ⟨none, ders⟩ := by
  have hbodies : ∀ kind, bodies kind (ders.map fun der => (.certificate, der)) =
      if kind = .certificate then ders else [] := by
    intro kind
    cases kind <;> simp [bodies, List.filter_map, Function.comp_def]
  have h := Bundle.ofText_written (ders.map fun der => (.certificate, der))
  rw [written, List.flatMap_map, foldl_add, hbodies, hbodies] at h
  exact h

end QuoteService.Pem
