import QuoteService.Proofs.Pem.Written

/-!
# Layouts of a bundle

Blocks can be laid out in many ways: digits in lines of any lengths, blanks around every line, line ends
of all kinds, other lines anywhere outside, and blocks that are cut off in front of others.

* `Row`: a line with what stands around it.
* `Laid`: rows that lay out blocks.
* `Spells`: the texts of rows, whether their last line is ended or not.
* `Scan.outcome_nonEmpty`: empty lines do not count for a scan.
* `nonEmpty_contentLines`: the lines of a text of rows are what its rows show, up to empty ones.
* `Scan.outcome_laid`: a scan finds the blocks that rows lay out, by induction on the layout.
* `Bundle.ofText_laid`: **every layout of blocks is read as these blocks.**
-/

namespace QuoteService.Pem

/-! ## Layouts -/

/-- A line with its content, between blanks that end no line, and the end of the line. -/
structure Row where
  front : List Char
  content : List Char
  back : List Char
  ending : Text.LineEnd
  margins : ∀ c ∈ front ++ back, Text.isBlank c = true ∧ Text.isLineEnd c = false
  oneLine : ∀ c ∈ content, Text.isLineEnd c = false

namespace Row

/-- The line, without its end. -/
def line (r : Row) : List Char := r.front ++ r.content ++ r.back

/-- The line and its end. -/
def text (r : Row) : List Char := r.line ++ r.ending.text

/-- What is left of the line when it is trimmed. -/
def shown (r : Row) : List Char := Text.trim r.content

end Row

/-- Rows that lay out blocks, in their order. Between the rows of blocks, in front of them and after them
stand rows that show no marker; opening markers that nothing closes stand there, too, so the strays
after one of these are the lines of a block that is cut off. -/
inductive Laid : List Block → List Row → Prop
  | nil : Laid [] []
  | stray {blocks : List Block} {rows : List Row} {row : Row}
      (hrow : Marker.ofLine? row.shown = none) (h : Laid blocks rows) : Laid blocks (row :: rows)
  | cutOff {blocks : List Block} {rows : List Row} {row : Row} (kind : BlockKind)
      (hrow : row.content = (Marker.opening kind).text.toList) (h : Laid blocks rows) :
      Laid blocks (row :: rows)
  | block {blocks : List Block} {rows body : List Row} {first last : Row} {kind : BlockKind}
      {der : List UInt8} (hfirst : first.content = (Marker.opening kind).text.toList)
      (hbody : (body.map Row.content).flatten = Base64.Alphabet.standard.encodePadded der)
      (hlast : last.content = (Marker.closing kind).text.toList) (h : Laid blocks rows) :
      Laid ((kind, der) :: blocks) (first :: (body ++ last :: rows))

/-- A text of rows. The end of the last line may be missing. -/
def Spells (rows : List Row) (text : List Char) : Prop :=
  text = rows.flatMap Row.text ∨
    ∃ (init : List Row) (last : Row), rows = init ++ [last] ∧ text = init.flatMap Row.text ++ last.line

/-! ## Empty lines -/

namespace Scan

variable {s t : Scan} {line : List Char} {lines : List (List Char)}

/-- What counts of a scan: of the lines in the open block only the characters do. -/
def view (s : Scan) : Bundle × Option (BlockKind × List Char) :=
  (s.found, s.block.map fun (kind, lines) => (kind, lines.flatten))

theorem view_collect (s : Scan) (line : List Char) : (s.collect line).view =
    (s.view.1, s.view.2.map fun (kind, digits) => (kind, digits ++ line)) := by
  obtain ⟨found, block⟩ := s
  cases block with
  | none => rfl
  | some block => simp [collect, view]

/-- **One line makes of scans that look alike scans that look alike.** -/
theorem step_view (h : s.view = t.view) (line : List Char) :
    (s.step line).map view = (t.step line).map view := by
  have hcollect : (s.collect line).view = (t.collect line).view := by
    rw [view_collect, view_collect, h]
  obtain ⟨found, block⟩ := s
  obtain ⟨found', block'⟩ := t
  obtain ⟨hfound, hblock⟩ := Prod.mk.inj h
  obtain rfl : found = found' := hfound
  unfold step
  cases Marker.ofLine? line with
  | none => exact congrArg Except.ok hcollect
  | some m =>
    cases m with
    | opening kind => rfl
    | closing kind =>
      cases block with
      | none =>
        obtain rfl : block' = none := Option.map_eq_none_iff.1 hblock.symm
        rfl
      | some opened =>
        obtain ⟨opened', rfl, hopened⟩ := Option.map_eq_some_iff.1 hblock.symm
        obtain ⟨kind₁, lines₁⟩ := opened
        obtain ⟨kind₂, lines₂⟩ := opened'
        obtain ⟨rfl, hflat⟩ := Prod.mk.inj hopened
        by_cases hkind : kind₂ = kind
        · -- the block is closed, and its characters decide what is found
          simp only [if_pos hkind, hflat]
        · simp only [if_neg hkind]
          exact congrArg Except.ok hcollect

/-- What a scan has found after some lines. -/
def outcome (s : Scan) (lines : List (List Char)) : Except Base64.DecodeError Bundle :=
  (lines.foldlM step s).map found

theorem outcome_nil (s : Scan) : s.outcome [] = .ok s.found := rfl

theorem outcome_cons (s : Scan) (line : List Char) (lines : List (List Char)) :
    s.outcome (line :: lines) = s.step line >>= fun s' => s'.outcome lines := by
  rw [outcome, List.foldlM_cons]
  cases s.step line <;> rfl

/-- What is found does not depend on how the characters of the open block were cut into lines. -/
theorem outcome_congr (h : s.view = t.view) (lines : List (List Char)) :
    s.outcome lines = t.outcome lines := by
  induction lines generalizing s t with
  | nil => exact congrArg (fun v => Except.ok v.1) h
  | cons line lines ih =>
    rw [outcome_cons, outcome_cons]
    have hstep := step_view h line
    cases hs : s.step line with
    | error fault =>
      cases ht : t.step line with
      | error fault' =>
        rw [hs, ht] at hstep
        cases hstep
        rfl
      | ok t' =>
        rw [hs, ht] at hstep
        cases hstep
    | ok s' =>
      cases ht : t.step line with
      | error fault' =>
        rw [hs, ht] at hstep
        cases hstep
      | ok t' =>
        rw [hs, ht] at hstep
        exact ih (Except.ok.inj hstep)

/-- An empty line changes nothing. -/
theorem outcome_empty_cons (s : Scan) (lines : List (List Char)) :
    s.outcome ([] :: lines) = s.outcome lines := by
  have hplain : Marker.ofLine? [] = none := by decide
  rw [outcome_cons, step_plain hplain]
  refine outcome_congr ?_ lines
  rw [view_collect]
  obtain ⟨found, block⟩ := s
  cases block with
  | none => rfl
  | some block => simp [view]

/-- **Empty lines do not count for a scan.** -/
theorem outcome_nonEmpty (s : Scan) (lines : List (List Char)) :
    s.outcome (Text.nonEmpty lines) = s.outcome lines := by
  induction lines generalizing s with
  | nil => rfl
  | cons line lines ih =>
    cases line with
    | nil =>
      rw [outcome_empty_cons, ← ih s]
      rfl
    | cons c line =>
      have hkept : Text.nonEmpty ((c :: line) :: lines) = (c :: line) :: Text.nonEmpty lines := rfl
      rw [hkept, outcome_cons, outcome_cons]
      simp only [ih]

end Scan

/-! ## The lines of a text of rows -/

/-- Trimmed lines are the same up to empty ones if the lines are. -/
theorem nonEmpty_map_trim {lines lines' : List (List Char)}
    (h : Text.nonEmpty lines = Text.nonEmpty lines') :
    Text.nonEmpty (lines.map Text.trim) = Text.nonEmpty (lines'.map Text.trim) := by
  have hall : ∀ lines : List (List Char), Text.nonEmpty (lines.map Text.trim) =
      Text.nonEmpty ((Text.nonEmpty lines).map Text.trim) := by
    intro lines
    induction lines with
    | nil => rfl
    | cons line lines ih =>
      rw [List.map_cons, Text.nonEmpty_cons, ih, Text.nonEmpty_cons line, List.map_append,
        Text.nonEmpty_append]
      cases line <;> rfl
  rw [hall, h, ← hall]

namespace Row

variable (r : Row)

theorem line_oneLine : ∀ c ∈ r.line, Text.isLineEnd c = false := by
  intro c hc
  rw [line, List.mem_append, List.mem_append] at hc
  rcases hc with (hc | hc) | hc
  · exact (r.margins c (List.mem_append_left _ hc)).2
  · exact r.oneLine c hc
  · exact (r.margins c (List.mem_append_right _ hc)).2

theorem trim_line : Text.trim r.line = r.shown :=
  Text.trim_margins (fun c hc => (r.margins c (List.mem_append_left _ hc)).1)
    (fun c hc => (r.margins c (List.mem_append_right _ hc)).1) r.content

end Row

/-- **The lines of a text of rows are what its rows show**, up to empty lines. -/
theorem nonEmpty_contentLines (rows : List Row) (rest : List Char) :
    Text.nonEmpty (contentLines (rows.flatMap Row.text ++ rest)) =
      Text.nonEmpty (rows.map Row.shown ++ contentLines rest) := by
  induction rows with
  | nil => rfl
  | cons row rows ih =>
    obtain ⟨lines, hlines, hrest⟩ := Text.splitLines_ended row.line_oneLine row.ending
      (rows.flatMap Row.text ++ rest)
    have htext : (row :: rows).flatMap Row.text ++ rest =
        row.line ++ (row.ending.text ++ (rows.flatMap Row.text ++ rest)) := by
      rw [List.flatMap_cons, Row.text, List.append_assoc, List.append_assoc]
    rw [contentLines, htext, hlines, List.map_cons, row.trim_line, Text.nonEmpty_cons,
      nonEmpty_map_trim hrest, ← contentLines, ih, ← Text.nonEmpty_cons]
    rfl

/-- The same with the last line ended or not. -/
theorem nonEmpty_contentLines_of_spells {rows : List Row} {text : List Char} (h : Spells rows text) :
    Text.nonEmpty (contentLines text) = Text.nonEmpty (rows.map Row.shown) := by
  rcases h with rfl | ⟨init, last, rfl, rfl⟩
  · have hlines := nonEmpty_contentLines rows []
    rw [List.append_nil] at hlines
    rw [hlines]
    exact congrArg Text.nonEmpty (List.append_nil _)
  · have hlast : Text.nonEmpty (contentLines last.line) = Text.nonEmpty [last.shown] := by
      have hunended := nonEmpty_map_trim (Text.nonEmpty_splitLines_unended last.line_oneLine)
      rw [List.map_singleton, last.trim_line] at hunended
      exact hunended
    rw [nonEmpty_contentLines, Text.nonEmpty_append, hlast, ← Text.nonEmpty_append, List.map_append]
    rfl

/-! ## What is found -/

theorem Row.shown_of_marker {row : Row} {m : Marker} (h : row.content = m.text.toList) :
    row.shown = m.text.toList := by
  rw [Row.shown, h]
  exact (marker_line m).1

/-- Rows of digits are shown as they are. -/
theorem shown_of_digits {body : List Row} {der : List UInt8}
    (h : (body.map Row.content).flatten = Base64.Alphabet.standard.encodePadded der) :
    body.map Row.shown = body.map Row.content ∧
      ∀ line ∈ body.map Row.content, Marker.ofLine? line = none := by
  have hsign : ∀ line ∈ body.map Row.content, ∀ c ∈ line, Base64.IsSign c := by
    intro line hline c hc
    apply Base64.isSign_of_mem_encodePadded
    rw [← h]
    exact List.mem_flatten.2 ⟨line, hline, hc⟩
  refine ⟨List.map_congr_left fun row hrow => ?_, fun line hline => ofLine?_of_isSign (hsign line hline)⟩
  exact Text.trimBy_eq_self fun c hc => (hsign _ (List.mem_map_of_mem hrow) c hc).isBlank_eq_false

/-- **A scan finds the blocks that rows lay out**, whatever was found or open before. -/
theorem Scan.outcome_laid {blocks : List Block} {rows : List Row} (h : Laid blocks rows) (s : Scan) :
    s.outcome (rows.map Row.shown) =
      .ok (blocks.foldl (fun b block => b.add block.1 block.2) s.found) := by
  -- the induction is on the layout; only a block that is whole changes what has been found
  induction h generalizing s with
  | nil => exact Scan.outcome_nil s
  | @stray blocks rows row hrow _ ih =>
    rw [List.map_cons, Scan.outcome_cons, Scan.step_plain hrow]
    exact ih (s.collect row.shown)
  | @cutOff blocks rows row kind hrow _ ih =>
    rw [List.map_cons, Scan.outcome_cons, Row.shown_of_marker hrow, Scan.step_opening]
    exact ih { s with block := some (kind, []) }
  | @block blocks rows body first last kind der hfirst hbody hlast _ ih =>
    obtain ⟨hshown, hplain⟩ := shown_of_digits hbody
    have hlines : (first :: (body ++ last :: rows)).map Row.shown =
        blockLines kind (body.map Row.content) ++ rows.map Row.shown := by
      rw [List.map_cons, List.map_append, List.map_cons, hshown, Row.shown_of_marker hfirst,
        Row.shown_of_marker hlast, blockLines, List.cons_append, List.append_assoc]
      rfl
    have hdecode : Base64.decode (body.map Row.content).flatten = .ok der := by
      rw [hbody, Base64.decode_encodePadded]
    rw [hlines, Scan.outcome, List.foldlM_append, Scan.foldlM_block hplain hdecode]
    exact ih ⟨s.found.add kind der, none⟩

/-- **Every layout of blocks is read as these blocks**: the certificates in their order, and the last
key, if there is one. -/
theorem Bundle.ofText_laid {blocks : List Block} {rows : List Row} {text : List Char}
    (h : Laid blocks rows) (htext : Spells rows text) : Bundle.ofText text =
      .ok ⟨(bodies .privateKey blocks).getLast?, bodies .certificate blocks⟩ := by
  have hscan : Bundle.ofText text = Scan.start.outcome (contentLines text) := rfl
  rw [hscan, ← Scan.outcome_nonEmpty, nonEmpty_contentLines_of_spells htext, Scan.outcome_nonEmpty,
    Scan.outcome_laid h, foldl_add]
  simp [Scan.start, Bundle.empty]

/-! ## A mixed layout -/

/-- A row whose margins and content pass their tests. -/
def Row.checked (front content back : List Char) (ending : Text.LineEnd)
    (hmargins : (front ++ back).all (fun c => Text.isBlank c && !Text.isLineEnd c) = true)
    (hcontent : content.all (fun c => !Text.isLineEnd c) = true) : Row where
  front := front
  content := content
  back := back
  ending := ending
  margins c hc := by simpa using List.all_eq_true.1 hmargins c hc
  oneLine c hc := by simpa using List.all_eq_true.1 hcontent c hc

/-- A row that holds a marker between margins. -/
def Row.ofMarker (front back : List Char) (m : Marker) (ending : Text.LineEnd)
    (hmargins : (front ++ back).all (fun c => Text.isBlank c && !Text.isLineEnd c) = true) : Row :=
  { Row.checked front [] back ending hmargins rfl with
    content := m.text.toList
    oneLine := (marker_line m).2 }

/-- A key that is cut off stands in front of a certificate whose digits are cut at odd places, and a key
of one byte ends the text. The carriage return and the line feed at the start end two lines, of which
one is seen. -/
def mixedRows : List Row :=
  [.checked [] ['x'] [] (.single '\r' rfl) rfl rfl,
    .checked [] [] [] (.single '\n' rfl) rfl rfl,
    .ofMarker ['\t'] [] (.opening .privateKey) (.single '\u2028' rfl) rfl,
    .checked [] ['A', 'A', 'A', 'A'] [] .pair rfl rfl,
    .ofMarker [] [' '] (.opening .certificate) (.single '\x0b' rfl) rfl,
    .checked ['\u3000'] ['A'] [] (.single '\x85' rfl) rfl rfl,
    .checked [] [] ['\x1f'] (.single '\r' rfl) rfl rfl,
    .checked [] ['Q', 'I', 'D', 'B', 'A', '=', '='] [] (.single '\x1c' rfl) rfl rfl,
    .ofMarker [' '] [' '] (.closing .certificate) .pair rfl,
    .ofMarker [] [] (.opening .privateKey) (.single '\n' rfl) rfl,
    .checked [] ['B', 'w', '=', '='] [] (.single '\n' rfl) rfl rfl,
    .ofMarker [] [] (.closing .privateKey) (.single '\n' rfl) rfl]

theorem laid_mixedRows : Laid [(.certificate, [1, 2, 3, 4]), (.privateKey, [7])] mixedRows := by
  have hkey : Laid [(.privateKey, [7])] ([] ++ mixedRows.drop 9) := by
    have hdigits : (([mixedRows[10]] : List Row).map Row.content).flatten =
        Base64.Alphabet.standard.encodePadded [7] := by decide
    exact .block rfl hdigits rfl .nil
  have hboth : Laid [(.certificate, [1, 2, 3, 4]), (.privateKey, [7])] (mixedRows.drop 4) := by
    have hdigits : (([mixedRows[5], mixedRows[6], mixedRows[7]] : List Row).map Row.content).flatten =
        Base64.Alphabet.standard.encodePadded [1, 2, 3, 4] := by decide
    exact .block rfl hdigits rfl hkey
  exact .stray (by decide) (.stray (by decide) (.cutOff .privateKey rfl (.stray (by decide) hboth)))

/-- The layout is read, with no end to its last line. -/
theorem ofText_laid_mixed :
    let text := ['x', '\r', '\n', '\t'] ++ (Marker.opening .privateKey).text.toList ++
      ['\u2028', 'A', 'A', 'A', 'A', '\r', '\n'] ++ (Marker.opening .certificate).text.toList ++
      [' ', '\x0b', '\u3000', 'A', '\x85', '\x1f', '\r', 'Q', 'I', 'D', 'B', 'A', '=', '=', '\x1c', ' '] ++
      (Marker.closing .certificate).text.toList ++ [' ', '\r', '\n'] ++
      (Marker.opening .privateKey).text.toList ++ ['\n', 'B', 'w', '=', '=', '\n'] ++
      (Marker.closing .privateKey).text.toList
    Laid [(.certificate, [1, 2, 3, 4]), (.privateKey, [7])] mixedRows ∧ Spells mixedRows text ∧
      Bundle.ofText text = .ok ⟨some [7], [[1, 2, 3, 4]]⟩ := by
  intro text
  have hspells : Spells mixedRows text := by
    refine .inr ⟨mixedRows.take 11, mixedRows[11], rfl, ?_⟩
    simp [text, mixedRows, Row.text, Row.line, Row.checked, Row.ofMarker, Text.LineEnd.text]
  exact ⟨laid_mixedRows, hspells, Bundle.ofText_laid laid_mixedRows hspells⟩

end QuoteService.Pem
