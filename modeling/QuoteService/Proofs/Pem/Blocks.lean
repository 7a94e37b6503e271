import Mathlib.Data.List.Induction
import Mathlib.Data.List.Nodup
import Mathlib.Data.Nat.Basic
import Mathlib.Order.Basic
import QuoteService.Pem.Bundle

/-!
# The blocks of a bundle, without a scan

A complete block is a pair of places: an opening marker and the closing marker of its kind, with
neither an opening marker nor that closing marker between them. The bundle of a text depends on
these pairs alone.

* `CompleteBlock`: a pair of places that is a block.
* `OpenBlock`: a block that is still open at the end.
* `Picks`, `FirstFault`: what the complete blocks give, or which of them is at fault.
* `scan_lines`: the state of the scan after some lines, by induction on the lines from the end.
* `Bundle.ofText_blocks`: **the bundle of a text is what its complete blocks give.**
-/

namespace QuoteService.Pem

/-- A line opens a block of some kind. -/
def IsOpening (line : List Char) : Prop := ∃ kind, line = (Marker.opening kind).text.toList

/-- A line neither opens a block nor closes one of a kind. -/
def IsInner (kind : BlockKind) (line : List Char) : Prop :=
  ¬IsOpening line ∧ line ≠ (Marker.closing kind).text.toList

/-- The lines strictly between two places. -/
def between (lines : List (List Char)) (i j : ℕ) : List (List Char) := (lines.take j).drop (i + 1)

/-- Places `i` and `j` hold the markers of a block of a kind, and no line between them opens a block
or closes one of the kind. -/
structure CompleteBlock (lines : List (List Char)) (kind : BlockKind) (i j : ℕ) : Prop where
  lt : i < j
  opening : lines[i]? = some (Marker.opening kind).text.toList
  closing : lines[j]? = some (Marker.closing kind).text.toList
  inner : ∀ line ∈ between lines i j, IsInner kind line

/-- Place `i` opens a block of a kind that no line after it ends. -/
structure OpenBlock (lines : List (List Char)) (kind : BlockKind) (i : ℕ) : Prop where
  opening : lines[i]? = some (Marker.opening kind).text.toList
  inner : ∀ line ∈ lines.drop (i + 1), IsInner kind line

/-- The bytes that the lines between two places spell. -/
def bodyAt (lines : List (List Char)) (i j : ℕ) : Except Base64.DecodeError (List UInt8) :=
  Base64.decode (between lines i j).flatten

/-- What the complete blocks of some lines give when all of them are sound: the certificates in the
order of their places, and the key that ends last. -/
structure Picks (lines : List (List Char)) (b : Bundle) : Prop where
  sound : ∀ kind i j, CompleteBlock lines kind i j → ∃ der, bodyAt lines i j = .ok der
  certificates : ∃ places : List (ℕ × ℕ),
    (∀ i j, (i, j) ∈ places ↔ CompleteBlock lines .certificate i j) ∧
    places.Pairwise (fun p q => p.2 < q.1) ∧
    places.map (fun p => bodyAt lines p.1 p.2) = b.certificates.map .ok
  noKey : b.privateKey = none ↔ ∀ i j, ¬CompleteBlock lines .privateKey i j
  lastKey : ∀ der, b.privateKey = some der → ∃ i j, CompleteBlock lines .privateKey i j ∧
    bodyAt lines i j = .ok der ∧ ∀ i' j', CompleteBlock lines .privateKey i' j' → j' ≤ j

/-- The fault of the complete block that ends first among those that are no strict Base64. -/
def FirstFault (lines : List (List Char)) (e : Base64.DecodeError) : Prop :=
  ∃ kind i j, CompleteBlock lines kind i j ∧ bodyAt lines i j = .error e ∧
    ∀ kind' i' j', CompleteBlock lines kind' i' j' → j' < j → ∃ der, bodyAt lines i' j' = .ok der

/-! ## Markers -/

theorem Marker.text_injective {m m' : Marker} (h : m.text.toList = m'.text.toList) : m = m' := by
  rcases m with ⟨_ | _⟩ | ⟨_ | _⟩ <;> rcases m' with ⟨_ | _⟩ | ⟨_ | _⟩ <;>
    first | rfl | exact absurd h (by decide)

/-- **A line is the marker whose text it is.** -/
theorem Marker.ofLine?_eq_some_iff {line : List Char} {m : Marker} :
    Marker.ofLine? line = some m ↔ line = m.text.toList := by
  constructor
  · intro h
    have hm := List.find?_some h
    exact (of_decide_eq_true hm).symm
  · rintro rfl
    have hmem : m ∈ Marker.all := by rcases m with ⟨_ | _⟩ | ⟨_ | _⟩ <;> decide
    obtain ⟨found, hfound⟩ := Option.isSome_iff_exists.1 (List.find?_isSome
      (p := fun m' => m'.text.toList = m.text.toList).2 ⟨m, hmem, decide_eq_true rfl⟩)
    have htext := List.find?_some hfound
    rw [Marker.ofLine?, hfound, Marker.text_injective (of_decide_eq_true htext)]

/-- A line that is no marker has the text of none. -/
theorem Marker.ne_of_ofLine? {line : List Char} (h : Marker.ofLine? line = none) (m : Marker) :
    line ≠ m.text.toList := by
  intro heq
  cases h.symm.trans (Marker.ofLine?_eq_some_iff.2 heq)

theorem closing_ne_opening (kind kind' : BlockKind) :
    (Marker.closing kind).text.toList ≠ (Marker.opening kind').text.toList :=
  fun h => nomatch Marker.text_injective h

theorem closing_inj {kind kind' : BlockKind}
    (h : (Marker.closing kind).text.toList = (Marker.closing kind').text.toList) : kind = kind' := by
  cases Marker.text_injective h
  rfl

/-! ## One more line -/

variable {lines : List (List Char)} {line : List Char} {kind kind' : BlockKind} {i i' j j' : ℕ}

theorem between_append (h : j ≤ lines.length) : between (lines ++ [line]) i j = between lines i j := by
  rw [between, List.take_append_of_le_length h, between]

theorem bodyAt_append (h : j ≤ lines.length) : bodyAt (lines ++ [line]) i j = bodyAt lines i j := by
  rw [bodyAt, between_append h, bodyAt]

/-- Up to the end of some lines stands what follows a place. -/
theorem between_length (lines : List (List Char)) (i : ℕ) :
    between lines i lines.length = lines.drop (i + 1) := by
  rw [between, List.take_length]

theorem lt_length_of_getElem? {l : List Char} (h : lines[i]? = some l) : i < lines.length :=
  (List.getElem?_eq_some_iff.1 h).1

theorem CompleteBlock.lt_length (h : CompleteBlock lines kind i j) : j < lines.length :=
  lt_length_of_getElem? h.closing

theorem OpenBlock.lt_length (h : OpenBlock lines kind i) : i < lines.length :=
  lt_length_of_getElem? h.opening

/-- **A line completes the block that it closes, and no other.** -/
theorem completeBlock_snoc : CompleteBlock (lines ++ [line]) kind i j ↔
    CompleteBlock lines kind i j ∨
      (j = lines.length ∧ OpenBlock lines kind i ∧ line = (Marker.closing kind).text.toList) := by
  constructor
  · intro h
    have hj : j < lines.length + 1 := by simpa using h.lt_length
    have hi : i < lines.length := by have := h.lt; omega
    have hopening := h.opening
    rw [List.getElem?_append_left hi] at hopening
    have hinner := h.inner
    rcases Nat.lt_succ_iff_lt_or_eq.1 hj with hlt | rfl
    · have hclosing := h.closing
      rw [List.getElem?_append_left hlt] at hclosing
      rw [between_append hlt.le] at hinner
      exact .inl ⟨h.lt, hopening, hclosing, hinner⟩
    · have hclosing := h.closing
      rw [List.getElem?_concat_length, Option.some.injEq] at hclosing
      rw [between_append le_rfl, between_length] at hinner
      exact .inr ⟨rfl, ⟨hopening, hinner⟩, hclosing⟩
  · rintro (h | ⟨rfl, h, rfl⟩)
    · have hj := h.lt_length
      have hi := lt_trans h.lt hj
      refine ⟨h.lt, ?_, ?_, ?_⟩
      · rw [List.getElem?_append_left hi, h.opening]
      · rw [List.getElem?_append_left hj, h.closing]
      · rw [between_append hj.le]
        exact h.inner
    · have hi := h.lt_length
      refine ⟨hi, ?_, ?_, ?_⟩
      · rw [List.getElem?_append_left hi, h.opening]
      · rw [List.getElem?_concat_length]
      · rw [between_append le_rfl, between_length]
        exact h.inner

/-- **A block is open after a line** if the line opens it, or if it was open before and the line does
not end it. -/
theorem openBlock_snoc : OpenBlock (lines ++ [line]) kind i ↔
    (i = lines.length ∧ line = (Marker.opening kind).text.toList) ∨
      (OpenBlock lines kind i ∧ IsInner kind line) := by
  constructor
  · intro h
    have hi : i < lines.length + 1 := by simpa using h.lt_length
    rcases Nat.lt_succ_iff_lt_or_eq.1 hi with hlt | rfl
    · have hopening := h.opening
      rw [List.getElem?_append_left hlt] at hopening
      have hinner := h.inner
      rw [List.drop_append_of_le_length hlt] at hinner
      refine .inr ⟨⟨hopening, fun l hl => hinner l (List.mem_append_left _ hl)⟩, ?_⟩
      exact hinner line (List.mem_append_right _ (List.mem_singleton_self line))
    · have hopening := h.opening
      rw [List.getElem?_concat_length, Option.some.injEq] at hopening
      exact .inl ⟨rfl, hopening⟩
  · rintro (⟨rfl, rfl⟩ | ⟨h, hline⟩)
    · refine ⟨List.getElem?_concat_length, ?_⟩
      rw [List.drop_eq_nil_of_le (by simp)]
      nofun
    · have hi := h.lt_length
      refine ⟨by rw [List.getElem?_append_left hi, h.opening], ?_⟩
      rw [List.drop_append_of_le_length hi]
      intro l hl
      rcases List.mem_append.1 hl with hl | hl
      · exact h.inner l hl
      · exact List.mem_singleton.1 hl ▸ hline

/-! ## Blocks do not overlap -/

/-- A line after the place of an open block is inside it. -/
theorem OpenBlock.isInner_of_lt {l : List Char} (h : OpenBlock lines kind i) (hij : i < j)
    (hj : lines[j]? = some l) : IsInner kind l := by
  apply h.inner
  obtain ⟨k, rfl⟩ : ∃ k, j = i + 1 + k := ⟨j - (i + 1), by omega⟩
  rw [← List.getElem?_drop] at hj
  exact List.mem_of_getElem? hj

/-- **At most one block is open.** -/
theorem OpenBlock.eq (h : OpenBlock lines kind i) (h' : OpenBlock lines kind' i') :
    i = i' ∧ kind = kind' := by
  -- of two opening markers the later one would stand inside the block of the earlier one
  rcases lt_trichotomy i i' with hlt | rfl | hlt
  · exact absurd ⟨kind', rfl⟩ (h.isInner_of_lt hlt h'.opening).1
  · have htext := Option.some.inj (h.opening.symm.trans h'.opening)
    cases Marker.text_injective htext
    exact ⟨rfl, rfl⟩
  · exact absurd ⟨kind, rfl⟩ (h'.isInner_of_lt hlt h.opening).1

/-- A complete block was open before the line that closes it. -/
theorem CompleteBlock.openBlock_take (h : CompleteBlock lines kind i j) :
    OpenBlock (lines.take j) kind i := by
  refine ⟨?_, h.inner⟩
  rw [List.getElem?_take_of_lt h.lt, h.opening]

/-- **A line closes at most one block.** -/
theorem CompleteBlock.eq (h : CompleteBlock lines kind i j) (h' : CompleteBlock lines kind' i' j) :
    i = i' ∧ kind = kind' := h.openBlock_take.eq h'.openBlock_take

/-- A block that is complete ends before one of its kind that is open begins. -/
theorem CompleteBlock.lt_of_openBlock (h : CompleteBlock lines kind i j)
    (h' : OpenBlock lines kind i') : j < i' := by
  rcases lt_trichotomy j i' with hlt | rfl | hlt
  · exact hlt
  · have htext := Option.some.inj (h.closing.symm.trans h'.opening)
    exact absurd htext (closing_ne_opening kind kind)
  · exact absurd rfl (h'.isInner_of_lt hlt h.closing).2

/-! ## What the blocks give, one line on -/

variable {b : Bundle} {der : List UInt8} {e : Base64.DecodeError}

/-- A line that completes no block adds nothing. -/
theorem Picks.snoc (h : Picks lines b)
    (hnone : ∀ kind i, OpenBlock lines kind i → line ≠ (Marker.closing kind).text.toList) :
    Picks (lines ++ [line]) b := by
  have hsame : ∀ kind i j, CompleteBlock (lines ++ [line]) kind i j ↔ CompleteBlock lines kind i j := by
    intro kind i j
    rw [completeBlock_snoc]
    exact ⟨fun h => h.resolve_right fun ⟨_, hopen, hline⟩ => hnone kind i hopen hline, .inl⟩
  obtain ⟨places, hplaces, hsorted, hbodies⟩ := h.certificates
  refine ⟨?_, ⟨places, ?_, hsorted, ?_⟩, ?_, ?_⟩
  · intro kind i j hblock
    rw [hsame] at hblock
    rw [bodyAt_append hblock.lt_length.le]
    exact h.sound kind i j hblock
  · intro i j
    rw [hsame]
    exact hplaces i j
  · rw [← hbodies]
    refine List.map_congr_left fun p hp => ?_
    exact bodyAt_append ((hplaces p.1 p.2).1 hp).lt_length.le
  · simp only [hsame]
    exact h.noKey
  · intro der hder
    obtain ⟨i, j, hblock, hbody, hlast⟩ := h.lastKey der hder
    refine ⟨i, j, (hsame _ _ _).2 hblock, ?_, fun i' j' h' => hlast i' j' ((hsame _ _ _).1 h')⟩
    rw [bodyAt_append hblock.lt_length.le, hbody]

/-- **A line that completes a block adds its body.** -/
theorem Picks.snoc_closing (h : Picks lines b) (hopen : OpenBlock lines kind i)
    (hline : line = (Marker.closing kind).text.toList)
    (hder : Base64.decode (lines.drop (i + 1)).flatten = .ok der) :
    Picks (lines ++ [line]) (b.add kind der) := by
  have hblocks : ∀ kind' i' j', CompleteBlock (lines ++ [line]) kind' i' j' ↔
      CompleteBlock lines kind' i' j' ∨ (kind' = kind ∧ i' = i ∧ j' = lines.length) := by
    intro kind' i' j'
    rw [completeBlock_snoc]
    refine or_congr_right ⟨?_, ?_⟩
    · rintro ⟨rfl, hopen', -⟩
      obtain ⟨rfl, rfl⟩ := hopen'.eq hopen
      exact ⟨rfl, rfl, rfl⟩
    · rintro ⟨rfl, rfl, rfl⟩
      exact ⟨rfl, hopen, hline⟩
  have hold : ∀ {kind' i' j'}, CompleteBlock lines kind' i' j' →
      bodyAt (lines ++ [line]) i' j' = bodyAt lines i' j' :=
    fun hblock => bodyAt_append hblock.lt_length.le
  have hnew : bodyAt (lines ++ [line]) i lines.length = .ok der := by
    rw [bodyAt_append le_rfl, bodyAt, between_length, hder]
  have hsound : ∀ kind' i' j', CompleteBlock (lines ++ [line]) kind' i' j' →
      ∃ der, bodyAt (lines ++ [line]) i' j' = .ok der := by
    intro kind' i' j' hblock
    rcases (hblocks _ _ _).1 hblock with hblock | ⟨-, rfl, rfl⟩
    · rw [hold hblock]
      exact h.sound kind' i' j' hblock
    · exact ⟨der, hnew⟩
  obtain ⟨places, hplaces, hsorted, hbodies⟩ := h.certificates
  have hkept : places.map (fun p => bodyAt (lines ++ [line]) p.1 p.2) = b.certificates.map .ok := by
    rw [← hbodies]
    exact List.map_congr_left fun p hp => hold ((hplaces p.1 p.2).1 hp)
  cases kind with
  | certificate =>
    refine ⟨hsound, ⟨places ++ [(i, lines.length)], ?_, ?_, ?_⟩, ?_, ?_⟩
    · intro i' j'
      rw [List.mem_append, List.mem_singleton, Prod.mk.injEq, hplaces, hblocks]
      exact or_congr_right ⟨fun h => ⟨rfl, h⟩, fun h => h.2⟩
    · refine List.pairwise_append.2 ⟨hsorted, List.pairwise_singleton _ _, ?_⟩
      intro p hp q hq
      rw [List.mem_singleton.1 hq]
      exact ((hplaces p.1 p.2).1 hp).lt_of_openBlock hopen
    · rw [List.map_append, hkept]
      show _ = (b.certificates ++ [der]).map Except.ok
      rw [List.map_append, List.map_singleton, List.map_singleton, hnew]
    · -- the key is the one from before
      show b.privateKey = none ↔ _
      rw [h.noKey]
      refine forall_congr' fun i' => forall_congr' fun j' => not_congr ?_
      rw [hblocks]
      exact ⟨.inl, fun h => h.resolve_right nofun⟩
    · intro key hkey
      obtain ⟨i', j', hblock, hbody, hlast⟩ := h.lastKey key hkey
      refine ⟨i', j', (hblocks _ _ _).2 (.inl hblock), by rw [hold hblock, hbody], ?_⟩
      intro i'' j'' h''
      exact hlast i'' j'' (((hblocks _ _ _).1 h'').resolve_right nofun)
  | privateKey =>
    have hblock : CompleteBlock (lines ++ [line]) .privateKey i lines.length :=
      (hblocks _ _ _).2 (.inr ⟨rfl, rfl, rfl⟩)
    refine ⟨hsound, ⟨places, ?_, hsorted, hkept⟩, ?_, ?_⟩
    · intro i' j'
      rw [hplaces, hblocks]
      exact ⟨.inl, fun h => h.resolve_right nofun⟩
    · exact ⟨nofun, fun hno => absurd hblock (hno i lines.length)⟩
    · intro key hkey
      obtain rfl : der = key := Option.some.inj hkey
      refine ⟨i, lines.length, hblock, hnew, fun i' j' h' => ?_⟩
      have := h'.lt_length
      rw [List.length_append, List.length_singleton] at this
      omega

/-- The first fault stays the first one, whatever follows. -/
theorem FirstFault.snoc (h : FirstFault lines e) : FirstFault (lines ++ [line]) e := by
  obtain ⟨kind, i, j, hblock, hbody, hfirst⟩ := h
  have hj := hblock.lt_length
  refine ⟨kind, i, j, completeBlock_snoc.2 (.inl hblock), by rw [bodyAt_append hj.le, hbody], ?_⟩
  intro kind' i' j' hblock' hlt
  rw [bodyAt_append (hlt.trans hj).le]
  rcases completeBlock_snoc.1 hblock' with hblock' | ⟨rfl, -⟩
  · exact hfirst kind' i' j' hblock' hlt
  · omega

/-- **A closing line is at fault first** if all blocks before it are sound. -/
theorem Picks.firstFault (h : Picks lines b) (hopen : OpenBlock lines kind i)
    (hline : line = (Marker.closing kind).text.toList)
    (he : Base64.decode (lines.drop (i + 1)).flatten = .error e) : FirstFault (lines ++ [line]) e := by
  refine ⟨kind, i, lines.length, completeBlock_snoc.2 (.inr ⟨rfl, hopen, hline⟩), ?_, ?_⟩
  · rw [bodyAt_append le_rfl, bodyAt, between_length, he]
  · intro kind' i' j' hblock hlt
    rw [bodyAt_append hlt.le]
    rcases completeBlock_snoc.1 hblock with hblock | ⟨rfl, -⟩
    · exact h.sound kind' i' j' hblock
    · omega

/-! ## The scan -/

/-- The state of the scan after some lines: the block that is open, with the lines in it, and what
the complete blocks give. -/
structure Scanned (lines : List (List Char)) (s : Scan) : Prop where
  block : ∀ kind body, s.block = some (kind, body) ↔
    ∃ i, OpenBlock lines kind i ∧ lines.drop (i + 1) = body
  found : Picks lines s.found

theorem scanned_nil : Scanned [] Scan.start := by
  have hnone : ∀ kind i j, ¬CompleteBlock [] kind i j := fun _ _ _ h => absurd h.lt_length (by simp)
  refine ⟨fun kind body => ⟨nofun, ?_⟩, ?_, ⟨[], ?_, List.Pairwise.nil, rfl⟩, ?_, nofun⟩
  · rintro ⟨i, hopen, -⟩
    exact absurd hopen.lt_length (by simp)
  · exact fun kind i j h => absurd h (hnone kind i j)
  · exact fun i j => ⟨nofun, fun h => absurd h (hnone _ i j)⟩
  · exact ⟨fun _ => hnone _, fun _ => rfl⟩

variable {s s' : Scan}

/-- An opening line drops whatever was open. -/
theorem Scanned.opening (h : Scanned lines s) (kind : BlockKind) :
    Scanned (lines ++ [(Marker.opening kind).text.toList]) { s with block := some (kind, []) } := by
  refine ⟨fun kind' body => ?_, h.found.snoc fun other _ _ heq =>
    closing_ne_opening other kind heq.symm⟩
  constructor
  · intro heq
    cases heq
    refine ⟨lines.length, openBlock_snoc.2 (.inl ⟨rfl, rfl⟩), ?_⟩
    exact List.drop_eq_nil_of_le (by simp)
  · rintro ⟨i, hopen, rfl⟩
    rcases openBlock_snoc.1 hopen with ⟨rfl, htext⟩ | ⟨-, hinner⟩
    · cases Marker.text_injective htext
      rw [List.drop_eq_nil_of_le (by simp)]
    · exact absurd ⟨kind, rfl⟩ hinner.1

/-- A line that is neither an opening marker nor the marker that the open block waits for belongs to
that block, if there is one. -/
theorem Scanned.collect (h : Scanned lines s) (hopening : ¬IsOpening line)
    (hclosing : ∀ kind i, OpenBlock lines kind i → line ≠ (Marker.closing kind).text.toList) :
    Scanned (lines ++ [line]) (s.collect line) := by
  refine ⟨fun kind body => ?_, h.found.snoc hclosing⟩
  rw [Scan.collect, Option.map_eq_some_iff]
  constructor
  · rintro ⟨⟨_, held⟩, hblock, heq⟩
    cases heq
    obtain ⟨i, hopen, rfl⟩ := (h.block kind held).1 hblock
    refine ⟨i, openBlock_snoc.2 (.inr ⟨hopen, hopening, hclosing kind i hopen⟩), ?_⟩
    exact List.drop_append_of_le_length hopen.lt_length
  · rintro ⟨i, hopen, rfl⟩
    rcases openBlock_snoc.1 hopen with ⟨rfl, htext⟩ | ⟨hopen, -⟩
    · exact absurd ⟨kind, htext⟩ hopening
    · refine ⟨(kind, lines.drop (i + 1)), (h.block _ _).2 ⟨i, hopen, rfl⟩, ?_⟩
      rw [List.drop_append_of_le_length hopen.lt_length]

/-- **One line of the scan**, or the fault of the block that the line closes. -/
theorem Scanned.step (h : Scanned lines s) (line : List Char) :
    (∀ s', s.step line = .ok s' → Scanned (lines ++ [line]) s') ∧
      ∀ e, s.step line = .error e → FirstFault (lines ++ [line]) e := by
  have hnoOpen : ∀ {kind i}, s.block = none → ¬OpenBlock lines kind i := by
    intro kind i hnone hopen
    have hsome := (h.block kind _).2 ⟨i, hopen, rfl⟩
    rw [hnone] at hsome
    cases hsome
  unfold Scan.step
  cases hmarker : Marker.ofLine? line with
  | none =>
    have hne := Marker.ne_of_ofLine? hmarker
    refine ⟨fun s' heq => ?_, nofun⟩
    cases heq
    exact h.collect (fun ⟨kind, heq⟩ => hne _ heq) fun kind _ _ => hne _
  | some m =>
    have hline := Marker.ofLine?_eq_some_iff.1 hmarker
    cases m with
    | opening kind =>
      refine ⟨fun s' heq => ?_, nofun⟩
      cases heq
      rw [hline]
      exact h.opening kind
    | closing kind =>
      have hopening : ¬IsOpening line := by
        rintro ⟨kind', heq⟩
        exact closing_ne_opening kind kind' (hline.symm.trans heq)
      cases hblock : s.block with
      | none =>
        -- nothing is open, so nothing is collected either
        have hcollect : s.collect line = s := by rw [Scan.collect, hblock, Option.map_none, ← hblock]
        refine ⟨fun s' heq => ?_, nofun⟩
        cases heq
        rw [← hcollect]
        exact h.collect hopening fun kind' i hopen => absurd hopen (hnoOpen hblock)
      | some open' =>
        obtain ⟨opened, body⟩ := open'
        obtain ⟨i, hopen, rfl⟩ := (h.block _ _).1 hblock
        by_cases heq : opened = kind
        · subst heq
          simp only [if_true]
          cases hbody : Base64.decode (lines.drop (i + 1)).flatten with
          | error fault =>
            refine ⟨nofun, fun e he => ?_⟩
            cases he
            exact h.found.firstFault hopen hline hbody
          | ok der =>
            refine ⟨fun s' hs => ?_, nofun⟩
            cases hs
            refine ⟨fun kind' body => ⟨nofun, ?_⟩, h.found.snoc_closing hopen hline hbody⟩
            rintro ⟨i', hopen', -⟩
            rcases openBlock_snoc.1 hopen' with ⟨-, htext⟩ | ⟨hopen', hinner⟩
            · exact absurd ⟨kind', htext⟩ hopening
            · obtain ⟨-, rfl⟩ := hopen'.eq hopen
              exact absurd hline hinner.2
        · simp only [if_neg heq]
          refine ⟨fun s' hs => ?_, nofun⟩
          cases hs
          refine h.collect hopening fun kind' i' hopen' htext => heq ?_
          obtain ⟨-, rfl⟩ := hopen'.eq hopen
          exact closing_inj (htext.symm.trans hline)

/-- **The scan of some lines**: what it has found, or the first fault. -/
theorem scan_lines (lines : List (List Char)) :
    (∀ s, lines.foldlM Scan.step Scan.start = .ok s → Scanned lines s) ∧
      ∀ e, lines.foldlM Scan.step Scan.start = .error e → FirstFault lines e := by
  induction lines using List.reverseRecOn with
  | nil =>
    refine ⟨fun s hs => ?_, nofun⟩
    cases hs
    exact scanned_nil
  | append_singleton lines line ih =>
    obtain ⟨hok, herror⟩ := ih
    rw [List.foldlM_append]
    cases hscan : lines.foldlM Scan.step Scan.start with
    | error fault =>
      refine ⟨nofun, fun e he => ?_⟩
      cases he
      exact (herror _ hscan).snoc
    | ok s =>
      have hrun : (Except.ok s >>= fun s => [line].foldlM Scan.step s) = s.step line := by
        show s.step line >>= pure = s.step line
        exact bind_pure (s.step line)
      rw [hrun]
      exact (hok s hscan).step line

/-! ## The bundle -/

/-- Sound blocks give one bundle. -/
theorem Picks.eq {b' : Bundle} (h : Picks lines b) (h' : Picks lines b') : b = b' := by
  obtain ⟨places, hplaces, hsorted, hbodies⟩ := h.certificates
  obtain ⟨places', hplaces', hsorted', hbodies'⟩ := h'.certificates
  have hkey : b.privateKey = b'.privateKey := by
    cases hb : b.privateKey with
    | none => exact (h'.noKey.2 (h.noKey.1 hb)).symm
    | some key =>
      obtain ⟨i, j, hblock, hbody, hlast⟩ := h.lastKey key hb
      cases hb' : b'.privateKey with
      | none => exact absurd hblock (h'.noKey.1 hb' i j)
      | some key' =>
        obtain ⟨i', j', hblock', hbody', hlast'⟩ := h'.lastKey key' hb'
        obtain rfl : j = j' := le_antisymm (hlast' i j hblock) (hlast i' j' hblock')
        obtain ⟨rfl, -⟩ := hblock.eq hblock'
        exact congrArg some (Except.ok.inj (hbody.symm.trans hbody'))
  -- two lists of the same places in ascending order are the same list
  have hascending : ∀ places : List (ℕ × ℕ),
      (∀ i j, (i, j) ∈ places ↔ CompleteBlock lines .certificate i j) →
      places.Pairwise (fun p q => p.2 < q.1) → places.Pairwise (fun p q => p.2 < q.2) := by
    intro places hplaces hsorted
    refine hsorted.imp_of_mem fun {p q} _ hq hlt => ?_
    exact hlt.trans ((hplaces q.1 q.2).1 hq).lt
  have hsame : places = places' := by
    have hperm : places.Perm places' := by
      refine (List.perm_ext_iff_of_nodup ?_ ?_).2 fun p => ?_
      · exact (hascending places hplaces hsorted).imp fun hlt heq => by rw [heq] at hlt; omega
      · exact (hascending places' hplaces' hsorted').imp fun hlt heq => by rw [heq] at hlt; omega
      · exact (hplaces p.1 p.2).trans (hplaces' p.1 p.2).symm
    refine hperm.eq_of_pairwise ?_ (hascending places hplaces hsorted)
      (hascending places' hplaces' hsorted')
    intro p q _ _ hpq hqp
    omega
  have hcertificates : b.certificates = b'.certificates := by
    rw [hsame, hbodies'] at hbodies
    exact (List.map_injective_iff.2 fun _ _ h => Except.ok.inj h) hbodies.symm
  cases b
  cases b'
  rw [Bundle.mk.injEq]
  exact ⟨hkey, hcertificates⟩

/-- There is one first fault. -/
theorem FirstFault.eq {e' : Base64.DecodeError} (h : FirstFault lines e) (h' : FirstFault lines e') :
    e = e' := by
  obtain ⟨kind, i, j, hblock, hbody, hfirst⟩ := h
  obtain ⟨kind', i', j', hblock', hbody', hfirst'⟩ := h'
  rcases lt_trichotomy j j' with hlt | rfl | hlt
  · obtain ⟨der, hder⟩ := hfirst' kind i j hblock hlt
    rw [hbody] at hder
    cases hder
  · obtain ⟨rfl, -⟩ := hblock.eq hblock'
    exact Except.error.inj (hbody.symm.trans hbody')
  · obtain ⟨der, hder⟩ := hfirst kind' i' j' hblock' hlt
    rw [hbody'] at hder
    cases hder

/-- A first fault and sound blocks exclude each other. -/
theorem FirstFault.not_picks (h : FirstFault lines e) : ¬Picks lines b := by
  intro hpicks
  obtain ⟨kind, i, j, hblock, hbody, -⟩ := h
  obtain ⟨der, hder⟩ := hpicks.sound kind i j hblock
  rw [hbody] at hder
  cases hder

/-- What the scan of the lines of a text leaves is what its complete blocks give. -/
theorem Bundle.picks_of_ofText {text : List Char} (h : Bundle.ofText text = .ok b) :
    Picks (contentLines text) b := by
  rw [Bundle.ofText] at h
  cases hscan : (contentLines text).foldlM Scan.step Scan.start with
  | error fault =>
    rw [hscan] at h
    cases h
  | ok s =>
    rw [hscan] at h
    obtain rfl : s.found = b := Except.ok.inj h
    exact ((scan_lines (contentLines text)).1 s hscan).found

/-- What stops the scan of the lines of a text is the first fault of its complete blocks. -/
theorem Bundle.firstFault_of_ofText {text : List Char} (h : Bundle.ofText text = .error e) :
    FirstFault (contentLines text) e := by
  rw [Bundle.ofText] at h
  cases hscan : (contentLines text).foldlM Scan.step Scan.start with
  | error fault =>
    rw [hscan] at h
    obtain rfl : fault = e := Except.error.inj h
    exact (scan_lines (contentLines text)).2 fault hscan
  | ok s =>
    rw [hscan] at h
    cases h

theorem Bundle.ofText_eq_ok_iff {text : List Char} :
    Bundle.ofText text = .ok b ↔ Picks (contentLines text) b := by
  refine ⟨picks_of_ofText, fun hpicks => ?_⟩
  cases htext : Bundle.ofText text with
  | error fault => exact absurd hpicks (firstFault_of_ofText htext).not_picks
  | ok b' => rw [(picks_of_ofText htext).eq hpicks]

theorem Bundle.ofText_eq_error_iff {text : List Char} :
    Bundle.ofText text = .error e ↔ FirstFault (contentLines text) e := by
  refine ⟨firstFault_of_ofText, fun hfault => ?_⟩
  cases htext : Bundle.ofText text with
  | error fault => rw [(firstFault_of_ofText htext).eq hfault]
  | ok b' => exact absurd (picks_of_ofText htext) hfault.not_picks

/-- **The bundle of a text is what its complete blocks give.** It fails exactly if the lines of some
complete block are no strict Base64, with the fault of the block that ends first among these.
Otherwise it has the bodies of all complete certificate blocks in the order of their places, and the
body of the complete key block that ends last, if there is one. -/
theorem Bundle.ofText_blocks (text : List Char) :
    let lines := contentLines text
    ((∃ e, Bundle.ofText text = .error e) ↔
      ∃ kind i j, CompleteBlock lines kind i j ∧ ∃ e, bodyAt lines i j = .error e) ∧
    (∀ e, Bundle.ofText text = .error e ↔ FirstFault lines e) ∧
    ∀ b, Bundle.ofText text = .ok b ↔ Picks lines b := by
  intro lines
  refine ⟨⟨?_, ?_⟩, fun e => ofText_eq_error_iff, fun b => ofText_eq_ok_iff⟩
  · rintro ⟨e, he⟩
    obtain ⟨kind, i, j, hblock, hbody, -⟩ := ofText_eq_error_iff.1 he
    exact ⟨kind, i, j, hblock, e, hbody⟩
  · rintro ⟨kind, i, j, hblock, e, hbody⟩
    cases htext : Bundle.ofText text with
    | error fault => exact ⟨fault, rfl⟩
    | ok b =>
      obtain ⟨der, hder⟩ := (ofText_eq_ok_iff.1 htext).sound kind i j hblock
      rw [hbody] at hder
      cases hder

end QuoteService.Pem
