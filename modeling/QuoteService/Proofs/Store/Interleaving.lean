import Mathlib.Data.List.Nodup
import Mathlib.Logic.Function.Basic
import QuoteService.Proofs.Store.Rows

/-!
# Quotes added at the same time

An addition takes two steps. It looks its quote up, and when it has found nothing it inserts the quote.
Other additions may take their steps in between, so what was looked up can be out of date when the
quote is inserted. Only the table stands against that: it refuses what it holds, and a refused
insertion leaves it as it was.

* `Race`: a table, and where each of several additions to it stands.
* `Race.step`, `Race.run`: the next step of one addition, and a schedule of such steps.
* `Race.run_alone`, `Race.run_overtaken`: **these are the two steps of `Store.add`**, and of
  `Store.addRaced` when another addition comes between them.
* `Race.step_moves`: all that a step can do.
* `Race.Reached`: what holds after any schedule; `Reached.step` for one step, `Reached.run` for all.
* `Race.run_safe`: **whatever the schedule, no quote is stored twice, one of those who add a new quote
  has stored it, and the others are told that it is a duplicate.**
-/

namespace QuoteService.Store

/-- Where an addition stands. -/
inductive Stage where
  | waiting
  /-- It has looked its quote up and found nothing. -/
  | checked
  | done (result : Except Duplicate Row)

/-- A table, and where each of the additions to it stands. -/
structure Race (ι : Type) where
  table : Store
  stage : ι → Stage

namespace Race

variable {ι : Type} {quote : ι → Option String} {table : Store} {r : Race ι} {order : List ι} {i : ι}
  {q : String}

/-- No addition has taken a step. -/
def start (table : Store) : Race ι := ⟨table, fun _ => .waiting⟩

/-- The row that an addition has returned. -/
def row? (r : Race ι) (i : ι) : Option Row :=
  match r.stage i with
  | .done (.ok row) => some row
  | _ => none

theorem row?_eq_some_iff {row : Row} : r.row? i = some row ↔ r.stage i = .done (.ok row) := by
  unfold row?
  split
  · rename_i hstage
    rw [hstage]
    simp
  · rename_i hno
    exact ⟨nofun, fun h => absurd h (hno row)⟩

/-- An addition has returned a row with its quote. -/
def Returned (quote : ι → Option String) (r : Race ι) (i : ι) (row : Row) : Prop :=
  quote i = some row.quote ∧ r.stage i = .done (.ok row)

/-- What holds when `order` are the additions that have returned, in the order of their insertions. Of
an addition that has looked its quote up nothing is said: it may be stored by now. -/
structure Reached (quote : ι → Option String) (table : Store) (order : List ι) (r : Race ι) : Prop where
  distinct : r.table.quotes.Nodup
  rows : r.table.rows = table.rows ++ order.filterMap r.row?
  returned : ∀ i ∈ order, ∃ row, Returned quote r i row
  complete : ∀ i row, r.stage i = .done (.ok row) → i ∈ order
  duplicate : ∀ i d, r.stage i = .done (.error d) →
    d = ⟨quote i⟩ ∧ ∀ q, quote i = some q → q ∈ r.table.quotes

/-- What has returned stays when another addition moves. -/
theorem Reached.ne_of_mem (h : Reached quote table order r)
    (hstage : ∀ result, r.stage i ≠ .done result) {j : ι} (hj : j ∈ order) : j ≠ i := by
  rintro rfl
  obtain ⟨row, -, hrow⟩ := h.returned j hj
  exact hstage _ hrow

/-- The table holds what it held at first, and then the quotes of the additions that have returned. -/
theorem Reached.map_quotes (h : Reached quote table order r) :
    r.table.quotes.map some = table.quotes.map some ++ order.map quote := by
  have hrows : (order.filterMap r.row?).map (fun row => some row.quote) = order.map quote := by
    rw [List.map_filterMap]
    refine List.filterMap_eq_map_iff_forall_eq_some.2 fun i hi => ?_
    obtain ⟨row, hquote, hstage⟩ := h.returned i hi
    rw [row?_eq_some_iff.2 hstage, Option.map_some, hquote]
  rw [quotes, quotes, h.rows, List.map_append, List.map_append, ← hrows]
  simp

theorem Reached.nodup_map_quotes (h : Reached quote table order r) :
    (table.quotes.map some ++ order.map quote).Nodup := by
  rw [← h.map_quotes]
  exact h.distinct.map fun _ _ => Option.some.inj

/-- No addition of a quote that was stored at first has returned. -/
theorem Reached.not_returned (h : Reached quote table order r) (hold : q ∈ table.quotes)
    (hquote : quote i = some q) (row : Row) : r.stage i ≠ .done (.ok row) := by
  intro hstage
  have hmem : some q ∈ order.map quote := List.mem_map.2 ⟨i, h.complete i row hstage, hquote⟩
  exact (List.nodup_append.1 h.nodup_map_quotes).2.2 _ (List.mem_map_of_mem hold) _ hmem rfl

/-- **One of the additions of a new quote has returned** as soon as one of them is done. -/
theorem Reached.existsUnique_returned (h : Reached quote table order r) (hnew : q ∉ table.quotes)
    {result : Except Duplicate Row} (hquote : quote i = some q)
    (hstage : r.stage i = .done result) :
    ∃! i, quote i = some q ∧ ∃ row, r.stage i = .done (.ok row) := by
  -- the quote is stored by now, whatever the addition was told
  have hstored : q ∈ r.table.quotes := by
    cases result with
    | ok row =>
      have hmem : some q ∈ r.table.quotes.map some := by
        rw [h.map_quotes]
        exact List.mem_append_right _ (List.mem_map.2 ⟨i, h.complete i row hstage, hquote⟩)
      simpa using hmem
    | error d => exact (h.duplicate i d hstage).2 q hquote
  have hadded : some q ∈ order.map quote := by
    have hmem : some q ∈ r.table.quotes.map some := List.mem_map_of_mem hstored
    rw [h.map_quotes] at hmem
    rcases List.mem_append.1 hmem with hold | hadded
    · exact absurd (by simpa using hold) hnew
    · exact hadded
  obtain ⟨j, hj, hjquote⟩ := List.mem_map.1 hadded
  obtain ⟨row, -, hrow⟩ := h.returned j hj
  refine ⟨j, ⟨hjquote, row, hrow⟩, ?_⟩
  rintro k ⟨hkquote, row', hk⟩
  exact List.inj_on_of_nodup_map (List.nodup_append.1 h.nodup_map_quotes).2.1
    (h.complete k row' hk) hj (hkquote.trans hjquote.symm)

/-- How far an addition has come. -/
def progress (r : Race ι) (i : ι) : ℕ :=
  match r.stage i with
  | .waiting => 0
  | .checked => 1
  | .done _ => 2

theorem progress_of_done {result : Except Duplicate Row} (h : r.stage i = .done result) :
    r.progress i = 2 := by
  rw [progress, h]

theorem exists_done_of_progress (h : 2 ≤ r.progress i) : ∃ result, r.stage i = .done result := by
  unfold progress at h
  cases hstage : r.stage i with
  | waiting => simp [hstage] at h
  | checked => simp [hstage] at h
  | done result => exact ⟨result, rfl⟩

/-! ## Steps -/

variable [DecidableEq ι]

/-- One addition comes to a stage. -/
def move (r : Race ι) (i : ι) (stage : Stage) : Race ι :=
  { r with stage := Function.update r.stage i stage }

/-- The next step of an addition. No row is without a quote, so none is found by a look-up for no quote,
and no such row can be inserted. What is refused is rolled back: the table stays as it is. -/
def step (quote : ι → Option String) (r : Race ι) (i : ι) : Race ι :=
  match r.stage i with
  | .waiting =>
    if (quote i).any r.table.contains then r.move i (.done (.error ⟨quote i⟩))
    else r.move i .checked
  | .checked =>
    match (quote i).bind r.table.insert? with
    | some (row, table) => ⟨table, (r.move i (.done (.ok row))).stage⟩
    | none => r.move i (.done (.error ⟨quote i⟩))
  | .done _ => r

/-- A schedule tells which addition takes the next step, again and again. -/
def run (quote : ι → Option String) (r : Race ι) (schedule : List ι) : Race ι :=
  schedule.foldl (step quote) r

/-- The addition that a step of `i` lets return: `i` or none. -/
def inserted (quote : ι → Option String) (r : Race ι) (i : ι) : List ι :=
  if r.row? i = none ∧ (r.step quote i).row? i ≠ none then [i] else []

/-- The additions that return a row on a schedule, in the order of their insertions. -/
def inserts (quote : ι → Option String) (r : Race ι) : List ι → List ι
  | [] => []
  | i :: schedule => r.inserted quote i ++ (r.step quote i).inserts quote schedule

@[simp] theorem stage_move_self (s : Stage) : (r.move i s).stage i = s := Function.update_self ..

theorem stage_move_of_ne {j : ι} (h : j ≠ i) (s : Stage) : (r.move i s).stage j = r.stage j :=
  Function.update_of_ne h ..

/-- Where an addition stands after another one, or itself, has moved. -/
theorem stage_move_eq_iff {j : ι} {s t : Stage} :
    (r.move i s).stage j = t ↔ (j = i ∧ s = t) ∨ (j ≠ i ∧ r.stage j = t) := by
  by_cases h : j = i
  · subst h
    simp
  · rw [stage_move_of_ne h]
    simp [h]

/-! ## The steps of one addition -/

/-- All that a step can do: nothing, a look-up without a find, a refusal, an insertion. -/
inductive Moves (quote : ι → Option String) (r : Race ι) (i : ι) : Race ι → Prop
  | finished {result : Except Duplicate Row} (hstage : r.stage i = .done result) : Moves quote r i r
  | checks (hstage : r.stage i = .waiting) : Moves quote r i (r.move i .checked)
  | refuses (hstage : ∀ result, r.stage i ≠ .done result)
      (hstored : ∀ q, quote i = some q → q ∈ r.table.quotes) :
      Moves quote r i (r.move i (.done (.error ⟨quote i⟩)))
  | inserts {q : String} (hstage : r.stage i = .checked) (hquote : quote i = some q)
      (hnew : q ∉ r.table.quotes) :
      Moves quote r i ⟨⟨r.table.rows ++ [⟨r.table.nextId, q⟩]⟩,
        (r.move i (.done (.ok ⟨r.table.nextId, q⟩))).stage⟩

theorem step_moves (quote : ι → Option String) (r : Race ι) (i : ι) :
    Moves quote r i (r.step quote i) := by
  unfold step
  cases hstage : r.stage i with
  | waiting =>
    simp only
    split
    · rename_i hfound
      refine .refuses (by rw [hstage]; nofun) fun q hquote => ?_
      rwa [hquote, Option.any_some, contains_iff] at hfound
    · exact .checks hstage
  | checked =>
    have hrefuses (hstored : ∀ q, quote i = some q → q ∈ r.table.quotes) :
        Moves quote r i (r.move i (.done (.error ⟨quote i⟩))) :=
      .refuses (by rw [hstage]; nofun) hstored
    cases hquote : quote i with
    | none =>
      rw [hquote] at hrefuses
      exact hrefuses nofun
    | some q =>
      rw [hquote] at hrefuses
      simp only [Option.bind_some]
      cases hinsert : r.table.insert? q with
      | none =>
        refine hrefuses fun q' hq' => ?_
        cases hq'
        by_contra hnew
        cases (insert?_eq_some_iff.2 ⟨hnew, rfl⟩).symm.trans hinsert
      | some added =>
        obtain ⟨hnew, rfl⟩ := insert?_eq_some_iff.1 hinsert
        exact .inserts hstage hquote hnew
  | done result => exact .finished hstage

/-- **An addition without others in between is the one of the store.** -/
theorem run_alone (table : Store) (q : Option String) (i : ι) :
    let last := (start table).run (fun _ => q) [i, i]
    last.stage i = .done ((table.add q).map Prod.fst) ∧ last.table = table.offer q := by
  cases q with
  | none => simp [run, step, start, move, add, offer, Except.map]
  | some q =>
    cases hfound : table.contains q with
    | true => simp [run, step, start, move, add, offer, Except.map, hfound]
    | false => simp [run, step, start, move, add, offer, Except.map, insert?, hfound]

/-- **An addition of the same quote in between** is the one that the store tells apart. -/
theorem run_overtaken (table : Store) (q : Option String) {i j : ι} (h : i ≠ j) :
    let last := (start table).run (fun _ => q) [i, j, j, i]
    last.stage i = .done (.error (table.addRaced q).1) ∧ last.table = (table.addRaced q).2 := by
  cases q with
  | none => simp [run, step, start, move, addRaced, h, h.symm]
  | some q =>
    cases hfound : table.contains q with
    | true => simp [run, step, start, move, addRaced, insert?, hfound, h, h.symm]
    | false =>
      have hthen : contains ⟨table.rows ++ [⟨table.nextId, q⟩]⟩ q = true := by
        rw [contains_iff, quotes_append]
        exact List.mem_append_right _ (List.mem_singleton.2 rfl)
      simp [run, step, start, move, addRaced, insert?, hfound, hthen, h, h.symm]

/-! ## What holds after any schedule -/

theorem row?_move_of_ne {j : ι} (h : j ≠ i) (s : Stage) : (r.move i s).row? j = r.row? j := by
  rw [row?, row?, stage_move_of_ne h]

theorem Reached.filterMap_row? (h : Reached quote table order r)
    (hstage : ∀ result, r.stage i ≠ .done result) (s : Stage) :
    order.filterMap (r.move i s).row? = order.filterMap r.row? :=
  List.filterMap_congr fun _ hj => row?_move_of_ne (h.ne_of_mem hstage hj) s

theorem Reached.returned_move (h : Reached quote table order r)
    (hstage : ∀ result, r.stage i ≠ .done result) (s : Stage) {j : ι} (hj : j ∈ order) :
    ∃ row, Returned quote (r.move i s) j row := by
  obtain ⟨row, hquote, hrow⟩ := h.returned j hj
  exact ⟨row, hquote, (stage_move_of_ne (h.ne_of_mem hstage hj) s).trans hrow⟩

/-- A step that does not insert leaves the table, and what it tells of a duplicate is so. -/
theorem Reached.quiet (h : Reached quote table order r) (hstage : ∀ result, r.stage i ≠ .done result)
    {s : Stage} (hs : ∀ row, s ≠ .done (.ok row))
    (hduplicate : ∀ d, s = .done (.error d) →
      d = ⟨quote i⟩ ∧ ∀ q, quote i = some q → q ∈ r.table.quotes) :
    Reached quote table order (r.move i s) := by
  refine ⟨h.distinct, ?_, fun j => h.returned_move hstage s, ?_, ?_⟩
  · rw [h.filterMap_row? hstage s]
    exact h.rows
  · intro j row hj
    rcases stage_move_eq_iff.1 hj with ⟨-, hrow⟩ | ⟨-, hj⟩
    · exact absurd hrow (hs row)
    · exact h.complete j row hj
  · intro j d hj
    rcases stage_move_eq_iff.1 hj with ⟨rfl, hd⟩ | ⟨-, hj⟩
    · exact hduplicate d hd
    · exact h.duplicate j d hj

/-- An insertion appends a quote that the table does not hold, whatever was looked up before. -/
theorem Reached.insert (h : Reached quote table order r) (hstage : r.stage i = .checked)
    (hquote : quote i = some q) (hnew : q ∉ r.table.quotes) :
    Reached quote table (order ++ [i]) ⟨⟨r.table.rows ++ [⟨r.table.nextId, q⟩]⟩,
      (r.move i (.done (.ok ⟨r.table.nextId, q⟩))).stage⟩ := by
  have hunfinished : ∀ result, r.stage i ≠ .done result := by rw [hstage]; nofun
  have hrow : (r.move i (.done (.ok ⟨r.table.nextId, q⟩))).row? i = some ⟨r.table.nextId, q⟩ :=
    row?_eq_some_iff.2 (stage_move_self _)
  refine ⟨nodup_quotes_append h.distinct hnew, ?_, ?_, ?_, ?_⟩
  · show r.table.rows ++ [_] =
      table.rows ++ (order ++ [i]).filterMap (r.move i (.done (.ok ⟨r.table.nextId, q⟩))).row?
    rw [List.filterMap_append, h.filterMap_row? hunfinished, h.rows, List.append_assoc,
      List.filterMap_cons_some hrow, List.filterMap_nil]
  · intro j hj
    rcases List.mem_append.1 hj with hj | hj
    · exact h.returned_move hunfinished _ hj
    · rw [List.mem_singleton.1 hj]
      exact ⟨_, hquote, stage_move_self _⟩
  · intro j row hj
    rcases stage_move_eq_iff.1 hj with ⟨rfl, -⟩ | ⟨-, hj⟩
    · exact List.mem_append_right _ (List.mem_singleton.2 rfl)
    · exact List.mem_append_left _ (h.complete j row hj)
  · intro j d hj
    rcases stage_move_eq_iff.1 hj with ⟨-, hd⟩ | ⟨-, hj⟩
    · cases hd
    · obtain ⟨hd, hstored⟩ := h.duplicate j d hj
      refine ⟨hd, fun q' hq' => ?_⟩
      rw [quotes_append]
      exact List.mem_append_left _ (hstored q' hq')

/-- **One step keeps what holds.** -/
theorem Reached.step (h : Reached quote table order r) (i : ι) :
    Reached quote table (order ++ r.inserted quote i) (r.step quote i) := by
  have hmoves := step_moves quote r i
  unfold inserted
  generalize r.step quote i = r' at hmoves ⊢
  cases hmoves with
  | finished hstage =>
    rw [if_neg (fun hboth => hboth.2 hboth.1), List.append_nil]
    exact h
  | checks hstage =>
    have hnone : (r.move i .checked).row? i = none := by simp [row?]
    rw [if_neg (fun hboth => hboth.2 hnone), List.append_nil]
    exact h.quiet (by rw [hstage]; nofun) nofun nofun
  | refuses hstage hstored =>
    have hnone : (r.move i (.done (.error ⟨quote i⟩))).row? i = none := by simp [row?]
    rw [if_neg (fun hboth => hboth.2 hnone), List.append_nil]
    refine h.quiet hstage nofun fun d hd => ?_
    cases hd
    exact ⟨rfl, hstored⟩
  | @inserts q hstage hquote hnew =>
    have hnone : r.row? i = none := by rw [row?, hstage]
    have hsome : (r.move i (.done (.ok ⟨r.table.nextId, q⟩))).row? i = some ⟨r.table.nextId, q⟩ :=
      row?_eq_some_iff.2 (stage_move_self _)
    rw [if_pos ⟨hnone, fun hnone' => nomatch hsome.symm.trans hnone'⟩]
    exact h.insert hstage hquote hnew

/-! ## Schedules -/

/-- **So does a whole schedule.** -/
theorem Reached.run (h : Reached quote table order r) (schedule : List ι) :
    Reached quote table (order ++ r.inserts quote schedule) (r.run quote schedule) := by
  induction schedule generalizing r order with
  | nil =>
    rw [inserts, List.append_nil]
    exact h
  | cons i schedule ih =>
    rw [inserts, ← List.append_assoc]
    exact ih (h.step i)

/-- Each step brings its addition further, and no other one back. -/
theorem progress_step (quote : ι → Option String) (r : Race ι) (i j : ι) :
    min 2 (r.progress i + [j].count i) ≤ (r.step quote j).progress i := by
  have hmoves := step_moves quote r j
  generalize r.step quote j = r' at hmoves ⊢
  by_cases hij : i = j
  · rw [hij, List.count_singleton_self]
    cases hmoves with
    | finished hstage => simp [progress, hstage]
    | checks hstage => simp [progress, hstage]
    | refuses => exact le_of_le_of_eq (Nat.min_le_left 2 _) (progress_of_done (stage_move_self _)).symm
    | inserts => exact le_of_le_of_eq (Nat.min_le_left 2 _) (progress_of_done (stage_move_self _)).symm
  · have hcount : [j].count i = 0 := List.count_eq_zero.2 (by simpa using hij)
    have hstage : r'.stage i = r.stage i := by
      cases hmoves with
      | finished => rfl
      | checks => exact stage_move_of_ne hij _
      | refuses => exact stage_move_of_ne hij _
      | inserts => exact stage_move_of_ne hij _
    simp only [progress, hstage, hcount]
    omega

/-- Two steps bring every addition to its end. -/
theorem progress_run (quote : ι → Option String) (r : Race ι) (schedule : List ι) (i : ι) :
    min 2 (r.progress i + schedule.count i) ≤ (r.run quote schedule).progress i := by
  induction schedule generalizing r with
  | nil => exact Nat.min_le_right _ _
  | cons j schedule ih =>
    have hstep := r.progress_step quote i j
    have hrest : min 2 ((r.step quote j).progress i + schedule.count i) ≤
        (r.run quote (j :: schedule)).progress i := ih (r.step quote j)
    have hcount : (j :: schedule).count i = [j].count i + schedule.count i := by
      rw [← List.count_append, List.singleton_append]
    omega

/-- **Additions at the same time are safe**, however many there are, of whatever quotes and on whatever
schedule. No quote is stored twice. The rows at first stay as they are, and after them come the rows of
the additions that have returned one, in the order of their insertions, each with the quote of its
addition. An addition that has taken two steps is done, and what does not return a row is told that its
quote is a duplicate. Of the additions of a quote that was stored at first none returns a row; of those
of a new quote exactly one does as soon as any of them is done. -/
theorem run_safe (quote : ι → Option String) (table : Store) (hdistinct : table.quotes.Nodup)
    (schedule : List ι) :
    let first : Race ι := start table
    let last := first.run quote schedule
    let order := first.inserts quote schedule
    last.table.quotes.Nodup ∧
      last.table.rows = table.rows ++ order.filterMap last.row? ∧
      last.table.quotes.map some = table.quotes.map some ++ order.map quote ∧
      (∀ i, i ∈ order ↔ ∃ row, last.stage i = .done (.ok row)) ∧
      (∀ i row, last.stage i = .done (.ok row) → quote i = some row.quote) ∧
      (∀ i d, last.stage i = .done (.error d) → d = ⟨quote i⟩) ∧
      (∀ i, 2 ≤ schedule.count i → ∃ result, last.stage i = .done result) ∧
      (∀ q ∈ table.quotes, ∀ i row, quote i = some q → last.stage i ≠ .done (.ok row)) ∧
      ∀ q ∉ table.quotes, (∃ i result, quote i = some q ∧ last.stage i = .done result) →
        ∃! i, quote i = some q ∧ ∃ row, last.stage i = .done (.ok row) := by
  intro first last order
  have hfirst : Reached quote table [] first :=
    ⟨hdistinct, (List.append_nil _).symm, nofun, nofun, nofun⟩
  have h : Reached quote table order last := hfirst.run schedule
  have hreturned : ∀ i row, last.stage i = .done (.ok row) → quote i = some row.quote := by
    intro i row hstage
    obtain ⟨row', hquote, hstage'⟩ := h.returned i (h.complete i row hstage)
    cases hstage.symm.trans hstage'
    exact hquote
  refine ⟨h.distinct, h.rows, h.map_quotes, fun i => ⟨fun hi => ?_, fun ⟨row, hrow⟩ => h.complete i row hrow⟩,
    hreturned, fun i d hd => (h.duplicate i d hd).1, fun i hcount => ?_,
    fun q hold i row hquote => h.not_returned hold hquote row, ?_⟩
  · obtain ⟨row, -, hrow⟩ := h.returned i hi
    exact ⟨row, hrow⟩
  · have hprogress : min 2 (first.progress i + schedule.count i) ≤ last.progress i :=
      progress_run quote first schedule i
    exact exists_done_of_progress (by omega)
  · rintro q hnew ⟨i, result, hquote, hstage⟩
    exact h.existsUnique_returned hnew hquote hstage

/-- Two additions look up the same new quote before either inserts it, and the second to look is the
first to insert. -/
theorem run_safe_overtaken :
    let quote : ℕ → Option String := fun i => if i = 2 then some "Carpe diem." else some "Festina lente."
    let table := ofQuotes ["Carpe diem."]
    let last := (start table).run quote [0, 1, 2, 1, 0]
    table.quotes.Nodup ∧ last.table.quotes.map some = [some "Carpe diem.", some "Festina lente."] ∧
      (∃ row, last.stage 1 = .done (.ok row)) ∧
      (∃! i, quote i = some "Festina lente." ∧ ∃ row, last.stage i = .done (.ok row)) ∧
      ∀ row, last.stage 2 ≠ .done (.ok row) := by
  intro quote table
  have htable : table.quotes = ["Carpe diem."] := (ofQuotes_sound (by decide)).1
  have hdistinct : table.quotes.Nodup := by rw [htable]; decide
  have horder : (start table).inserts quote [0, 1, 2, 1, 0] = [1] := by decide
  have hsafe := run_safe quote table hdistinct [0, 1, 2, 1, 0]
  dsimp only at hsafe ⊢
  rw [horder] at hsafe
  -- what the run is does not matter any more
  generalize (start table).run quote [0, 1, 2, 1, 0] = last at hsafe ⊢
  obtain ⟨-, -, hquotes, hmem, -, -, hdone, hold, hnew⟩ := hsafe
  rw [htable] at hquotes hold hnew
  obtain ⟨result, hresult⟩ := hdone 0 (by decide)
  have hone := hnew "Festina lente." (by decide) ⟨0, result, rfl, hresult⟩
  have hnone := hold "Carpe diem." List.mem_cons_self 2
  exact ⟨hdistinct, hquotes, (hmem 1).1 List.mem_cons_self, hone, fun row => hnone row rfl⟩

end Race

end QuoteService.Store
