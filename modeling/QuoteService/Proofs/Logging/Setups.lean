import Mathlib.Data.List.Basic
import QuoteService.Logging.Setup

/-!
# Setting up a logger again and again

Whatever names the setups of a logger are called with, it has one handler after the first of them, and the
threshold of the last name that was taken.

* `Threshold.IsNamed`: the names of a threshold, in any letter case.
* `LoggerState.SetUp`: what one setup does, taken or refused.
* `LoggerState.after`, `LoggerState.taken`: the state after setups in a row, and the names that they took.
* `LoggerState.handlers_after`: **the first setup attaches the handler, and no later one adds to it.**
* `LoggerState.threshold_after`: **the threshold is that of the last name that was taken.**
* `LoggerState.configure_history`: **so it is after every prefix of every sequence of setups.**
-/

namespace QuoteService

/-! ## Names of thresholds -/

/-- A name is one of those of a threshold, in some letter case. -/
def Threshold.IsNamed (threshold : Threshold) (name : Text) : Prop :=
  ∃ known, (known, threshold) ∈ thresholdNames ∧ Text.upperText name = Text.ofString known

variable {threshold : Threshold} {name : Text}

/-- A name that is known is the name of one threshold. -/
theorem find?_thresholdNames {entry : String × Threshold} (h : entry ∈ thresholdNames) :
    thresholdNames.find? (fun n => Text.ofString n.1 = Text.ofString entry.1) = some entry := by
  revert entry
  decide

theorem Threshold.ofName_eq_ok_iff :
    Threshold.ofName name = .ok threshold ↔ threshold.IsNamed name := by
  constructor
  · intro h
    unfold ofName at h
    extract_lets upper at h
    split at h
    · rename_i known found hfind
      cases h
      have hsame := List.find?_some hfind
      exact ⟨known, List.mem_of_find?_eq_some hfind, (of_decide_eq_true hsame).symm⟩
    · cases h
  · rintro ⟨known, hmem, hname⟩
    have hfind := find?_thresholdNames hmem
    rw [ofName]
    simp only [hname, hfind]

theorem Threshold.ofName_eq_error {fault : UnknownLevel} (h : Threshold.ofName name = .error fault) :
    fault = ⟨Text.upperText name⟩ := by
  unfold ofName at h
  extract_lets upper at h
  split at h
  · cases h
  · exact (Except.error.inj h).symm

namespace LoggerState

variable {s : LoggerState} {level : Text} {levels : List Text}

/-! ## The handler -/

theorem mem_attach (s : LoggerState) : handlerName ∈ s.attach.handlers := by
  unfold attach
  split
  · rename_i hmem
    exact List.contains_iff_mem.1 hmem
  · exact List.mem_append_right _ (List.mem_singleton_self _)

theorem attach_of_mem (h : handlerName ∈ s.handlers) : s.attach = s := by
  rw [attach, if_pos (List.contains_iff_mem.2 h)]

theorem attach_attach (s : LoggerState) : s.attach.attach = s.attach := attach_of_mem s.mem_attach

/-- The threshold has nothing to do with what is attached. -/
theorem attach_with (s : LoggerState) (threshold : Threshold) :
    LoggerState.attach { s with threshold } = { s.attach with threshold } := by
  unfold attach
  split <;> rfl

theorem threshold_attach (s : LoggerState) : s.attach.threshold = s.threshold := by
  unfold attach
  split <;> rfl

/-! ## One setup -/

/-- What one setup does to the threshold: it takes the name of one, or refuses a name that none has and
leaves it as it was. -/
inductive SetUp (s : LoggerState) (level : Text) (next : LoggerState) :
    Except UnknownLevel Unit → Prop
  | taken (hnamed : next.threshold.IsNamed level) : SetUp s level next (.ok ())
  | refused (hnone : ∀ threshold : Threshold, ¬threshold.IsNamed level)
      (hkept : next.threshold = s.threshold) : SetUp s level next (.error ⟨Text.upperText level⟩)

theorem configure_setUp (s : LoggerState) (level : Text) :
    SetUp s level (s.configure level).1 (s.configure level).2 := by
  unfold configure
  split
  · rename_i threshold hname
    exact .taken (Threshold.ofName_eq_ok_iff.1 hname)
  · rename_i fault hname
    obtain rfl := Threshold.ofName_eq_error hname
    refine .refused ?_ s.threshold_attach
    intro threshold hnamed
    rw [Threshold.ofName_eq_ok_iff.2 hnamed] at hname
    cases hname

/-- Taken or refused, a setup attaches the handler. -/
theorem handlers_configure (s : LoggerState) (level : Text) :
    (s.configure level).1.handlers = s.attach.handlers := by
  unfold configure
  split <;> rfl

/-- After a setup the handler is attached, so that it is not attached again. -/
theorem attach_configure (s : LoggerState) (level : Text) :
    (s.configure level).1.attach = (s.configure level).1 := by
  refine attach_of_mem ?_
  rw [handlers_configure]
  exact s.mem_attach

/-- **The same setup once more changes nothing** and ends in the same way. -/
theorem configure_configure (s : LoggerState) (level : Text) :
    (s.configure level).1.configure level = s.configure level := by
  cases hname : Threshold.ofName level with
  | ok threshold => simp only [configure, hname, attach_with, attach_attach]
  | error fault => simp only [configure, hname, attach_attach]

/-! ## Setups in a row -/

/-- The state after some setups in a row. -/
def after (s : LoggerState) (levels : List Text) : LoggerState :=
  levels.foldl (fun s level => (s.configure level).1) s

/-- The names that some setups in a row took, in their order: those of the setups that did not fail. -/
def taken (s : LoggerState) : List Text → List Text
  | [] => []
  | level :: levels =>
    match (s.configure level).2 with
    | .ok () => level :: (s.configure level).1.taken levels
    | .error _ => (s.configure level).1.taken levels

theorem taken_cons_ok (h : (s.configure level).2 = .ok ()) :
    s.taken (level :: levels) = level :: (s.configure level).1.taken levels := by
  rw [taken, h]

theorem taken_cons_error {fault : UnknownLevel} (h : (s.configure level).2 = .error fault) :
    s.taken (level :: levels) = (s.configure level).1.taken levels := by
  rw [taken, h]

theorem after_cons (s : LoggerState) (level : Text) (levels : List Text) :
    s.after (level :: levels) = (s.configure level).1.after levels := rfl

theorem after_succ {n : ℕ} (h : levels[n]? = some level) :
    s.after (levels.take (n + 1)) = ((s.after (levels.take n)).configure level).1 := by
  rw [after, List.take_add_one, h, Option.toList_some, List.foldl_append]
  rfl

/-- **The first setup attaches the handler, and no later one adds to it.** -/
theorem handlers_after (h : levels ≠ []) : (s.after levels).handlers = s.attach.handlers := by
  induction levels generalizing s with
  | nil => exact absurd rfl h
  | cons level levels ih =>
    have hfirst := s.handlers_configure level
    cases levels with
    | nil => exact hfirst
    | cons next levels =>
      have hrest := ih (s := (s.configure level).1) (List.cons_ne_nil _ _)
      rw [attach_configure, hfirst] at hrest
      exact hrest

/-- **The threshold is that of the last name that was taken.** Where none was taken it is as it was. -/
theorem threshold_after (s : LoggerState) (levels : List Text) :
    (s.taken levels = [] → (s.after levels).threshold = s.threshold) ∧
      ∀ last, (s.taken levels).getLast? = some last → (s.after levels).threshold.IsNamed last := by
  induction levels generalizing s with
  | nil => exact ⟨fun _ => rfl, nofun⟩
  | cons level levels ih =>
    have hsetUp := s.configure_setUp level
    obtain ⟨hkept, hlast⟩ := ih (s.configure level).1
    rw [after_cons]
    generalize houtcome : (s.configure level).2 = outcome at hsetUp
    cases hsetUp with
    | taken hnamed =>
      rw [taken_cons_ok houtcome]
      refine ⟨nofun, fun last hend => ?_⟩
      -- the first name is the last one just if no later one is taken
      cases hlater : (s.configure level).1.taken levels with
      | nil =>
        rw [hlater] at hend
        obtain rfl : level = last := Option.some.inj hend
        rw [hkept hlater]
        exact hnamed
      | cons later rest =>
        rw [hlater, List.getLast?_cons_cons, ← hlater] at hend
        exact hlast last hend
    | refused _ hsame =>
      rw [taken_cons_error houtcome]
      exact ⟨fun hnone => (hkept hnone).trans hsame, hlast⟩

/-- **Setting up is idempotent over any history.** Take setups of a fresh logger with any names in a row,
and look at it after any of them. That setup took a name and its threshold, or refused a name that no
threshold has and left the threshold as it was. There is just the one handler, also if all names so far
were refused. The level that counts is that of the last name that was taken; it is the root's where none
was taken, or where that name means that none is set. And the same setup once more would change nothing. -/
theorem configure_history (levels : List Text) {n : ℕ} {level : Text} (h : levels[n]? = some level) :
    let before := initial.after (levels.take n)
    let now := initial.after (levels.take (n + 1))
    let outcome := (before.configure level).2
    let taken := initial.taken (levels.take (n + 1))
    ((outcome = .ok () ∧ now.threshold.IsNamed level) ∨
      (outcome = .error ⟨Text.upperText level⟩ ∧ (∀ threshold : Threshold, ¬threshold.IsNamed level) ∧
        now.threshold = before.threshold)) ∧
    now.handlers = [handlerName] ∧
    (taken = [] → now.effective.name = "WARNING") ∧
    (∀ last, taken.getLast? = some last → ∃ threshold : Threshold, threshold.IsNamed last ∧
      now.effective.name = (threshold.getD .warning).name) ∧
    now.configure level = (now, outcome) := by
  intro before now outcome taken
  have hnow : now = (before.configure level).1 := after_succ h
  obtain ⟨hkept, hlast⟩ := initial.threshold_after (levels.take (n + 1))
  refine ⟨?_, ?_, ?_, ?_, ?_⟩
  · have hsetUp := before.configure_setUp level
    rw [← hnow] at hsetUp
    generalize houtcome : (before.configure level).2 = ended at hsetUp
    cases hsetUp with
    | taken hnamed => exact .inl ⟨houtcome, hnamed⟩
    | refused hnone hsame => exact .inr ⟨houtcome, hnone, hsame⟩
  · have hne : levels.take (n + 1) ≠ [] := by
      rw [List.take_add_one, h]
      exact List.append_ne_nil_of_right_ne_nil _ (List.cons_ne_nil _ _)
    exact handlers_after hne
  · intro hnone
    rw [effective, hkept hnone]
    rfl
  · intro last hend
    exact ⟨now.threshold, hlast last hend, rfl⟩
  · rw [hnow, configure_configure]

/-- Of four names two are taken, the second of them with a letter whose upper case is that of `i`; the others
leave neither a second handler nor another level. -/
theorem configure_history_dotless :
    let levels := ["fatal", "verbose", "ınfo", "trace"].map Text.ofString
    let trace := Text.ofString "trace"
    let now := initial.after levels
    levels[3]? = some trace ∧ now.handlers = [handlerName] ∧ now.effective.name = "INFO" ∧
      now.configure trace = (now, .error ⟨Text.ofString "TRACE"⟩) := by
  intro levels trace now
  have hcall : levels[3]? = some trace := rfl
  have htaken : (initial.taken (levels.take 4)).getLast? = some (Text.ofString "ınfo") := by
    decide +kernel
  have hname : Threshold.ofName (Text.ofString "ınfo") = .ok (some .info) := by
    decide +kernel
  have hupper : Text.upperText trace = Text.ofString "TRACE" := by decide
  have hrefused : Threshold.ofName trace = .error ⟨Text.ofString "TRACE"⟩ := by decide
  obtain ⟨hended, hhandlers, -, hlevel, hagain⟩ := configure_history levels hcall
  obtain ⟨threshold, hnamed, heffective⟩ := hlevel _ htaken
  obtain rfl : threshold = some .info :=
    Except.ok.inj ((Threshold.ofName_eq_ok_iff.2 hnamed).symm.trans hname)
  refine ⟨hcall, hhandlers, heffective, ?_⟩
  rcases hended with ⟨-, hnamed⟩ | ⟨houtcome, -, -⟩
  · cases (Threshold.ofName_eq_ok_iff.2 hnamed).symm.trans hrefused
  · rw [houtcome, hupper] at hagain
    exact hagain

end LoggerState

end QuoteService
