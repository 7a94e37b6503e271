import QuoteService.CommandLine.Arguments
import QuoteService.Proofs.Text.Numerals

/-!
# Flags with values behind them

* `IsPlain`: an argument that is no flag: `isPlain_of_head`, `isPlain_intDigits`.
* `spelled`: settings by their letters, each with its value behind it.
* `readSettings_spelled`: **settings that are spelled out are read**, each by its kind, in their order.
* `readProgram_spelled`: so the command of a program gets those values, or refuses the first that its
  kind does not take.
-/

namespace QuoteService.CommandLine

variable {flags : List Flag} {arg : List Char}

/-! ## Plain arguments -/

/-- An argument that is no flag and does not separate flags from what is none. -/
structure IsPlain (flags : List Flag) (arg : List Char) : Prop where
  notSeparator : arg ≠ separator
  classify_eq : classify flags arg = .ok .plain

/-- An argument that does not start with a hyphen is plain, even an empty one. -/
theorem isPlain_of_head (h : arg.head? ≠ some '-') : IsPlain flags arg where
  notSeparator := by
    rintro rfl
    exact h rfl
  classify_eq := by rw [classify, if_pos h]

/-- Flags none of which could be a number: no spelling has a digit behind its hyphen. -/
def SpellsNoNumber (flags : List Flag) : Prop :=
  ∀ s ∈ Flag.spellings flags, ∀ d ∈ s.1[1]?, Text.isDigit d = false

instance (flags : List Flag) : Decidable (SpellsNoNumber flags) :=
  decidable_of_iff
    (((Flag.spellings flags).all fun s => s.1[1]?.all fun d => !Text.isDigit d) = true) (by
      simp only [SpellsNoNumber, List.all_eq_true, Option.all_eq_true, Bool.not_eq_true', Option.mem_def])

theorem cutEquals_of_notMem {cs : List Char} (h : '=' ∉ cs) : cutEquals cs = (cs, none) := by
  have hdrop : cs.dropWhile (· != '=') = [] := by
    rw [List.dropWhile_eq_nil_iff]
    intro c hc
    simpa using fun heq : c = '=' => h (heq ▸ hc)
  rw [cutEquals, hdrop]

/-- Digits with a minus sign in front are a number. -/
theorem isNegativeNumber_cons {d : Char} {ds : List Char}
    (h : ∀ c ∈ d :: ds, Text.isDigit c = true) : isNegativeNumber ('-' :: d :: ds) = true := by
  have hlast : (d :: ds).getLast? ≠ some '\n' := by
    intro heq
    have hdigit := h '\n' (List.mem_of_getLast? heq)
    exact absurd hdigit (by decide)
  have hall : (d :: ds).all (fun c => (Text.anyDigitValue? c).isSome) = true := by
    rw [List.all_eq_true]
    intro c hc
    exact Text.isAnyDigit_of_isDigit (h c hc)
  simp only [isNegativeNumber, List.drop_one, List.tail_cons, if_neg hlast, hall, List.head?_cons,
    List.isEmpty_cons, Bool.not_false, Bool.true_or, Bool.and_true, beq_self_eq_true]

/-- **A number with a minus sign is plain** where no flag could be a number. -/
theorem isPlain_negative (hflags : SpellsNoNumber flags) {d : Char} {ds : List Char}
    (h : ∀ c ∈ d :: ds, Text.isDigit c = true) : IsPlain flags ('-' :: d :: ds) where
  notSeparator := by
    intro heq
    obtain rfl : d = '-' := (List.cons.inj (List.cons.inj heq).2).1
    exact absurd (h '-' List.mem_cons_self) (by decide)
  classify_eq := by
    have hd : Text.isDigit d = true := h d List.mem_cons_self
    -- a spelling that starts as the number does would have its digit
    have hspelling : ∀ s ∈ Flag.spellings flags, s.1[1]? ≠ some d := by
      intro s hs heq
      have hno := hflags s hs d heq
      rw [hd] at hno
      cases hno
    have hequals : '=' ∉ '-' :: d :: ds := by
      intro hmem
      rcases List.mem_cons.1 hmem with heq | hmem
      · exact absurd heq (by decide)
      · exact absurd (h '=' hmem) (by decide)
    have hfind : (Flag.spellings flags).find? (fun s => s.1 = '-' :: d :: ds) = none := by
      rw [List.find?_eq_none]
      intro s hs heq
      apply hspelling s hs
      rw [of_decide_eq_true heq]
      rfl
    have hlong : isLongSpelling ('-' :: d :: ds) = false := by
      have hne : d ≠ '-' := by
        rintro rfl
        exact absurd hd (by decide)
      have hhyphen : ('-' == d) = false := beq_eq_false_iff_ne.2 (Ne.symm hne)
      rw [isLongSpelling, List.isPrefixOf_cons_cons, List.isPrefixOf_cons_cons, hhyphen]
      rfl
    have hcandidates : candidates flags ('-' :: d :: ds) = [] := by
      rw [candidates, hlong, if_neg Bool.false_ne_true, List.filterMap_eq_nil_iff]
      intro s hs
      apply if_neg
      intro heq
      apply hspelling s hs
      rw [heq]
      rfl
    rw [classify, if_neg (by simp)]
    simp only [cutEquals_of_notMem hequals, hfind, hcandidates, isNegativeNumber_cons h,
      Option.map_none, Option.isSome_none, Bool.false_eq_true, if_false, Bool.true_or, if_true]

/-- **A written integer is plain.** -/
theorem isPlain_intDigits (hflags : SpellsNoNumber flags) (n : ℤ) :
    IsPlain flags (Text.intDigits n) := by
  have hdigits := Text.digitValue?_of_mem_digits n.natAbs
  cases hcs : Text.digits n.natAbs with
  | nil => exact absurd hcs (Text.digits_ne_nil _)
  | cons d ds =>
    rw [hcs] at hdigits
    rw [Text.intDigits_eq_signed, hcs, Text.signed]
    split
    · exact isPlain_negative hflags hdigits
    · apply isPlain_of_head
      intro heq
      obtain rfl : d = '-' := Option.some.inj heq
      exact absurd (hdigits '-' List.mem_cons_self) (by decide)

/-! ## Settings that are spelled out -/

/-- A setting with the value that is given to it. -/
abbrev Assignment := Setting × List Char

/-- The arguments that give values to settings: the letter of each, and its value behind it. -/
def spelled (es : List Assignment) : List (List Char) :=
  es.flatMap fun e => [(Flag.setting e.1).short, e.2]

/-- What those arguments are. -/
def spelledItems (es : List Assignment) : List (List Char × Kind) :=
  es.flatMap fun e =>
    [((Flag.setting e.1).short, .flag (.setting e.1) false none), (e.2, .plain)]

/-- The values that assignments give, each read by the kind of its setting. -/
def readAssignments : List Assignment → Except UsageError Values
  | [] => .ok []
  | e :: es => do
    let value ← readValue e.1 e.2
    let values ← readAssignments es
    pure ((e.1.name, value) :: values)

/-- Assignments whose letters are known here and whose values are plain. -/
structure AreSpelled (flags : List Flag) (es : List Assignment) : Prop where
  letters : ∀ e ∈ es, (Flag.setting e.1).short ≠ separator ∧
    classify flags (Flag.setting e.1).short = .ok (.flag (.setting e.1) false none)
  values : ∀ e ∈ es, IsPlain flags e.2

theorem AreSpelled.tail {e : Assignment} {es : List Assignment} (h : AreSpelled flags (e :: es)) :
    AreSpelled flags es where
  letters := fun e' he' => h.letters e' (List.mem_cons_of_mem e he')
  values := fun e' he' => h.values e' (List.mem_cons_of_mem e he')

theorem classifyAll_spelled : ∀ es : List Assignment, AreSpelled flags es →
    classifyAll flags (spelled es) = .ok (spelledItems es) := by
  intro es
  induction es with
  | nil =>
    intro _
    rfl
  | cons e es ih =>
    intro h
    obtain ⟨hletter, hflag⟩ := h.letters e List.mem_cons_self
    obtain ⟨hvalue, hplain⟩ := h.values e List.mem_cons_self
    have hrest := ih h.tail
    have hsplit : spelled (e :: es) =
        (Flag.setting e.1).short :: e.2 :: spelled es := rfl
    rw [hsplit, classifyAll, if_neg hletter, hflag, classifyAll, if_neg hvalue, hplain, hrest]
    rfl

theorem gather_spelled : ∀ es : List Assignment,
    gather flags (spelledItems es) = (readAssignments es).map fun vs => .values vs [] := by
  intro es
  induction es with
  | nil => rfl
  | cons e es ih =>
    have hsplit : spelledItems (e :: es) =
        ((Flag.setting e.1).short, .flag (.setting e.1) false none) :: (e.2, .plain) ::
          spelledItems es := rfl
    -- a flag takes the argument behind it, so two arguments go at a time
    rw [hsplit, gather, ih, readAssignments]
    cases readValue e.1 e.2 with
    | error fault => rfl
    | ok value =>
      cases readAssignments es with
      | error fault => rfl
      | ok values => rfl

/-- **Settings that are spelled out are read**, in their order. -/
theorem readSettings_spelled {c : Command} {es : List Assignment} (h : AreSpelled c.flags es) :
    readSettings c (spelled es) = (readAssignments es).bind fun vs =>
      if missing c.settings vs = [] then .ok (.values vs [])
      else .error (.required (missing c.settings vs)) := by
  rw [readSettings, classifyAll_spelled es h]
  simp only [bind, Except.bind, gather_spelled]
  cases readAssignments es with
  | error fault => rfl
  | ok values => rfl

/-! ## The command in front -/

/-- Arguments that are each something make a list of what they are. -/
theorem classifyAll_ok : ∀ args : List (List Char),
    (∀ a ∈ args, ∃ kind, classify flags a = .ok kind) →
      ∃ items, classifyAll flags args = .ok items ∧ items.map (·.1) = args := by
  intro args
  induction args with
  | nil =>
    intro _
    exact ⟨[], rfl, rfl⟩
  | cons a args ih =>
    intro h
    rw [classifyAll]
    split
    · -- behind a separator every argument is plain
      refine ⟨_, rfl, ?_⟩
      rw [List.map_cons, List.map_map]
      exact congrArg (a :: ·) (List.map_id args)
    · obtain ⟨kind, hkind⟩ := h a List.mem_cons_self
      obtain ⟨items, hitems, hargs⟩ := ih fun a' ha' => h a' (List.mem_cons_of_mem a ha')
      rw [hkind, hitems]
      exact ⟨(a, kind) :: items, rfl, by rw [List.map_cons, hargs]⟩

/-- A command with its arguments behind it is read as that command. -/
theorem read_cons {p : Program} {name : List Char} {args : List (List Char)}
    (hname : IsPlain [.help] name) (hargs : ∀ a ∈ args, ∃ kind, classify [.help] a = .ok kind) :
    p.read (name :: args) = p.readCommand [] name args := by
  obtain ⟨items, hitems, hmap⟩ := classifyAll_ok args hargs
  rw [Program.read, classifyAll, if_neg hname.notSeparator, hname.classify_eq, hitems]
  show p.readFrom [] ((name, .plain) :: items) = _
  rw [Program.readFrom, hmap]

/-- **The command of a program gets the values that are spelled out behind it**, or refuses the first
one that its kind does not take. -/
theorem readProgram_spelled {p : Program} {c : Command} {es : List Assignment}
    (hcommand : p.command? c.name.toList = some c) (hname : IsPlain [.help] c.name.toList)
    (hletters : ∀ e ∈ es, ∃ kind, classify [.help] (Flag.setting e.1).short = .ok kind)
    (hvalues : ∀ e ∈ es, IsPlain [.help] e.2) (h : AreSpelled c.flags es)
    (hmissing : ∀ vs, readAssignments es = .ok vs → missing c.settings vs = []) :
    p.read (c.name.toList :: spelled es) =
      match readAssignments es with
      | .error fault => .refused (p.commandUsage c) (p.nameOf c) fault
      | .ok vs => .run c.name vs := by
  have hargs : ∀ a ∈ spelled es, ∃ kind, classify [.help] a = .ok kind := by
    intro a ha
    obtain ⟨e, he, ha⟩ := List.mem_flatMap.1 ha
    rcases List.mem_cons.1 ha with rfl | ha
    · exact hletters e he
    · obtain rfl := List.mem_singleton.1 ha
      exact ⟨_, (hvalues e he).classify_eq⟩
  rw [read_cons hname hargs, Program.readCommand, hcommand]
  simp only [readSettings_spelled h]
  cases hread : readAssignments es with
  | error fault => rfl
  | ok vs =>
    simp only [Except.bind, hmissing vs hread, if_true]
    rfl

end QuoteService.CommandLine
