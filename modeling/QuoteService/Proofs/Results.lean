import Mathlib.Data.List.Forall2

/-!
# Results that may be errors

* `bind_eq_ok_iff`, `map_eq_ok_iff`, `mapError_eq_ok_iff`: what the parts of a chain have given where the
  chain is no error.
* `bind_eq_error_iff`, `mapError_eq_error_iff`: which part it was where the chain is one.
* `mapM_eq_ok_iff`, `mapM_eq_error_iff`: the same of a list of things of one kind.
-/

namespace QuoteService

variable {ε ε' α β : Type} {x : Except ε α}

/-- **A chain gives a value just if its first step gives one and the rest goes on from there.** -/
theorem bind_eq_ok_iff {f : α → Except ε β} {b : β} :
    x >>= f = .ok b ↔ ∃ a, x = .ok a ∧ f a = .ok b := by
  cases x with
  | error fault =>
    constructor
    · intro h
      cases h
    · rintro ⟨a, h, -⟩
      cases h
  | ok a =>
    constructor
    · intro h
      exact ⟨a, rfl, h⟩
    · rintro ⟨a', h, hrest⟩
      cases h
      exact hrest

theorem map_eq_ok_iff {f : α → β} {b : β} : x.map f = .ok b ↔ ∃ a, x = .ok a ∧ f a = b := by
  have hchain : x.map f = x >>= fun a => .ok (f a) := by
    cases x with
    | error fault => rfl
    | ok a => rfl
  rw [hchain, bind_eq_ok_iff]
  simp only [Except.ok.injEq]

/-- Telling an error in another way makes no value of it. -/
theorem mapError_eq_ok_iff {f : ε → ε'} {a : α} : x.mapError f = .ok a ↔ x = .ok a := by
  cases x with
  | error fault =>
    constructor
    · intro h
      cases h
    · intro h
      cases h
  | ok a' =>
    constructor
    · intro h
      cases h
      rfl
    · intro h
      cases h
      rfl

/-- **A chain is an error just if its first step is, or the rest after what that gave.** -/
theorem bind_eq_error_iff {f : α → Except ε β} {e : ε} :
    x >>= f = .error e ↔ x = .error e ∨ ∃ a, x = .ok a ∧ f a = .error e := by
  cases x with
  | error fault =>
    constructor
    · intro h
      cases h
      exact .inl rfl
    · rintro (h | ⟨a, h, -⟩)
      · cases h
        rfl
      · cases h
  | ok a =>
    constructor
    · intro h
      exact .inr ⟨a, rfl, h⟩
    · rintro (h | ⟨a', h, hrest⟩)
      · cases h
      · cases h
        exact hrest

theorem mapError_eq_error_iff {f : ε → ε'} {e' : ε'} :
    x.mapError f = .error e' ↔ ∃ e, x = .error e ∧ f e = e' := by
  cases x with
  | error fault =>
    constructor
    · intro h
      cases h
      exact ⟨fault, rfl, rfl⟩
    · rintro ⟨e, h, rfl⟩
      cases h
      rfl
  | ok a => exact ⟨nofun, nofun⟩

/-- **A list is done just if each of its members is**, one after another. -/
theorem mapM_eq_ok_iff {f : α → Except ε β} {as : List α} {bs : List β} :
    as.mapM f = .ok bs ↔ List.Forall₂ (fun a b => f a = .ok b) as bs := by
  induction as generalizing bs with
  | nil =>
    constructor
    · intro h
      cases h
      exact .nil
    · intro h
      cases h
      rfl
  | cons a as ih =>
    rw [List.mapM_cons, bind_eq_ok_iff]
    constructor
    · rintro ⟨b, hb, hrest⟩
      obtain ⟨bs', hbs', hdone⟩ := bind_eq_ok_iff.1 hrest
      cases hdone
      exact .cons hb (ih.1 hbs')
    · rintro (_ | ⟨hb, hbs⟩)
      exact ⟨_, hb, bind_eq_ok_iff.2 ⟨_, ih.2 hbs, rfl⟩⟩

/-- **A list stops at the first of its members that is an error.** -/
theorem mapM_eq_error_iff {f : α → Except ε β} {as : List α} {e : ε} :
    as.mapM f = .error e ↔ ∃ done a rest, as = done ++ a :: rest ∧
      (∀ a' ∈ done, ∃ b, f a' = .ok b) ∧ f a = .error e := by
  induction as with
  | nil =>
    constructor
    · intro h
      cases h
    · rintro ⟨done, a, rest, h, -⟩
      cases done <;> cases h
  | cons a as ih =>
    rw [List.mapM_cons, bind_eq_error_iff]
    constructor
    · rintro (h | ⟨b, hb, hrest⟩)
      · exact ⟨[], a, as, rfl, nofun, h⟩
      · rcases bind_eq_error_iff.1 hrest with h | ⟨_, _, h⟩
        · obtain ⟨done, a', rest, rfl, hdone, ha'⟩ := ih.1 h
          refine ⟨a :: done, a', rest, rfl, fun d hd => ?_, ha'⟩
          rcases List.mem_cons.1 hd with rfl | hd
          · exact ⟨b, hb⟩
          · exact hdone d hd
        · cases h
    · rintro ⟨done, a', rest, h, hdone, ha'⟩
      cases done with
      | nil =>
        cases h
        exact .inl ha'
      | cons d done =>
        cases h
        obtain ⟨b, hb⟩ := hdone a List.mem_cons_self
        refine .inr ⟨b, hb, bind_eq_error_iff.2 (.inl (ih.2 ⟨done, a', rest, rfl, ?_, ha'⟩))⟩
        exact fun d hd => hdone d (List.mem_cons_of_mem a hd)

end QuoteService
