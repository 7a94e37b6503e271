import Mathlib.Data.List.Basic
import QuoteService.Proofs.Text.LetterCase
import QuoteService.Token.Audience

/-!
# Letter case and the slash of an audience

* `lower_joinPath`: the lower case of host and path.
* `lower_joinPath_eq_iff`: audiences of one host are the same up to letter case exactly if their paths
  are.
* `lower_joinPath_eq_iff_hosts`: audiences of two hosts without slashes are the same up to letter case
  exactly if both hosts and paths are.
* `lower_joinPath_extension`: a path that is continued has another audience.
-/

namespace QuoteService.Token

variable {host host' path path' : List Char}

theorem lower_joinPath (host path : List Char) : Text.lower (joinPath host path) =
    Text.lower (dropTrailingSlash host) ++ '/' :: Text.lower (dropLeadingSlash path) :=
  Text.lower_append_slash _ _

/-- **Audiences of one host are the same up to letter case exactly if their paths are**, each without
the slash at its start. -/
theorem lower_joinPath_eq_iff (host path path' : List Char) :
    Text.lower (joinPath host path) = Text.lower (joinPath host path') ↔
      Text.lower (dropLeadingSlash path) = Text.lower (dropLeadingSlash path') := by
  rw [lower_joinPath, lower_joinPath, List.append_cancel_left_eq, List.cons_inj_right]

/-- Two texts with a slash in them are the same exactly if their parts are, where no slash stands before
that one. -/
theorem append_slash_eq_iff {cs cs' ds ds' : List Char} (h : '/' ∉ cs) (h' : '/' ∉ cs') :
    cs ++ '/' :: ds = cs' ++ '/' :: ds' ↔ cs = cs' ∧ ds = ds' := by
  constructor
  · intro heq
    induction cs generalizing cs' with
    | nil =>
      cases cs' with
      | nil => exact ⟨rfl, (List.cons.inj heq).2⟩
      | cons c' cs' =>
        -- the slash of the first text would stand in the front part of the second one
        have hslash := (List.cons.inj heq).1
        exact absurd (hslash ▸ List.mem_cons_self) h'
    | cons c cs ih =>
      cases cs' with
      | nil =>
        have hslash := (List.cons.inj heq).1
        exact absurd (hslash ▸ List.mem_cons_self) h
      | cons c' cs' =>
        obtain ⟨rfl, hrest⟩ := List.cons.inj heq
        obtain ⟨rfl, hds⟩ := ih (fun hc => h (List.mem_cons_of_mem c hc))
          (fun hc => h' (List.mem_cons_of_mem c hc)) hrest
        exact ⟨rfl, hds⟩
  · rintro ⟨rfl, rfl⟩
    rfl

/-- **Audiences of two hosts are the same up to letter case exactly if hosts and paths are**, where no
slash stands in a host except at its end. -/
theorem lower_joinPath_eq_iff_hosts (h : '/' ∉ dropTrailingSlash host)
    (h' : '/' ∉ dropTrailingSlash host') :
    Text.lower (joinPath host path) = Text.lower (joinPath host' path') ↔
      Text.lower (dropTrailingSlash host) = Text.lower (dropTrailingSlash host') ∧
        Text.lower (dropLeadingSlash path) = Text.lower (dropLeadingSlash path') := by
  rw [lower_joinPath, lower_joinPath]
  exact append_slash_eq_iff (fun hc => h (Text.slash_mem_lower hc))
    (fun hc => h' (Text.slash_mem_lower hc))

/-- The slash at the start of a path does not depend on how the path goes on. -/
theorem dropLeadingSlash_append {rest : List Char} (h : path ≠ []) :
    dropLeadingSlash (path ++ rest) = dropLeadingSlash path ++ rest := by
  cases path with
  | nil => exact absurd rfl h
  | cons c path =>
    by_cases hc : c = '/'
    · subst hc
      rfl
    · have hkept : ∀ r : List Char, dropLeadingSlash (c :: r) = c :: r := by
        intro r
        unfold dropLeadingSlash
        split
        · rename_i heq
          exact absurd (List.cons.inj heq).1 hc
        · rfl
      rw [List.cons_append, hkept, hkept, List.cons_append]

/-- **A path that is continued has another audience**, unless it was empty: a slash alone adds nothing to
that. -/
theorem lower_joinPath_extension {rest : List Char} (hpath : path ≠ []) (hrest : rest ≠ []) :
    Text.lower (joinPath host path) ≠ Text.lower (joinPath host (path ++ rest)) := by
  intro hsame
  rw [lower_joinPath_eq_iff, dropLeadingSlash_append hpath] at hsame
  exact Text.lower_append_ne hrest hsame.symm

end QuoteService.Token
