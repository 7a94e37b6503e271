import Mathlib.Data.List.Nodup
import QuoteService.Store.Basic

/-!
# The rows of a store

* `Store.Sound`: distinct quotes under ascending numbers.
* `Store.add_eq_ok_iff`: when a quote is added, and what the store is then.
* `Store.Sound.add`: **adding keeps a store sound.**
* `Store.ofQuotes_sound`: a store of distinct quotes holds exactly them.
-/

namespace QuoteService.Store

/-- The quotes are distinct, and their numbers ascend. -/
structure Sound (s : Store) : Prop where
  distinct : s.quotes.Nodup
  ascending : (s.rows.map Row.id).Pairwise (· < ·)

variable {s s' : Store} {row : Row} {q : String}

theorem contains_iff : s.contains q = true ↔ q ∈ s.quotes := by
  rw [contains, List.contains_iff_mem]

theorem quotes_append (s : Store) (row : Row) :
    quotes ⟨s.rows ++ [row]⟩ = s.quotes ++ [row.quote] := by
  rw [quotes, List.map_append]
  rfl

/-- A new quote in a row of its own leaves the quotes distinct. -/
theorem nodup_quotes_append (h : s.quotes.Nodup) (hnew : row.quote ∉ s.quotes) :
    (quotes ⟨s.rows ++ [row]⟩).Nodup := by
  rw [quotes_append]
  exact List.nodup_append.2 ⟨h, List.nodup_singleton _, fun x hx y hy hxy =>
    hnew (List.mem_singleton.1 hy ▸ hxy ▸ hx)⟩

/-- The next number is above all that are in use. -/
theorem lt_nextId (h : row ∈ s.rows) : row.id < s.nextId := by
  -- the running maximum bounds what it started from and every number that it met
  have hle : ∀ (rows : List Row) (n : Nat), n ≤ rows.foldl (fun n r => max n r.id) n ∧
      ∀ r ∈ rows, r.id ≤ rows.foldl (fun n r => max n r.id) n := by
    intro rows
    induction rows with
    | nil => exact fun n => ⟨Nat.le_refl n, nofun⟩
    | cons r rows ih =>
      intro n
      obtain ⟨hmax, hrows⟩ := ih (max n r.id)
      rw [List.foldl_cons]
      refine ⟨by omega, fun x hx => ?_⟩
      rcases List.mem_cons.1 hx with rfl | hx
      · omega
      · exact hrows x hx
  have := (hle s.rows 0).2 row h
  rw [nextId]
  omega

theorem insert?_eq_some_iff {added : Row × Store} : s.insert? q = some added ↔
    q ∉ s.quotes ∧ added = (⟨s.nextId, q⟩, ⟨s.rows ++ [⟨s.nextId, q⟩]⟩) := by
  unfold insert?
  by_cases h : s.contains q = true
  · rw [if_pos h]
    exact ⟨nofun, fun ⟨hq, _⟩ => absurd (contains_iff.1 h) hq⟩
  · rw [if_neg h, Option.some.injEq]
    exact ⟨fun he => ⟨fun hq => h (contains_iff.2 hq), he.symm⟩, fun he => he.2.symm⟩

/-- **A quote is added exactly if it is new**, in a row of its own at the end. -/
theorem add_eq_ok_iff {added : Row × Store} : s.add (some q) = .ok added ↔
    q ∉ s.quotes ∧ added = (⟨s.nextId, q⟩, ⟨s.rows ++ [⟨s.nextId, q⟩]⟩) := by
  rw [← insert?_eq_some_iff]
  unfold add
  simp only
  by_cases h : s.contains q = true
  · rw [if_pos h, insert?, if_pos h]
    exact ⟨nofun, nofun⟩
  · rw [if_neg h]
    cases s.insert? q with
    | none => exact ⟨nofun, nofun⟩
    | some x => rw [Except.ok.injEq, Option.some.injEq]

theorem add_quotes (h : s.add (some q) = .ok (row, s')) : s'.quotes = s.quotes ++ [q] := by
  obtain ⟨-, heq⟩ := add_eq_ok_iff.1 h
  cases heq
  exact quotes_append s _

/-- **Adding keeps a store sound.** -/
theorem Sound.add (hs : s.Sound) (h : s.add (some q) = .ok (row, s')) : s'.Sound := by
  obtain ⟨hnew, heq⟩ := add_eq_ok_iff.1 h
  cases heq
  refine ⟨nodup_quotes_append hs.distinct hnew, ?_⟩
  · rw [List.map_append, List.pairwise_append]
    refine ⟨hs.ascending, List.pairwise_singleton _ _, fun n hn m hm => ?_⟩
    obtain ⟨r, hr, rfl⟩ := List.mem_map.1 hn
    obtain rfl : m = s.nextId := List.mem_singleton.1 hm
    exact lt_nextId hr

theorem empty_sound : empty.Sound := ⟨List.nodup_nil, List.Pairwise.nil⟩

/-- The store after a quote, whether it was added or not. -/
def offer (s : Store) (quote : Option String) : Store :=
  match s.add quote with
  | .ok (_, s') => s'
  | .error _ => s

/-- What is numbered on the way does not matter to the store. -/
theorem addAll_snd (s : Store) (quotes : List (Option String)) :
    (s.addAll quotes).2 = quotes.foldl offer s := by
  refine (List.foldl_hom Prod.snd fun acc quote => ?_).symm
  obtain ⟨ids, s⟩ := acc
  rw [offer]
  cases h : s.add quote <;> simp only [h]

/-- Quotes that are distinct and new are all added, in their order. -/
theorem foldl_offer {qs : List String} (hs : s.Sound) (h : (s.quotes ++ qs).Nodup) :
    ((qs.map some).foldl offer s).quotes = s.quotes ++ qs ∧ ((qs.map some).foldl offer s).Sound := by
  induction qs generalizing s with
  | nil => exact ⟨(List.append_nil _).symm, hs⟩
  | cons q qs ih =>
    have hq : q ∉ s.quotes := fun hm =>
      (List.nodup_append.1 h).2.2 q hm q List.mem_cons_self rfl
    have hadd := add_eq_ok_iff.2 ⟨hq, rfl⟩
    have hoffer : s.offer (some q) = ⟨s.rows ++ [⟨s.nextId, q⟩]⟩ := by rw [offer, hadd]
    rw [List.append_cons, ← add_quotes hadd] at h ⊢
    rw [List.map_cons, List.foldl_cons, hoffer]
    exact ih (hs.add hadd) h

/-- **A store of distinct quotes holds exactly them.** -/
theorem ofQuotes_sound {qs : List String} (h : qs.Nodup) :
    (ofQuotes qs).quotes = qs ∧ (ofQuotes qs).Sound := by
  rw [ofQuotes, addAll_snd]
  exact foldl_offer empty_sound h

/-- A random choice hits a quote wherever it falls, unless there is none. -/
theorem random?_eq_none_iff {pick : Nat} : s.random? pick = none ↔ s.quotes = [] := by
  rw [random?, List.getElem?_eq_none_iff]
  constructor
  · intro h
    by_contra hne
    have hpos := List.length_pos_iff.2 hne
    have := Nat.mod_lt pick hpos
    omega
  · intro h
    rw [h]
    exact Nat.zero_le _

theorem mem_of_random? {pick : Nat} (h : s.random? pick = some q) : q ∈ s.quotes :=
  List.mem_of_getElem? h

end QuoteService.Store
