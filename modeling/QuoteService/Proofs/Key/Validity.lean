import QuoteService.Key.Reader
import QuoteService.Proofs.Results

/-!
# What was read is valid

* `isValid_of_ofRsaForm?`, `isValid_of_key`, …: whatever form a key is read from, it is checked.
* `isValid_of_ofDer`: **a key that was read is valid.**
-/

namespace QuoteService.PrivateKey

open Der

variable {k k' : PrivateKey} {der : List UInt8}

theorem checked_eq_some (h : checked k = some k') : k' = k ∧ k.isValid = true := by
  unfold checked at h
  split at h
  · rename_i hvalid
    cases h
    exact ⟨rfl, hvalid⟩
  · cases h

theorem checked_of_isValid (h : k.isValid = true) : checked k = some k := if_pos h

theorem isValid_of_checked (h : checked k = some k') : k'.isValid = true := by
  obtain ⟨rfl, hvalid⟩ := checked_eq_some h
  exact hvalid

theorem isValid_of_ofRsaForm? (h : ofRsaForm? der = some k) : k.isValid = true := by
  simp only [ofRsaForm?, Option.bind_eq_bind, Option.bind_eq_some_iff] at h
  obtain ⟨_, -, _, -, _, -, hchecked⟩ := h
  exact isValid_of_checked hchecked

theorem isValid_of_ofDsaForm? (h : ofDsaForm? der = some k) : k.isValid = true := by
  simp only [ofDsaForm?, Option.bind_eq_bind, Option.bind_eq_some_iff] at h
  obtain ⟨_, -, _, -, _, -, h⟩ := h
  split at h
  · exact isValid_of_checked h
  · cases h

theorem isValid_of_ofDsaParts? {parameters : List Element}
    (h : ofDsaParts? parameters der = some k) : k.isValid = true := by
  simp only [ofDsaParts?, Option.bind_eq_bind, Option.bind_eq_some_iff] at h
  obtain ⟨_, -, _, -, h⟩ := h
  split at h
  · exact isValid_of_checked h
  · cases h

theorem isValid_of_ofAgreementParts? {tellsOrder : Bool} {parameters : List Element}
    (h : ofAgreementParts? tellsOrder parameters der = some k) : k.isValid = true := by
  simp only [ofAgreementParts?, Option.bind_eq_bind, Option.bind_eq_some_iff] at h
  obtain ⟨_, -, _, -, h⟩ := h
  split at h
  · exact isValid_of_checked h
  · cases h

theorem isValid_of_ofRawForm? {kind : RawKind} (h : ofRawForm? kind der = some k) :
    k.isValid = true := by
  rw [ofRawForm?, Option.bind_eq_some_iff] at h
  obtain ⟨_, -, hchecked⟩ := h
  exact isValid_of_checked hchecked

theorem isValid_of_key {form : CurveForm} {outer : Option Element} (h : form.key outer = .ok k) :
    k.isValid = true := by
  unfold CurveForm.key at h
  obtain ⟨curve, -, h⟩ := bind_eq_ok_iff.1 h
  simp only at h
  split at h
  · rename_i hchecked
    split at h
    · cases h
      exact isValid_of_checked hchecked
    · cases h
  · cases h

theorem isValid_of_ofOption {found : Option PrivateKey}
    (hfound : ∀ k, found = some k → k.isValid = true) (h : ofAlgorithm.ofOption found = .ok k) :
    k.isValid = true := by
  cases found with
  | none => cases h
  | some k' =>
    cases h
    exact hfound k rfl

theorem isValid_of_ofAlgorithm {algorithm : List Element} (h : ofAlgorithm algorithm der = .ok k) :
    k.isValid = true := by
  unfold ofAlgorithm at h
  split at h
  · split at h
    · exact isValid_of_ofOption (fun _ => isValid_of_ofRsaForm?) h
    split at h
    · split at h
      · exact isValid_of_key h
      · cases h
    split at h
    · exact isValid_of_ofOption (fun _ => isValid_of_ofDsaParts?) h
    split at h
    · exact isValid_of_ofOption (fun _ => isValid_of_ofAgreementParts?) h
    split at h
    · exact isValid_of_ofOption (fun _ => isValid_of_ofAgreementParts?) h
    split at h
    · exact isValid_of_ofOption (fun _ => isValid_of_ofRawForm?) h
    · cases h
  · cases h

/-- **A key that was read is valid.** -/
theorem isValid_of_ofDer (h : ofDer der = .ok k) : k.isValid = true := by
  unfold ofDer at h
  split at h
  · exact isValid_of_ofAlgorithm h
  split at h
  · exact isValid_of_key h
  split at h
  · rename_i key hkey
    cases h
    cases hrsa : ofRsaForm? der with
    | some k' =>
      rw [hrsa] at hkey
      cases hkey
      exact isValid_of_ofRsaForm? hrsa
    | none =>
      rw [hrsa] at hkey
      exact isValid_of_ofDsaForm? hkey
  · cases h

end QuoteService.PrivateKey
