import QuoteService.Proofs.Tls.Reload

/-!
# The identities that two configured texts give

* `Usable`: two configured texts are usable material, and for which identity.
* `BreaksOff`: two configured texts with which loading does not come to an end.
* `loadIdentity_usable`: **an identity is loaded just if the texts are usable for it**; otherwise there
  is a record where both texts are set, unless loading breaks off.
* `loadIdentity_breaksOff`: loading does break off at a certificate of a version that does not exist.
-/

namespace QuoteService.Tls

/-- Two configured texts are usable for an identity: both are set, the identity's key is the one that
the first text holds, and its chain, which is not empty, is the one that the second text holds. -/
structure Usable (key certs : Option String) (identity : Identity) : Prop where
  keySet : isUnset key = false
  certsSet : isUnset certs = false
  holdsKey : ∃ s found, key = some s ∧ HoldsKey s.toList found ∧ identity.key = some found
  holdsChain : ∃ s, certs = some s ∧ HoldsChain s.toList identity.chain
  notEmpty : identity.chain ≠ []

/-- Both configured texts are set, no key keeps the first one from being decoded, and the second one
comes to a certificate of a version that does not exist. -/
structure BreaksOff (key certs : Option String) : Prop where
  keySet : isUnset key = false
  certsSet : isUnset certs = false
  readsKey : ∃ s, key = some s ∧ ReadsKey s.toList
  stopsChain : ∃ s, certs = some s ∧ StopsChain s.toList

variable {key certs : Option String} {identity : Identity} {logs : List LogRecord}

theorem Usable.canTerminateTls (h : Usable key certs identity) :
    identity.canTerminateTls = true := by
  obtain ⟨_, found, -, -, hkey⟩ := h.holdsKey
  rw [Identity.canTerminateTls, hkey, Option.isSome_some, Bool.true_and, Bool.not_eq_true',
    List.isEmpty_eq_false_iff]
  exact h.notEmpty

/-- **An identity is loaded just if the texts are usable for it**, and without a record. -/
theorem loadIdentity_eq_some_iff :
    loadIdentity key certs = .ok (some identity, logs) ↔ Usable key certs identity ∧ logs = [] := by
  constructor
  · intro h
    have hending := ending_loadIdentity key certs
    rw [h] at hending
    cases hending with
    | identity hk hc hnotempty hboth =>
      obtain ⟨hkey, hchain⟩ := decodeBoth_eq_ok_iff.1 hboth
      refine ⟨⟨hk, hc, ⟨_, _, rfl, ?_, rfl⟩, ⟨_, rfl, ?_⟩, hnotempty⟩, rfl⟩
      · exact decodeKey_eq_some_iff.1 hkey
      · exact decodeChain_eq_ok_iff.1 hchain
  · rintro ⟨⟨hk, hc, ⟨k, found, rfl, hkey, hfound⟩, ⟨c, rfl, hchain⟩, hnotempty⟩, rfl⟩
    obtain ⟨held, chain⟩ := identity
    cases hfound
    have hboth : decodeBoth k.toList c.toList = .ok (some found, chain) :=
      decodeBoth_eq_ok_iff.2 ⟨decodeKey_eq_some_iff.2 hkey, decodeChain_eq_ok_iff.2 hchain⟩
    exact loadIdentity_of_decodeBoth hk hc hnotempty hboth

theorem loadIdentity_error_iff :
    (∃ fault, loadIdentity key certs = .error fault) ↔ BreaksOff key certs := by
  constructor
  · rintro ⟨fault, h⟩
    have hending := ending_loadIdentity key certs
    rw [h] at hending
    cases hending with
    | letThrough hk hc hboth =>
      obtain ⟨hreads, hstops⟩ := decodeBoth_unknownVersion_iff.1 hboth
      exact ⟨hk, hc, ⟨_, rfl, hreads⟩, ⟨_, rfl, hstops⟩⟩
  · rintro ⟨hk, hc, ⟨k, rfl, hreads⟩, ⟨c, rfl, hstops⟩⟩
    have hboth := decodeBoth_unknownVersion_iff.2 ⟨hreads, hstops⟩
    exact ⟨_, loadIdentity_of_unknownVersion hk hc hboth⟩

/-- What is recorded: one error where both texts are set and there is no identity, and else nothing. -/
theorem loadIdentity_logs {result : Option Identity}
    (h : loadIdentity key certs = .ok (result, logs)) :
    (result = none ∧ isUnset key = false ∧ isUnset certs = false ∧
        ∃ message, logs = [⟨.error, credentialsLogger, message⟩]) ∨
      ((result.isSome = true ∨ isUnset key = true ∨ isUnset certs = true) ∧ logs = []) := by
  have hending := ending_loadIdentity key certs
  rw [h] at hending
  cases hending with
  | unset hunset => exact .inr ⟨.inr hunset, rfl⟩
  | refused hk hc _ _ => exact .inl ⟨rfl, hk, hc, _, rfl⟩
  | noKey hk hc _ => exact .inl ⟨rfl, hk, hc, _, rfl⟩
  | noCertificate hk hc _ => exact .inl ⟨rfl, hk, hc, _, rfl⟩
  | identity => exact .inr ⟨.inl rfl, rfl⟩

/-- **Just the usable material is accepted, and all other is reported.** Unless loading breaks off, it
gives an identity if and only if the two texts are usable for it, and that identity can terminate TLS.
One error is recorded where there is no identity although both texts are set, and nothing is recorded
elsewhere. Blanks that are put into the texts, anywhere, change neither the result nor the records. -/
theorem loadIdentity_usable (key certs : Option String) :
    ((∃ fault, loadIdentity key certs = .error fault) ↔ BreaksOff key certs) ∧
    (∀ identity, (∃ logs, loadIdentity key certs = .ok (some identity, logs)) ↔
      Usable key certs identity) ∧
    (∀ identity, Usable key certs identity → identity.canTerminateTls = true) ∧
    (∀ result logs, loadIdentity key certs = .ok (result, logs) →
      (result = none ∧ isUnset key = false ∧ isUnset certs = false ∧
          ∃ message, logs = [⟨.error, credentialsLogger, message⟩]) ∨
        ((result.isSome = true ∨ isUnset key = true ∨ isUnset certs = true) ∧ logs = [])) ∧
    (∀ key' certs', Respaced key key' → Respaced certs certs' →
      loadIdentity key' certs' = loadIdentity key certs) := by
  refine ⟨loadIdentity_error_iff, ?_, fun _ h => h.canTerminateTls, fun _ _ => loadIdentity_logs,
    fun _ _ => loadIdentity_respaced⟩
  intro identity
  constructor
  · rintro ⟨logs, h⟩
    exact (loadIdentity_eq_some_iff.1 h).1
  · intro h
    exact ⟨[], loadIdentity_eq_some_iff.2 ⟨h, rfl⟩⟩

/-- The texts of a small key and certificate are usable, and so they are after some blanks. -/
theorem loadIdentity_usable_plainKey : ∃ c : Certificate, c.der = namelessCertificate [] ∧
    Usable (some (wrap [] plainKey.toPem)) (some (wrap [] (Certificate.chainPem [c])))
      ⟨some plainKey, [c]⟩ ∧
    Identity.canTerminateTls ⟨some plainKey, [c]⟩ = true ∧
    loadIdentity (some (wrap ['\t'] plainKey.toPem))
      (some (wrap [' ', '\n'] (Certificate.chainPem [c]))) = .ok (some ⟨some plainKey, [c]⟩, []) := by
  obtain ⟨c, hc, hder⟩ := ofDer_namelessCertificate
  have hchain : ∀ c' ∈ [c], Certificate.ofDer c'.der = .ok c' := by
    intro c' hc'
    rw [List.mem_singleton.1 hc', hder, hc]
  have hload := loadIdentity_wrapped plainKey_isValid (List.cons_ne_nil c []) hchain
    (isWrapped_wrap [] rfl plainKey.toPem) (isWrapped_wrap [] rfl _)
  obtain ⟨-, husable, hcan, -, hblanks⟩ := loadIdentity_usable (some (wrap [] plainKey.toPem))
    (some (wrap [] (Certificate.chainPem [c])))
  have h := (husable ⟨some plainKey, [c]⟩).1 ⟨[], hload⟩
  refine ⟨c, hder, h, hcan _ h, ?_⟩
  have hk := respaced_wrap ['\t'] (by decide) plainKey.toPem
  have hcs := respaced_wrap [' ', '\n'] (by decide) (Certificate.chainPem [c])
  rw [hblanks _ _ hk hcs, hload]

/-- **Loading breaks off** at a certificate of a version that does not exist: it gives neither a result
nor a record, although both texts are set. -/
theorem loadIdentity_breaksOff :
    let key := some (wrap [] plainKey.toPem)
    let certs := some (wrap [] (Pem.encodeBlock .certificate unknownVersionCertificate))
    isUnset key = false ∧ isUnset certs = false ∧
      loadIdentity key certs = .error (.certificate .unknownVersion) ∧
      ¬∃ result logs, loadIdentity key certs = .ok (result, logs) := by
  intro key certs
  have hk := isWrapped_wrap [] rfl plainKey.toPem
  have hc := isWrapped_wrap [] rfl (Pem.encodeBlock .certificate unknownVersionCertificate)
  have hload : loadIdentity key certs = .error (.certificate .unknownVersion) :=
    loadIdentity_wrapped_unknownVersion plainKey_isValid ofDer_unknownVersionCertificate hk hc
  refine ⟨isUnset_wrapped hk (toPem_ne_nil plainKey), isUnset_wrapped hc nofun, hload, ?_⟩
  rintro ⟨result, logs, h⟩
  cases hload.symm.trans h

end QuoteService.Tls
