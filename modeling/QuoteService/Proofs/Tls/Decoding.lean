import QuoteService.Proofs.Pem.Blocks
import QuoteService.Proofs.Results
import QuoteService.Proofs.Text.Lines
import QuoteService.Tls.Identity

/-!
# What configured texts hold

* `Holds`: what the blocks of the text give that a configured text wraps.
* `HoldsKey`, `HoldsChain`: a key and a chain that are read from there.
* `decodeKey_eq_some_iff`, `decodeChain_eq_ok_iff`: **what a text holds is what is decoded.**
* `ReadsKey`, `StopsChain`: the texts with which decoding comes to a certificate of a version that does
  not exist.
* `Ending`, `ending_loadIdentity`: **the ways in which loading an identity can end**, each with all that
  it takes.
* `Respaced`, `loadIdentity_respaced`: **blanks put into the texts change nothing.**
-/

namespace QuoteService.Tls

variable {encoded : List Char} {b : Pem.Bundle}

/-! ## Blocks -/

/-- Without its blanks a configured text is the strict Base64 of UTF-8, and the complete blocks of the
text that this spells are all sound and give the bundle. -/
def Holds (encoded : List Char) (b : Pem.Bundle) : Prop :=
  ∃ bytes text, Base64.decode (Text.removeBlanks encoded) = .ok bytes ∧
    Utf8.decode bytes = some text ∧ Pem.Picks (Pem.contentLines text) b

theorem unwrap_eq_ok_iff {text : List Char} : unwrap encoded = .ok text ↔
    ∃ bytes, Base64.decode (Text.removeBlanks encoded) = .ok bytes ∧
      Utf8.decode bytes = some text := by
  unfold unwrap
  constructor
  · intro h
    split at h
    · cases h
    · rename_i bytes hbytes
      split at h
      · cases h
      · rename_i found hfound
        cases h
        exact ⟨bytes, hbytes, hfound⟩
  · rintro ⟨bytes, hbytes, htext⟩
    simp only [hbytes, htext]

theorem bundle_eq_ok_iff : bundle encoded = .ok b ↔ Holds encoded b := by
  unfold bundle Holds
  simp only [bind_eq_ok_iff, mapError_eq_ok_iff, unwrap_eq_ok_iff, Pem.Bundle.ofText_eq_ok_iff]
  constructor
  · rintro ⟨text, ⟨bytes, hbytes, htext⟩, hpicks⟩
    exact ⟨bytes, text, hbytes, htext, hpicks⟩
  · rintro ⟨bytes, text, hbytes, htext, hpicks⟩
    exact ⟨text, ⟨bytes, hbytes, htext⟩, hpicks⟩

/-- A text of which no blocks can be had is at fault before any certificate is looked at. -/
theorem bundle_ne_certificate (encoded : List Char) (fault : CertificateError) :
    bundle encoded ≠ .error (.certificate fault) := by
  intro h
  rcases bind_eq_error_iff.1 h with h | ⟨text, -, h⟩
  · unfold unwrap at h
    split at h
    · cases h
    · split at h <;> cases h
  · obtain ⟨_, -, h⟩ := mapError_eq_error_iff.1 h
    cases h

/-! ## Keys -/

/-- The complete key block that ends last in a configured text is a key. -/
def HoldsKey (encoded : List Char) (key : PrivateKey) : Prop :=
  ∃ b der, Holds encoded b ∧ b.privateKey = some der ∧ PrivateKey.ofDer der = .ok key

/-- No key block of a configured text keeps it from being decoded: the one that ends last, if there is
one, is a key. -/
def ReadsKey (encoded : List Char) : Prop :=
  ∃ b, Holds encoded b ∧ ∀ der, b.privateKey = some der → ∃ key, PrivateKey.ofDer der = .ok key

/-- **A key is decoded just if the text holds it.** -/
theorem decodeKey_eq_some_iff {key : PrivateKey} :
    decodeKey encoded = .ok (some key) ↔ HoldsKey encoded key := by
  unfold decodeKey
  rw [bind_eq_ok_iff]
  constructor
  · rintro ⟨b, hb, h⟩
    split at h
    · cases h
    · rename_i der hder
      obtain ⟨read, hread, hkey⟩ := map_eq_ok_iff.1 h
      cases hkey
      exact ⟨b, der, bundle_eq_ok_iff.1 hb, hder, mapError_eq_ok_iff.1 hread⟩
  · rintro ⟨b, der, hb, hder, hread⟩
    refine ⟨b, bundle_eq_ok_iff.2 hb, ?_⟩
    rw [hder]
    exact map_eq_ok_iff.2 ⟨key, mapError_eq_ok_iff.2 hread, rfl⟩

theorem decodeKey_ok_iff : (∃ key, decodeKey encoded = .ok key) ↔ ReadsKey encoded := by
  constructor
  · rintro ⟨key, h⟩
    cases key with
    | some key =>
      obtain ⟨b, der, hb, hder, hread⟩ := decodeKey_eq_some_iff.1 h
      refine ⟨b, hb, ?_⟩
      intro der' hder'
      cases hder.symm.trans hder'
      exact ⟨key, hread⟩
    | none =>
      unfold decodeKey at h
      obtain ⟨b, hb, h⟩ := bind_eq_ok_iff.1 h
      split at h
      · rename_i hnone
        refine ⟨b, bundle_eq_ok_iff.1 hb, ?_⟩
        intro der hder
        cases hnone.symm.trans hder
      · obtain ⟨_, -, hkey⟩ := map_eq_ok_iff.1 h
        cases hkey
  · rintro ⟨b, hb, hreads⟩
    cases hkey : b.privateKey with
    | none =>
      refine ⟨none, bind_eq_ok_iff.2 ⟨b, bundle_eq_ok_iff.2 hb, ?_⟩⟩
      rw [hkey]
      rfl
    | some der =>
      obtain ⟨key, hread⟩ := hreads der hkey
      exact ⟨some key, decodeKey_eq_some_iff.2 ⟨b, der, hb, hkey, hread⟩⟩

theorem decodeKey_ne_certificate (encoded : List Char) (fault : CertificateError) :
    decodeKey encoded ≠ .error (.certificate fault) := by
  intro h
  rcases bind_eq_error_iff.1 h with h | ⟨b, -, h⟩
  · exact bundle_ne_certificate encoded fault h
  · split at h
    · cases h
    · rename_i der _
      cases hread : PrivateKey.ofDer der with
      | error _ => rw [hread] at h; cases h
      | ok _ => rw [hread] at h; cases h

/-! ## Certificates -/

/-- Every complete certificate block of a configured text is a certificate, and the chain has them in
their order. -/
def HoldsChain (encoded : List Char) (chain : List Certificate) : Prop :=
  ∃ b, Holds encoded b ∧
    List.Forall₂ (fun der c => Certificate.ofDer der = .ok c) b.certificates chain

/-- Among the complete certificate blocks of a configured text one is of a version that does not exist,
and all before it are certificates. -/
def StopsChain (encoded : List Char) : Prop :=
  ∃ b before der rest, Holds encoded b ∧ b.certificates = before ++ der :: rest ∧
    (∀ d ∈ before, ∃ c, Certificate.ofDer d = .ok c) ∧
    Certificate.ofDer der = .error .unknownVersion

/-- **A chain is decoded just if the text holds it.** -/
theorem decodeChain_eq_ok_iff {chain : List Certificate} :
    decodeChain encoded = .ok chain ↔ HoldsChain encoded chain := by
  unfold decodeChain HoldsChain
  simp only [bind_eq_ok_iff, bundle_eq_ok_iff, mapM_eq_ok_iff, mapError_eq_ok_iff]

theorem decodeChain_unknownVersion_iff :
    decodeChain encoded = .error (.certificate .unknownVersion) ↔ StopsChain encoded := by
  unfold decodeChain
  rw [bind_eq_error_iff]
  constructor
  · rintro (h | ⟨b, hb, h⟩)
    · exact absurd h (bundle_ne_certificate _ _)
    · obtain ⟨before, der, rest, hsplit, hbefore, hder⟩ := mapM_eq_error_iff.1 h
      obtain ⟨fault, hfault, hsame⟩ := mapError_eq_error_iff.1 hder
      cases hsame
      refine ⟨b, before, der, rest, bundle_eq_ok_iff.1 hb, hsplit, ?_, hfault⟩
      intro d hd
      obtain ⟨c, hc⟩ := hbefore d hd
      exact ⟨c, mapError_eq_ok_iff.1 hc⟩
  · rintro ⟨b, before, der, rest, hb, hsplit, hbefore, hder⟩
    refine .inr ⟨b, bundle_eq_ok_iff.2 hb, mapM_eq_error_iff.2 ⟨before, der, rest, hsplit, ?_, ?_⟩⟩
    · intro d hd
      obtain ⟨c, hc⟩ := hbefore d hd
      exact ⟨c, mapError_eq_ok_iff.2 hc⟩
    · exact mapError_eq_error_iff.2 ⟨_, hder, rfl⟩

/-! ## Identities -/

theorem decodeBoth_eq_ok_iff {k c : List Char} {key? : Option PrivateKey} {chain : List Certificate} :
    decodeBoth k c = .ok (key?, chain) ↔
      decodeKey k = .ok key? ∧ decodeChain c = .ok chain := by
  unfold decodeBoth
  rw [bind_eq_ok_iff]
  constructor
  · rintro ⟨found, hkey, h⟩
    obtain ⟨read, hchain, h⟩ := bind_eq_ok_iff.1 h
    cases h
    exact ⟨hkey, hchain⟩
  · rintro ⟨hkey, hchain⟩
    exact ⟨key?, hkey, bind_eq_ok_iff.2 ⟨chain, hchain, rfl⟩⟩

/-- The one fault that is let through is met where the key can be read and the certificates cannot. -/
theorem decodeBoth_unknownVersion_iff {k c : List Char} :
    decodeBoth k c = .error (.certificate .unknownVersion) ↔
      ReadsKey k ∧ StopsChain c := by
  unfold decodeBoth
  rw [bind_eq_error_iff, ← decodeKey_ok_iff, ← decodeChain_unknownVersion_iff]
  constructor
  · rintro (h | ⟨found, hkey, h⟩)
    · -- the key is read first, but it is never at fault for a certificate
      exact absurd h (decodeKey_ne_certificate _ _)
    · rcases bind_eq_error_iff.1 h with h | ⟨_, _, h⟩
      · exact ⟨⟨found, hkey⟩, h⟩
      · cases h
  · rintro ⟨⟨found, hkey⟩, hchain⟩
    exact .inr ⟨found, hkey, bind_eq_error_iff.2 (.inl hchain)⟩

theorem isHandled_eq_false_iff {fault : MaterialError} :
    fault.isHandled = false ↔ fault = .certificate .unknownVersion := by
  unfold MaterialError.isHandled
  split
  · exact ⟨fun _ => rfl, fun _ => rfl⟩
  · rename_i hother
    exact ⟨nofun, fun h => absurd h hother⟩

/-- The ways in which loading an identity from two configured texts can end. -/
inductive Ending : Option String → Option String →
    Except MaterialError (Option Identity × List LogRecord) → Prop
  | unset {key certs : Option String} (h : isUnset key = true ∨ isUnset certs = true) :
      Ending key certs (.ok (none, []))
  | letThrough {k c : String} (hk : isUnset (some k) = false) (hc : isUnset (some c) = false)
      (h : decodeBoth k.toList c.toList = .error (.certificate .unknownVersion)) :
      Ending (some k) (some c) (.error (.certificate .unknownVersion))
  | refused {k c : String} (hk : isUnset (some k) = false) (hc : isUnset (some c) = false)
      {fault : MaterialError} (hfault : fault.isHandled = true)
      (h : decodeBoth k.toList c.toList = .error fault) :
      Ending (some k) (some c)
        (.ok (none, complaint "Could not decode TLS key and certificate chain"))
  | noKey {k c : String} (hk : isUnset (some k) = false) (hc : isUnset (some c) = false)
      {chain : List Certificate} (h : decodeBoth k.toList c.toList = .ok (none, chain)) :
      Ending (some k) (some c)
        (.ok (none, complaint "No unencrypted PKCS#8 private key found in TLS key material"))
  | noCertificate {k c : String} (hk : isUnset (some k) = false) (hc : isUnset (some c) = false)
      {found : PrivateKey} (h : decodeBoth k.toList c.toList = .ok (some found, [])) :
      Ending (some k) (some c)
        (.ok (none, complaint "TLS private key supplied without any certificate"))
  | identity {k c : String} (hk : isUnset (some k) = false) (hc : isUnset (some c) = false)
      {found : PrivateKey} {chain : List Certificate} (hchain : chain ≠ [])
      (h : decodeBoth k.toList c.toList = .ok (some found, chain)) :
      Ending (some k) (some c) (.ok (some ⟨some found, chain⟩, []))

/-- **Loading an identity ends in one of the ways.** -/
theorem ending_loadIdentity (key certs : Option String) :
    Ending key certs (loadIdentity key certs) := by
  unfold loadIdentity
  split
  · rename_i k c
    split
    · rename_i hblank
      exact .unset (Bool.or_eq_true _ _ ▸ hblank)
    · rename_i hset
      rw [Bool.or_eq_true, not_or, Bool.not_eq_true, Bool.not_eq_true] at hset
      obtain ⟨hk, hc⟩ := hset
      split
      · rename_i fault hfault
        unfold handled
        split
        · rename_i hhandled
          exact .refused hk hc hhandled hfault
        · -- just one fault is not handled, so it is known which one this is
          rename_i hhandled
          rw [Bool.not_eq_true, isHandled_eq_false_iff] at hhandled
          subst hhandled
          exact .letThrough hk hc hfault
      · rename_i hboth
        exact .noKey hk hc hboth
      · rename_i hboth
        exact .noCertificate hk hc hboth
      · rename_i found chain hnotempty hboth
        exact .identity hk hc hnotempty hboth
  · rename_i hmissing
    refine .unset ?_
    cases key with
    | none => exact .inl rfl
    | some k =>
      cases certs with
      | none => exact .inr rfl
      | some c => exact absurd rfl (hmissing k c rfl)

/-- A key that is decoded with some certificates is loaded with them. -/
theorem loadIdentity_of_decodeBoth {k c : String} {found : PrivateKey} {chain : List Certificate}
    (hk : isUnset (some k) = false) (hc : isUnset (some c) = false) (hnotempty : chain ≠ [])
    (hboth : decodeBoth k.toList c.toList = .ok (some found, chain)) :
    loadIdentity (some k) (some c) = .ok (some ⟨some found, chain⟩, []) := by
  rw [loadIdentity, hk, hc, hboth]
  cases chain with
  | nil => exact absurd rfl hnotempty
  | cons c chain => rfl

theorem loadIdentity_of_unknownVersion {k c : String} (hk : isUnset (some k) = false)
    (hc : isUnset (some c) = false)
    (hboth : decodeBoth k.toList c.toList = .error (.certificate .unknownVersion)) :
    loadIdentity (some k) (some c) = .error (.certificate .unknownVersion) := by
  rw [loadIdentity, hk, hc, hboth]
  rfl

/-! ## Blanks -/

variable {spaced : List Char}

theorem unwrap_spread (h : Text.Spread encoded spaced) : unwrap spaced = unwrap encoded := by
  rw [unwrap, unwrap, h.removeBlanks_eq]

theorem bundle_spread (h : Text.Spread encoded spaced) : bundle spaced = bundle encoded := by
  rw [bundle, bundle, unwrap_spread h]

/-- Blanks put into two texts do not change what is decoded from them. -/
theorem decodeBoth_spread {k k' c c' : List Char} (hk : Text.Spread k k') (hc : Text.Spread c c') :
    decodeBoth k' c' = decodeBoth k c := by
  rw [decodeBoth, decodeBoth, decodeKey, decodeKey, decodeChain, decodeChain, bundle_spread hk,
    bundle_spread hc]

/-- The second configured text is the first one with blanks put in anywhere; where there is none,
there is none. -/
def Respaced : Option String → Option String → Prop :=
  Option.Rel fun s s' => Text.Spread s.toList s'.toList

theorem isUnset_respaced {text text' : Option String} (h : Respaced text text') :
    isUnset text' = isUnset text := by
  cases h with
  | none => rfl
  | some h => exact h.isBlankText_eq

/-- **Blanks put into the two texts change neither the identity nor the records.** -/
theorem loadIdentity_respaced {key key' certs certs' : Option String} (hk : Respaced key key')
    (hc : Respaced certs certs') : loadIdentity key' certs' = loadIdentity key certs := by
  have hkey := isUnset_respaced hk
  have hcerts := isUnset_respaced hc
  cases hk with
  | none => rfl
  | some hk =>
    cases hc with
    | none => rfl
    | some hc => rw [loadIdentity, loadIdentity, hkey, hcerts, decodeBoth_spread hk hc]

end QuoteService.Tls
