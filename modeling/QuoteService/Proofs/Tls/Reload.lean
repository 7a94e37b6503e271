import QuoteService.Proofs.Key.RoundTrip
import QuoteService.Proofs.Pem.Written
import QuoteService.Proofs.Text.Encoding
import QuoteService.Proofs.Tls.Decoding

/-!
# Identities that are written and loaded again

* `IsWrapped`: a configured text wraps a text, in Base64 with blanks put in anywhere.
* `loadIdentity_eq_some`: what an identity that was loaded is made of.
* `loadIdentity_eq_error`: the one fault that loading lets through.
* `decodeKey_wrapped`, `decodeChain_wrapped`: a written key and written certificates are decoded.
* `loadIdentity_wrapped`, `loadTrust_wrapped`: **what is written is loaded**, without a record.
* `loadIdentity_wrapped_unknownVersion`: a certificate of a version that does not exist is not.
* `loadIdentity_again`: **an identity that was loaded is loaded again from what it writes.**
-/

namespace QuoteService.Tls

open Base64 (Alphabet IsSign)

variable {text : List Char} {s : String}

/-! ## Wrapped texts -/

/-- A configured text wraps a text: it is the Base64 of its bytes, with blanks put in anywhere. -/
def IsWrapped (text : List Char) (s : String) : Prop :=
  Text.Spread (Alphabet.standard.encodePadded (Utf8.encode text)) s.toList

theorem removeBlanks_wrapped (h : IsWrapped text s) :
    Text.removeBlanks s.toList = Alphabet.standard.encodePadded (Utf8.encode text) := by
  apply Text.Spread.removeBlanks h
  intro c hc
  exact (Base64.isSign_of_mem_encodePadded hc).isBlank_eq_false

/-- **The text that is wrapped is unwrapped.** -/
theorem unwrap_wrapped (h : IsWrapped text s) : unwrap s.toList = .ok text := by
  rw [unwrap, removeBlanks_wrapped h, Base64.decode_encodePadded]
  simp only [Utf8.decode_encode]

theorem bundle_wrapped (h : IsWrapped text s) :
    bundle s.toList = (Pem.Bundle.ofText text).mapError .base64 := by
  rw [bundle, unwrap_wrapped h]
  rfl

/-- A text that wraps something is not blank. -/
theorem isUnset_wrapped (h : IsWrapped text s) (htext : text ≠ []) : isUnset (some s) = false := by
  rw [isUnset, Bool.eq_false_iff]
  intro hblank
  have hnil : Alphabet.standard.encodePadded (Utf8.encode text) = [] := by
    rw [← removeBlanks_wrapped h, Text.isBlankText_iff_removeBlanks.1 hblank]
  -- no digits would be the Base64 of no bytes, and so of no characters
  have hbytes := Base64.decode_encodePadded (Utf8.encode text)
  have hempty : Utf8.encode text = [] := by
    rw [hnil] at hbytes
    exact (Except.ok.inj hbytes).symm
  have hback := Utf8.decode_encode text
  rw [hempty] at hback
  exact htext (Option.some.inj hback).symm

/-! ## What an identity is made of -/

theorem der_of_ofDer {der : List UInt8} {c : Certificate} (h : Certificate.ofDer der = .ok c) :
    Certificate.ofDer c.der = .ok c := by
  have hsame := h
  unfold Certificate.ofDer at h
  split at h
  · cases h
  · split at h
    · cases h
      exact hsame
    · cases h

/-- **A key that was decoded is valid.** -/
theorem isValid_of_decodeKey {encoded : List Char} {key : PrivateKey}
    (h : decodeKey encoded = .ok (some key)) : key.isValid = true := by
  obtain ⟨_, _, -, -, hread⟩ := decodeKey_eq_some_iff.1 h
  exact PrivateKey.isValid_of_ofDer hread

/-- Certificates that were read one after another are read again, each from its bytes. -/
theorem ofDer_of_forall₂ {ders : List (List UInt8)} {chain : List Certificate}
    (h : List.Forall₂ (fun der c => Certificate.ofDer der = .ok c) ders chain) :
    ∀ c ∈ chain, Certificate.ofDer c.der = .ok c := by
  induction h with
  | nil => nofun
  | cons hfirst _ ih =>
    intro c hc
    rcases List.mem_cons.1 hc with rfl | hc
    · exact der_of_ofDer hfirst
    · exact ih c hc

theorem ofDer_of_decodeChain {encoded : List Char} {chain : List Certificate}
    (h : decodeChain encoded = .ok chain) : ∀ c ∈ chain, Certificate.ofDer c.der = .ok c := by
  obtain ⟨_, -, hread⟩ := decodeChain_eq_ok_iff.1 h
  exact ofDer_of_forall₂ hread

/-- **An identity that was loaded** is a valid key with a chain that is not empty, of certificates
that are read again from their bytes; loading it leaves no record. -/
theorem loadIdentity_eq_some {key certs : Option String} {identity : Identity}
    {logs : List LogRecord} (h : loadIdentity key certs = .ok (some identity, logs)) :
    (∃ k : PrivateKey, identity.key = some k ∧ k.isValid = true) ∧ identity.chain ≠ [] ∧
      (∀ c ∈ identity.chain, Certificate.ofDer c.der = .ok c) ∧ logs = [] := by
  have hending := ending_loadIdentity key certs
  rw [h] at hending
  cases hending with
  | identity _ _ hnotempty hboth =>
    obtain ⟨hkey, hchain⟩ := decodeBoth_eq_ok_iff.1 hboth
    exact ⟨⟨_, rfl, isValid_of_decodeKey hkey⟩, hnotempty, ofDer_of_decodeChain hchain, rfl⟩

/-- **The one fault that loading lets through** is a certificate of a version that does not exist. -/
theorem loadIdentity_eq_error {key certs : Option String} {fault : MaterialError}
    (h : loadIdentity key certs = .error fault) : fault = .certificate .unknownVersion := by
  have hending := ending_loadIdentity key certs
  rw [h] at hending
  cases hending with
  | letThrough => rfl

/-! ## What is written is loaded -/

variable {key : PrivateKey} {chain : List Certificate}

theorem decodeKey_wrapped (hvalid : key.isValid = true) (h : IsWrapped key.toPem s) :
    decodeKey s.toList = .ok (some key) := by
  have hbundle : bundle s.toList = .ok ⟨some key.toDer, []⟩ := by
    rw [bundle_wrapped h, PrivateKey.toPem, Pem.Bundle.ofText_key]
    rfl
  rw [decodeKey, hbundle]
  simp only [bind, Except.bind, PrivateKey.ofDer_toDer hvalid]
  rfl

/-- **Written certificates are decoded**, in their order. -/
theorem decodeChain_wrapped (hchain : ∀ c ∈ chain, Certificate.ofDer c.der = .ok c)
    (h : IsWrapped (Certificate.chainPem chain) s) : decodeChain s.toList = .ok chain := by
  have hpem : Certificate.chainPem chain =
      (chain.map Certificate.der).flatMap (Pem.encodeBlock .certificate) := by
    rw [List.flatMap_map]
    rfl
  have hbundle : bundle s.toList = .ok ⟨none, chain.map Certificate.der⟩ := by
    rw [bundle_wrapped h, hpem, Pem.Bundle.ofText_chain]
    rfl
  rw [decodeChain, hbundle]
  refine mapM_eq_ok_iff.2 (List.forall₂_map_left_iff.2 (List.forall₂_same.2 ?_))
  intro c hc
  exact mapError_eq_ok_iff.2 (hchain c hc)

theorem toPem_ne_nil (key : PrivateKey) : key.toPem ≠ [] := by
  intro h
  have hbundle := Pem.Bundle.ofText_key key.toDer
  rw [← PrivateKey.toPem, h] at hbundle
  cases hbundle

theorem chainPem_ne_nil (hchain : chain ≠ []) : Certificate.chainPem chain ≠ [] := by
  intro h
  cases chain with
  | nil => exact hchain rfl
  | cons c chain =>
    rw [Certificate.chainPem, List.flatMap_cons, Certificate.toPem, Pem.encodeBlock] at h
    have hends := congrArg List.length h
    simp only [List.length_append, List.length_cons, List.length_nil] at hends
    omega

/-- **A written key with written certificates is loaded**, without a record. -/
theorem loadIdentity_wrapped {k c : String} (hvalid : key.isValid = true) (hnotempty : chain ≠ [])
    (hchain : ∀ c ∈ chain, Certificate.ofDer c.der = .ok c) (hk : IsWrapped key.toPem k)
    (hc : IsWrapped (Certificate.chainPem chain) c) :
    loadIdentity (some k) (some c) = .ok (some ⟨some key, chain⟩, []) := by
  have hboth : decodeBoth k.toList c.toList = .ok (some key, chain) := by
    rw [decodeBoth, decodeKey_wrapped hvalid hk, decodeChain_wrapped hchain hc]
    rfl
  exact loadIdentity_of_decodeBoth (isUnset_wrapped hk (toPem_ne_nil key))
    (isUnset_wrapped hc (chainPem_ne_nil hnotempty)) hnotempty hboth

/-- A written key is not loaded with a block of a certificate of a version that does not exist. -/
theorem loadIdentity_wrapped_unknownVersion {k c : String} {der : List UInt8}
    (hvalid : key.isValid = true) (hder : Certificate.ofDer der = .error .unknownVersion)
    (hk : IsWrapped key.toPem k) (hc : IsWrapped (Pem.encodeBlock .certificate der) c) :
    loadIdentity (some k) (some c) = .error (.certificate .unknownVersion) := by
  have hbundle : bundle c.toList = .ok ⟨none, [der]⟩ := by
    have hblock := Pem.Bundle.ofText_chain [der]
    rw [List.flatMap_singleton] at hblock
    rw [bundle_wrapped hc, hblock]
    rfl
  have hstops : StopsChain c.toList :=
    ⟨⟨none, [der]⟩, [], der, [], bundle_eq_ok_iff.1 hbundle, rfl, nofun, hder⟩
  have hreads : ReadsKey k.toList := decodeKey_ok_iff.1 ⟨some key, decodeKey_wrapped hvalid hk⟩
  have hblock : Pem.encodeBlock .certificate der ≠ [] := nofun
  exact loadIdentity_of_unknownVersion (isUnset_wrapped hk (toPem_ne_nil key))
    (isUnset_wrapped hc hblock) (decodeBoth_unknownVersion_iff.2 ⟨hreads, hstops⟩)

theorem loadTrust_wrapped {c : String} (hnotempty : chain ≠ [])
    (hchain : ∀ c ∈ chain, Certificate.ofDer c.der = .ok c)
    (hc : IsWrapped (Certificate.chainPem chain) c) :
    loadTrust (some c) = .ok (some ⟨chain⟩, []) := by
  rw [loadTrust, isUnset_wrapped hc (chainPem_ne_nil hnotempty), decodeChain_wrapped hchain hc]
  rfl

/-- **An identity that was loaded is loaded again from what it writes**, wherever blanks are put into
the two texts, and without a record; and a client that is told its chain trusts that chain. -/
theorem loadIdentity_again {key certs : Option String} {identity : Identity} {logs : List LogRecord}
    (h : loadIdentity key certs = .ok (some identity, logs)) :
    ∃ pem, identity.keyPem = .ok pem ∧ ∀ k c : String, IsWrapped pem k →
      IsWrapped identity.chainPem c →
        loadIdentity (some k) (some c) = .ok (some identity, []) ∧
          loadTrust (some c) = .ok (some ⟨identity.chain⟩, []) := by
  obtain ⟨⟨found, hkey, hvalid⟩, hnotempty, hchain, -⟩ := loadIdentity_eq_some h
  obtain ⟨held, chain⟩ := identity
  subst hkey
  refine ⟨found.toPem, rfl, ?_⟩
  intro k c hk hc
  exact ⟨loadIdentity_wrapped hvalid hnotempty hchain hk hc, loadTrust_wrapped hnotempty hchain hc⟩

/-! ## Small certificates -/

/-- A configured text that wraps `text`, with some blanks in front. -/
def wrap (blanks : List Char) (text : List Char) : String :=
  String.ofList (blanks ++ Alphabet.standard.encodePadded (Utf8.encode text))

theorem isWrapped_wrap (blanks : List Char) (h : Text.isBlankText blanks = true)
    (text : List Char) : IsWrapped text (wrap blanks text) := by
  rw [IsWrapped, wrap, String.toList_ofList]
  exact .blanks_append h (.refl _)

theorem respaced_wrap (blanks : List Char) (h : Text.isBlankText blanks = true)
    (text : List Char) : Respaced (some (wrap [] text)) (some (wrap blanks text)) := by
  refine .some ?_
  rw [wrap, wrap, String.toList_ofList, String.toList_ofList]
  exact .blanks_append h (.refl _)

/-- The bytes of a certificate of an Ed25519 key whose names are empty. The bytes `front`, which may
tell a version, stand before its fields. -/
def namelessCertificate (front : List UInt8) : List UInt8 :=
  let algorithm := Der.encode Der.sequenceTag (Der.encode Der.identifierTag RawKind.ed25519.identifier)
  let time := fun digits : String => Der.encode Der.utcTimeTag (Utf8.encode digits.toList)
  let validity := Der.encode Der.sequenceTag (time "250101000000Z" ++ time "350101000000Z")
  let name := Der.encode Der.sequenceTag []
  let key := Der.encode Der.sequenceTag (algorithm ++ Der.encodeBitString (List.replicate 32 9))
  let signed := [front, Der.encodeNat 1, algorithm, name, validity, name, key].flatten
  Der.encode Der.sequenceTag
    (Der.encode Der.sequenceTag signed ++ (algorithm ++ Der.encodeBitString (List.replicate 64 9)))

theorem ofDer_namelessCertificate :
    ∃ c, Certificate.ofDer (namelessCertificate []) = .ok c ∧ c.der = namelessCertificate [] := by
  have hfields : (Certificate.Fields.ofDer? (namelessCertificate [])).any (·.version == 0) = true := by
    decide +kernel
  cases h : Certificate.Fields.ofDer? (namelessCertificate []) with
  | none =>
    rw [h] at hfields
    cases hfields
  | some fields =>
    rw [h] at hfields
    refine ⟨⟨namelessCertificate [], fields⟩, ?_, rfl⟩
    rw [Certificate.ofDer, h]
    exact if_pos (Or.inl (LawfulBEq.eq_of_beq hfields))

/-- A certificate that tells a version that does not exist. -/
def unknownVersionCertificate : List UInt8 :=
  namelessCertificate (Der.encode (Der.explicitTag 0) (Der.encodeNat 9))

theorem ofDer_unknownVersionCertificate :
    Certificate.ofDer unknownVersionCertificate = .error .unknownVersion := by
  have hfields : (Certificate.Fields.ofDer? unknownVersionCertificate).any (·.version == 9) = true := by
    decide +kernel
  cases h : Certificate.Fields.ofDer? unknownVersionCertificate with
  | none =>
    rw [h] at hfields
    cases hfields
  | some fields =>
    rw [h] at hfields
    have hversion : fields.version = 9 := LawfulBEq.eq_of_beq hfields
    rw [Certificate.ofDer, h]
    exact if_neg (by rw [hversion]; decide)

/-- A key of fixed length. -/
def plainKey : PrivateKey := .raw .ed25519 (List.replicate 32 7)

theorem plainKey_isValid : plainKey.isValid = true := by decide

/-- An identity of a small key and two certificates is loaded again from texts that begin with
blanks. -/
theorem loadIdentity_again_plainKey : ∃ c : Certificate, c.der = namelessCertificate [] ∧
    loadIdentity (some (wrap [] plainKey.toPem)) (some (wrap [] (Certificate.chainPem [c, c]))) =
      .ok (some ⟨some plainKey, [c, c]⟩, []) ∧
    loadIdentity (some (wrap [' ', '\n'] plainKey.toPem))
        (some (wrap ['\t'] (Certificate.chainPem [c, c]))) = .ok (some ⟨some plainKey, [c, c]⟩, []) ∧
    loadTrust (some (wrap ['\t'] (Certificate.chainPem [c, c]))) = .ok (some ⟨[c, c]⟩, []) := by
  obtain ⟨c, hc, hder⟩ := ofDer_namelessCertificate
  have hchain : ∀ c' ∈ [c, c], Certificate.ofDer c'.der = .ok c' := by
    intro c' hc'
    simp only [List.mem_cons, List.not_mem_nil, or_false, or_self] at hc'
    rw [hc', hder, hc]
  have hload := loadIdentity_wrapped plainKey_isValid (List.cons_ne_nil c [c]) hchain
    (isWrapped_wrap [] rfl plainKey.toPem) (isWrapped_wrap [] rfl _)
  obtain ⟨pem, hpem, hagain⟩ := loadIdentity_again hload
  cases hpem
  have h := hagain _ _ (isWrapped_wrap [' ', '\n'] (by decide) plainKey.toPem)
    (isWrapped_wrap ['\t'] (by decide) _)
  exact ⟨c, hder, hload, h.1, h.2⟩

end QuoteService.Tls
