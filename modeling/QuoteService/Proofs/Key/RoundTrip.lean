import QuoteService.Proofs.Der.Algorithms
import QuoteService.Proofs.Key.Validity

/-!
# Written keys are read back

Whatever form a key was read from, it is written in one form, and reading that form gives the key.

* `isAlgorithm_algorithmContent`: the algorithm of a key is one, and its parameters are short.
* `ofAlgorithm_body`: the parts of a valid key make that key, one lemma for each kind of key.
* `general?_toDer`: a written key is read through its algorithm.
* `ofDer_toDer`: **a valid key is read back from its bytes.**
-/

namespace QuoteService.PrivateKey

open Der

variable {k : PrivateKey}

/-! ## How long the parts are -/

/-- **A number that is not too big to compute with has a short content.** -/
theorem isShortNat_of_log2 {n : Nat} (h : n.log2 < maxBits) : IsShortNat n := by
  have hbytes := length_bigEndian_le_log2 n
  have hcontent := length_natContent_le n
  unfold maxBits at h
  unfold IsShortNat
  omega

theorem isShortNat_of_isHeld (h : k.isHeld = true) : ∀ n ∈ k.numbers, IsShortNat n := by
  intro n hn
  have hn := List.all_eq_true.1 h n hn
  exact isShortNat_of_log2 (of_decide_eq_true hn)

/-- The content of the identifier of the algorithm of a key. -/
def identifier : PrivateKey → List UInt8
  | ec _ _ => Algorithm.curveKey
  | rsa _ => Algorithm.rsa
  | dsa _ => Algorithm.modularKey
  | agreement k =>
    if k.order.isSome then Algorithm.agreementKey else Algorithm.plainAgreementKey
  | raw kind _ => kind.identifier

/-- The parameters of the algorithm of a key. -/
def parameters : PrivateKey → List Element
  | ec curve _ => [⟨identifierTag, curve.parameters.identifier⟩]
  | rsa _ => [⟨nullTag, []⟩]
  | dsa k => [⟨sequenceTag, [k.modulus, k.order, k.generator].flatMap encodeNat⟩]
  | agreement k => [⟨sequenceTag, ([k.modulus, k.generator] ++ k.order.toList).flatMap encodeNat⟩]
  | raw _ _ => []

/-- The content of the algorithm of a key. -/
def algorithmContent (k : PrivateKey) : List UInt8 :=
  ((⟨identifierTag, k.identifier⟩ : Element) :: k.parameters).flatMap Element.encode

theorem algorithm_eq (k : PrivateKey) : k.algorithm = encode sequenceTag k.algorithmContent := by
  cases k <;>
    simp [algorithm, algorithmContent, algorithmDer, identifier, parameters, Element.encode]

theorem isIdentifier_identifier (k : PrivateKey) : isIdentifier k.identifier = true := by
  cases k with
  | ec _ _ =>
    show isIdentifier Algorithm.curveKey = true
    decide
  | rsa _ =>
    show isIdentifier Algorithm.rsa = true
    decide
  | dsa _ =>
    show isIdentifier Algorithm.modularKey = true
    decide
  | agreement numbers =>
    rw [identifier]
    split
    · decide
    · decide
  | raw kind _ =>
    show isIdentifier kind.identifier = true
    cases kind <;> decide

theorem length_identifier_le (k : PrivateKey) : k.identifier.length ≤ 63 := by
  have h := isIdentifier_identifier k
  simp only [isIdentifier, Bool.and_eq_true] at h
  exact of_decide_eq_true h.1.2

/-- A parameter is one element, of three short numbers at most. -/
theorem isShort_parameters (h : k.isHeld = true) :
    ∀ e ∈ k.parameters, e.IsShort ∧ e.content.length ≤ 3 * (2 ^ 26 + 6) := by
  have hnumbers := isShortNat_of_isHeld h
  have hsequence : ∀ ns : List Nat, ns.length ≤ 3 → (∀ n ∈ ns, n ∈ k.numbers) →
      (⟨sequenceTag, ns.flatMap encodeNat⟩ : Element).IsShort ∧
        (ns.flatMap encodeNat).length ≤ 3 * (2 ^ 26 + 6) := by
    intro ns hcount hmem
    have hlength := length_nats_le fun n hn => hnumbers n (hmem n hn)
    have hbound : (ns.flatMap encodeNat).length ≤ 3 * (2 ^ 26 + 6) :=
      Nat.le_trans hlength (Nat.mul_le_mul_right _ hcount)
    exact Element.isShort_of_le (by decide) hbound (by omega)
  intro e he
  cases k with
  | ec curve _ =>
    obtain rfl := List.mem_singleton.1 he
    have hlength : curve.parameters.identifier.length ≤ 9 := by cases curve <;> decide
    exact Element.isShort_of_le (by decide) (by omega) (by omega)
  | rsa _ =>
    obtain rfl := List.mem_singleton.1 he
    exact Element.isShort_of_le (by decide) (Nat.zero_le _) (by omega)
  | dsa numbers =>
    obtain rfl := List.mem_singleton.1 he
    refine hsequence _ (Nat.le_refl 3) ?_
    intro n hn
    simp only [List.mem_cons, List.not_mem_nil, or_false] at hn
    simp only [PrivateKey.numbers, List.mem_cons]
    tauto
  | agreement numbers =>
    obtain rfl := List.mem_singleton.1 he
    refine hsequence _ ?_ ?_
    · cases numbers.order <;> simp
    · intro n hn
      simp only [PrivateKey.numbers]
      exact List.mem_append_left _ hn
  | raw _ _ => cases he

theorem length_parameters_le (k : PrivateKey) : k.parameters.length ≤ 1 := by
  cases k <;> simp [parameters]

theorem elements?_algorithmContent (h : k.isHeld = true) :
    elements? k.algorithmContent = some (⟨identifierTag, k.identifier⟩ :: k.parameters) := by
  have hidentifier := length_identifier_le k
  refine elements?_flatMap_encode _ ?_
  intro e he
  rcases List.mem_cons.1 he with rfl | he
  · exact (Element.isShort_of_le (by decide) hidentifier (by omega)).1
  · exact (isShort_parameters h e he).1

theorem length_algorithmContent_le (h : k.isHeld = true) :
    k.algorithmContent.length ≤ 2 ^ 28 := by
  have hidentifier := length_identifier_le k
  have hparameters := length_parameters_le k
  have hfirst : (encode identifierTag k.identifier).length ≤ 63 + 6 :=
    length_encode_le_of_le (by decide) hidentifier (by omega)
  have hrest := length_flatMap_encode_le _ (isShort_parameters h)
  have hmul : k.parameters.length * (3 * (2 ^ 26 + 6) + 6) ≤ 1 * (3 * (2 ^ 26 + 6) + 6) :=
    Nat.mul_le_mul_right _ hparameters
  have hsplit : k.algorithmContent =
      encode identifierTag k.identifier ++ k.parameters.flatMap Element.encode := rfl
  rw [hsplit, List.length_append]
  omega

/-- **The algorithm of a key is one.** -/
theorem isAlgorithm_algorithmContent (h : k.isHeld = true) :
    Algorithm.isAlgorithm k.algorithmContent = true := by
  have hnumbers := isShortNat_of_isHeld h
  rw [Algorithm.isAlgorithm_eq (elements?_algorithmContent h), isIdentifier_identifier,
    Bool.true_and]
  -- no parameter of a key holds another algorithm, so the reader of those does not matter
  generalize Algorithm.isAlgorithmWithin (k.algorithmContent.length - 1) = inner
  cases k with
  | ec curve _ =>
    show (Algorithm.shapeOf inner Algorithm.curveKey).fits
      [⟨identifierTag, curve.parameters.identifier⟩] = true
    rw [Algorithm.shapeOf_curveKey]
    cases curve <;> rfl
  | rsa _ =>
    show (Algorithm.shapeOf inner Algorithm.rsa).fits [⟨nullTag, []⟩] = true
    rw [Algorithm.shapeOf_rsa]
    rfl
  | dsa numbers =>
    show (Algorithm.shapeOf inner Algorithm.modularKey).fits _ = true
    rw [Algorithm.shapeOf_modularKey]
    refine Algorithm.fits_nats [numbers.modulus, numbers.order, numbers.generator] ?_ [] nofun
    intro n hn
    refine hnumbers n ?_
    simp only [List.mem_cons, List.not_mem_nil, or_false] at hn
    simp only [PrivateKey.numbers, List.mem_cons]
    tauto
  | agreement numbers =>
    obtain ⟨modulus, generator, order, secret⟩ := numbers
    cases order with
    | none =>
      show (Algorithm.shapeOf inner Algorithm.plainAgreementKey).fits _ = true
      rw [Algorithm.shapeOf_plainAgreementKey]
      refine Algorithm.fits_nats [modulus, generator]
        (fun n hn => hnumbers n (List.mem_append_left _ hn)) [_] ?_
      intro f hf
      obtain rfl := List.mem_singleton.1 hf
      rfl
    | some order =>
      show (Algorithm.shapeOf inner Algorithm.agreementKey).fits _ = true
      rw [Algorithm.shapeOf_agreementKey]
      refine Algorithm.fits_nats [modulus, generator, order]
        (fun n hn => hnumbers n (List.mem_append_left _ hn)) [_, _] ?_
      intro f hf
      simp only [List.mem_cons, List.not_mem_nil, or_false] at hf
      rcases hf with rfl | rfl
      · rfl
      · rfl
  | raw kind _ =>
    show (Algorithm.shapeOf inner kind.identifier).fits [] = true
    rw [Algorithm.shapeOf_absent inner (by cases kind <;> decide)
      (by cases kind <;> decide)]
    rfl

/-! ## The readers that algorithms name -/

section Readers

variable (tag : Nat) (parameters : List Element) (key : List UInt8)

theorem ofAlgorithm_rsa : ofAlgorithm (⟨tag, Algorithm.rsa⟩ :: parameters) key =
    ofAlgorithm.ofOption (ofRsaForm? key) := by
  simp only [ofAlgorithm, true_or, if_true]

theorem ofAlgorithm_curveKey {form : CurveForm} (h : CurveForm.ofDer? key = some form) :
    ofAlgorithm (⟨tag, Algorithm.curveKey⟩ :: parameters) key = form.key parameters.head? := by
  simp only [ofAlgorithm]
  rw [if_neg (by decide), if_true, h]

theorem ofAlgorithm_modularKey : ofAlgorithm (⟨tag, Algorithm.modularKey⟩ :: parameters) key =
    ofAlgorithm.ofOption (ofDsaParts? parameters key) := by
  simp only [ofAlgorithm]
  rw [if_neg (by decide), if_neg (by decide), if_true]

theorem ofAlgorithm_agreementKey : ofAlgorithm (⟨tag, Algorithm.agreementKey⟩ :: parameters) key =
    ofAlgorithm.ofOption (ofAgreementParts? true parameters key) := by
  simp only [ofAlgorithm]
  rw [if_neg (by decide), if_neg (by decide), if_neg (by decide), if_true]

theorem ofAlgorithm_plainAgreementKey :
    ofAlgorithm (⟨tag, Algorithm.plainAgreementKey⟩ :: parameters) key =
      ofAlgorithm.ofOption (ofAgreementParts? false parameters key) := by
  simp only [ofAlgorithm]
  rw [if_neg (by decide), if_neg (by decide), if_neg (by decide),
    if_neg (by decide), if_true]

theorem ofAlgorithm_raw (kind : RawKind) :
    ofAlgorithm (⟨tag, kind.identifier⟩ :: parameters) key =
      ofAlgorithm.ofOption (ofRawForm? kind key) := by
  have hkind : RawKind.ofIdentifier? kind.identifier = some kind := by cases kind <;> decide
  simp only [ofAlgorithm]
  rw [if_neg (by cases kind <;> decide), if_neg (by cases kind <;> decide),
    if_neg (by cases kind <;> decide), if_neg (by cases kind <;> decide),
    if_neg (by cases kind <;> decide), hkind]

end Readers

/-! ## The key itself -/

/-- The numbers of written integers. -/
theorem nats?_map_natElement (ns : List Nat) : nats? (ns.map natElement) = some ns := by
  induction ns with
  | nil => rfl
  | cons n ns ih =>
    rw [nats?] at ih
    rw [nats?, List.map_cons, List.mapM_cons, ih]
    simp [natElement, nat?_natContent]

theorem afterVersion?_natElement (n : Nat) (es : List Element) :
    afterVersion? n (natElement n :: es) = some es := by
  rw [natElement, afterVersion?, if_pos ⟨rfl, nat?_natContent n⟩]

section Curve

variable (curve : Curve) (secret : Nat)

/-- The elements of a written curve key. -/
def curveElements : List Element :=
  [natElement 1, ⟨octetStringTag, fixedBytes curve.secretLength secret⟩,
    ⟨explicitTag 1, encodeBitString ((curve.publicPoint secret).encode curve)⟩]

theorem body_ec : (ec curve secret).body =
    encode sequenceTag ((curveElements curve secret).flatMap Element.encode) := by
  simp [body, curveElements, Element.encode, natElement, encodeNat]

theorem length_le : curve.coordinateLength ≤ 66 ∧ curve.secretLength ≤ 66 := by
  cases curve <;> decide +kernel

theorem length_point (p : Point) : (p.encode curve).length = 2 * curve.coordinateLength + 1 := by
  rw [Point.encode, List.length_cons, List.length_append, length_fixedBytes, length_fixedBytes]
  omega

/-- The content of a point as a bit string. -/
theorem length_pointBits_le (p : Point) : (0 :: p.encode curve).length ≤ 134 := by
  have hcoordinate := (length_le curve).1
  have hlength := length_point curve p
  rw [List.length_cons]
  omega

theorem isShortLength_pointBits (p : Point) : IsShortLength (0 :: p.encode curve).length := by
  have hlength := length_pointBits_le curve p
  show (0 :: p.encode curve).length < 256 ^ 4
  omega

theorem length_encodeBitString_le (p : Point) : (encodeBitString (p.encode curve)).length ≤ 140 :=
  length_encode_le_of_le (by decide) (length_pointBits_le curve p) (by omega)

theorem isShort_curveElements : ∀ e ∈ curveElements curve secret,
    e.IsShort ∧ e.content.length ≤ 140 := by
  have hnumber : (natContent 1).length ≤ 140 := by simp [natContent, bigEndian]
  have hsecret : (fixedBytes curve.secretLength secret).length ≤ 140 := by
    rw [length_fixedBytes]
    exact Nat.le_trans (length_le curve).2 (by decide)
  have hpoint := length_encodeBitString_le curve (curve.publicPoint secret)
  intro e he
  simp only [curveElements, List.mem_cons, List.not_mem_nil, or_false] at he
  rcases he with rfl | rfl | rfl
  · exact Element.isShort_of_le (by decide) hnumber (by omega)
  · exact Element.isShort_of_le (by decide) hsecret (by omega)
  · exact Element.isShort_of_le (by decide) hpoint (by omega)

theorem length_curveElements_le :
    ((curveElements curve secret).flatMap Element.encode).length ≤ 3 * (140 + 6) :=
  length_flatMap_encode_le (curveElements curve secret) (isShort_curveElements curve secret)

theorem haveFields_curveElements : haveFields curveFields (curveElements curve secret) = true := by
  have hversion : (nat? (natContent 1)).any (· < Nat.pow 2 8) = true := by
    rw [nat?_natContent]
    rfl
  have hbits := elements?_encode (show IsShortTag bitStringTag by decide)
    (isShortLength_pointBits curve (curve.publicPoint secret))
  have hpoint : (elements? (encodeBitString ((curve.publicPoint secret).encode curve))).any
      (haveFields [.bits]) = true := by
    rw [encodeBitString, hbits]
    simp [haveFields, Field.bits, Field.required, isBitString_zero_cons]
  -- the curve is left out, since an element of another type stands in its place
  simp [curveFields, curveElements, haveFields, Field.word, Field.octets, Field.required,
    Field.tagged, natElement, hversion, hpoint, explicitTag]

/-- **A curve key is read back in its parts**: the secret in all its bytes, no curve, and the public
point. -/
theorem ofDer?_body_ec : CurveForm.ofDer? (ec curve secret).body =
    some ⟨fixedBytes curve.secretLength secret, none,
      some ((curve.publicPoint secret).encode curve)⟩ := by
  have hlength := length_curveElements_le curve secret
  have hsequence : sequence? (ec curve secret).body = some (curveElements curve secret) := by
    rw [body_ec, sequence?_encode (show _ < 256 ^ 4 by omega)]
    exact elements?_flatMap_encode _ fun e he => (isShort_curveElements curve secret e he).1
  have hbits : elements? (encodeBitString ((curve.publicPoint secret).encode curve)) =
      some [⟨bitStringTag, 0 :: (curve.publicPoint secret).encode curve⟩] :=
    elements?_encode (by decide) (isShortLength_pointBits curve (curve.publicPoint secret))
  have hversion : afterVersion? 1 (curveElements curve secret) =
      some (curveElements curve secret).tail := afterVersion?_natElement 1 _
  simp only [CurveForm.ofDer?, hsequence, Option.bind_eq_bind, Option.bind_some,
    haveFields_curveElements, if_true, hversion]
  simp [curveElements, inner?, explicitTag, hbits, bitStringBytes?_zero_cons]

/-- The secret of a curve fits into the bytes that a secret takes. -/
theorem order_lt : curve.parameters.order < 256 ^ curve.secretLength :=
  lt_pow_log2 curve.parameters.order

theorem curveOf_identifier :
    curveOf ⟨identifierTag, curve.parameters.identifier⟩ = .ok curve := by
  rw [curveOf, if_pos rfl, Curve.ofIdentifier?_identifier]

/-- **The parts of a written curve key make that key.** -/
theorem ofAlgorithm_body_ec (h : (ec curve secret).isValid = true) :
    ofAlgorithm (⟨identifierTag, (ec curve secret).identifier⟩ :: (ec curve secret).parameters)
      (ec curve secret).body = .ok (ec curve secret) := by
  have hfits : (ec curve secret).fits = true := (Bool.and_eq_true_iff.1 h).2
  have hsecret : secret < curve.parameters.order :=
    of_decide_eq_true (Bool.and_eq_true_iff.1 hfits).2
  have hvalue : ofBigEndian (fixedBytes curve.secretLength secret) = secret :=
    ofBigEndian_fixedBytes _ _ (Nat.lt_trans hsecret (order_lt curve))
  have hcurve : agreedCurve (ec curve secret).parameters.head? none = .ok curve :=
    curveOf_identifier curve
  -- the point that is written is the one of the secret, in the first of its three forms
  have hpoint : ((curve.publicPoint secret).encodings curve).contains
      ((curve.publicPoint secret).encode curve) = true :=
    List.contains_iff_mem.2 List.mem_cons_self
  rw [identifier, ofAlgorithm_curveKey _ _ _ (ofDer?_body_ec curve secret)]
  simp only [CurveForm.key, hcurve, bind, Except.bind, hvalue, checked_of_isValid h,
    length_fixedBytes, Option.all_some, hpoint, and_self, if_true]

end Curve

/-- **The numbers in a parameter are read back.** -/
theorem parameterNats?_written {ns : List Nat} (h : ∀ n ∈ ns, IsShortNat n) :
    parameterNats? [⟨sequenceTag, ns.flatMap encodeNat⟩] = some ns := by
  have hall : (ns.map natElement).filter (fun e => e.tag == integerTag) = ns.map natElement := by
    refine List.filter_eq_self.2 ?_
    intro e he
    obtain ⟨n, -, rfl⟩ := List.mem_map.1 he
    rfl
  simp only [parameterNats?, List.head?_cons, Option.bind_eq_bind, Option.bind_some,
    elements?_nats h, hall, nats?_map_natElement]

theorem secret?_encodeNat {n : Nat} (h : IsShortNat n) : secret? (encodeNat n) = some n :=
  whole?_encodeNat h

section Numbers

variable {rsaNumbers : RsaNumbers} {dsaNumbers : DsaNumbers} {agreementNumbers : AgreementNumbers}

/-- The numbers of a written RSA key, behind its version. -/
theorem isShortNat_rsa (h : (rsa rsaNumbers).isHeld = true) :
    ∀ n ∈ 0 :: rsaNumbers.toList, IsShortNat n := by
  intro n hn
  rcases List.mem_cons.1 hn with rfl | hn
  · exact isShortNat_of_log2 (by decide)
  · exact isShortNat_of_isHeld h n hn

theorem ofAlgorithm_body_rsa (h : (rsa rsaNumbers).isValid = true) :
    ofAlgorithm (⟨identifierTag, (rsa rsaNumbers).identifier⟩ :: (rsa rsaNumbers).parameters)
      (rsa rsaNumbers).body = .ok (rsa rsaNumbers) := by
  have hshort := isShortNat_rsa (Bool.and_eq_true_iff.1 h).1
  have hlength := length_nats_le hshort
  have hcount : (0 :: rsaNumbers.toList).length = 9 := rfl
  have hbody : (rsa rsaNumbers).body =
      encode sequenceTag ((0 :: rsaNumbers.toList).flatMap encodeNat) := rfl
  have hsequence : sequence? (rsa rsaNumbers).body =
      some ((0 :: rsaNumbers.toList).map natElement) := by
    rw [hcount] at hlength
    rw [hbody, sequence?_encode (show _ < 256 ^ 4 by omega), elements?_nats hshort]
  have hnumbers : RsaNumbers.ofList? rsaNumbers.toList = some rsaNumbers := rfl
  rw [identifier, ofAlgorithm_rsa, ofRsaForm?, hsequence]
  simp only [Option.bind_eq_bind, Option.bind_some, List.map_cons, afterVersion?_natElement,
    nats?_map_natElement, hnumbers, checked_of_isValid h, ofAlgorithm.ofOption]

theorem ofAlgorithm_body_dsa (h : (dsa dsaNumbers).isValid = true) :
    ofAlgorithm (⟨identifierTag, (dsa dsaNumbers).identifier⟩ :: (dsa dsaNumbers).parameters)
      (dsa dsaNumbers).body = .ok (dsa dsaNumbers) := by
  have hshort := isShortNat_of_isHeld (Bool.and_eq_true_iff.1 h).1
  have hparameter : parameterNats? (dsa dsaNumbers).parameters =
      some [dsaNumbers.modulus, dsaNumbers.order, dsaNumbers.generator] := by
    refine parameterNats?_written ?_
    intro n hn
    exact hshort n (List.mem_append_left [dsaNumbers.secret] hn)
  have hsecret : secret? (dsa dsaNumbers).body = some dsaNumbers.secret :=
    secret?_encodeNat (hshort _ (by simp [PrivateKey.numbers]))
  rw [identifier, ofAlgorithm_modularKey, ofDsaParts?, hparameter, hsecret]
  simp only [Option.bind_eq_bind, Option.bind_some, checked_of_isValid h, ofAlgorithm.ofOption]

/-- **The parts of a Diffie-Hellman key**: whether the order is told decides which of the two
algorithms is named. -/
theorem ofAlgorithm_body_agreement (h : (agreement agreementNumbers).isValid = true) :
    ofAlgorithm (⟨identifierTag, (agreement agreementNumbers).identifier⟩ ::
      (agreement agreementNumbers).parameters) (agreement agreementNumbers).body =
        .ok (agreement agreementNumbers) := by
  have hshort := isShortNat_of_isHeld (Bool.and_eq_true_iff.1 h).1
  have hparameter : parameterNats? (agreement agreementNumbers).parameters =
      some ([agreementNumbers.modulus, agreementNumbers.generator] ++
        agreementNumbers.order.toList) := by
    refine parameterNats?_written ?_
    intro n hn
    exact hshort n (List.mem_append_left _ hn)
  have hsecret : secret? (agreement agreementNumbers).body = some agreementNumbers.secret :=
    secret?_encodeNat (hshort _ (by simp [PrivateKey.numbers]))
  obtain ⟨modulus, generator, order, secret⟩ := agreementNumbers
  -- the order is the third parameter or none, and each form has an algorithm of its own
  cases order with
  | none =>
    show ofAlgorithm (⟨identifierTag, Algorithm.plainAgreementKey⟩ :: _) _ = _
    rw [ofAlgorithm_plainAgreementKey, ofAgreementParts?, hparameter, hsecret]
    simp only [Option.bind_eq_bind, Option.bind_some, Option.toList_none, List.append_nil,
      Bool.false_eq_true, if_false, checked_of_isValid h, ofAlgorithm.ofOption]
  | some order =>
    show ofAlgorithm (⟨identifierTag, Algorithm.agreementKey⟩ :: _) _ = _
    rw [ofAlgorithm_agreementKey, ofAgreementParts?, hparameter, hsecret]
    simp only [Option.bind_eq_bind, Option.bind_some, Option.toList_some, List.cons_append,
      List.nil_append, if_true, List.head?_cons, checked_of_isValid h, ofAlgorithm.ofOption]

end Numbers

theorem length_raw {kind : RawKind} {secret : List UInt8} (h : (raw kind secret).isValid = true) :
    secret.length ≤ 57 := by
  have hfits : (raw kind secret).fits = true := (Bool.and_eq_true_iff.1 h).2
  have hlength : secret.length = kind.length := LawfulBEq.eq_of_beq hfits
  have hkind : kind.length ≤ 57 := by cases kind <;> decide
  omega

theorem ofAlgorithm_body_raw {kind : RawKind} {secret : List UInt8}
    (h : (raw kind secret).isValid = true) :
    ofAlgorithm (⟨identifierTag, (raw kind secret).identifier⟩ :: (raw kind secret).parameters)
      (raw kind secret).body = .ok (raw kind secret) := by
  have hlength := length_raw h
  have hwhole : whole? octetStringTag (raw kind secret).body = some secret :=
    whole?_encode (by decide) (show _ < 256 ^ 4 by omega)
  rw [identifier, ofAlgorithm_raw, ofRawForm?, hwhole, Option.bind_some, checked_of_isValid h]
  rfl

/-- **The parts of a valid key make that key.** -/
theorem ofAlgorithm_body (h : k.isValid = true) :
    ofAlgorithm (⟨identifierTag, k.identifier⟩ :: k.parameters) k.body = .ok k := by
  cases k with
  | ec curve secret => exact ofAlgorithm_body_ec curve secret h
  | rsa _ => exact ofAlgorithm_body_rsa h
  | dsa _ => exact ofAlgorithm_body_dsa h
  | agreement _ => exact ofAlgorithm_body_agreement h
  | raw _ _ => exact ofAlgorithm_body_raw h

/-! ## The whole key -/

/-- The key itself is short enough to be held in a byte string. -/
theorem length_body_le (h : k.isValid = true) : k.body.length ≤ 2 ^ 30 := by
  -- what a curve or a kind fixes is short anyway; numbers are short since they can be held
  have hshort := isShortNat_of_isHeld (Bool.and_eq_true_iff.1 h).1
  cases k with
  | ec curve secret =>
    have hle := length_encode_le_of_le (show IsShortTag sequenceTag by decide)
      (length_curveElements_le curve secret) (by omega)
    rw [body_ec]
    omega
  | rsa numbers =>
    have hlength := length_nats_le (isShortNat_rsa (Bool.and_eq_true_iff.1 h).1)
    have hcount : (0 :: numbers.toList).length = 9 := rfl
    rw [hcount] at hlength
    have hle := length_encode_le_of_le (show IsShortTag sequenceTag by decide) hlength (by omega)
    have hbody : (rsa numbers).body =
        encode sequenceTag ((0 :: numbers.toList).flatMap encodeNat) := rfl
    rw [hbody]
    omega
  | dsa numbers =>
    have hle := length_encodeNat_le (hshort numbers.secret (by simp [PrivateKey.numbers]))
    show (encodeNat numbers.secret).length ≤ 2 ^ 30
    omega
  | agreement numbers =>
    have hle := length_encodeNat_le (hshort numbers.secret (by simp [PrivateKey.numbers]))
    show (encodeNat numbers.secret).length ≤ 2 ^ 30
    omega
  | raw kind secret =>
    have hle := length_encode_le_of_le (show IsShortTag octetStringTag by decide) (length_raw h)
      (by omega)
    show (encode octetStringTag secret).length ≤ 2 ^ 30
    omega

/-- The elements of a written key. -/
def elements (k : PrivateKey) : List Element :=
  [natElement 0, ⟨sequenceTag, k.algorithmContent⟩, ⟨octetStringTag, k.body⟩]

theorem toDer_eq (k : PrivateKey) :
    k.toDer = encode sequenceTag (k.elements.flatMap Element.encode) := by
  simp [toDer, elements, algorithm_eq, Element.encode, natElement, encodeNat]

theorem isShort_elements (h : k.isValid = true) :
    ∀ e ∈ k.elements, e.IsShort ∧ e.content.length ≤ 2 ^ 30 := by
  have halgorithm := length_algorithmContent_le (Bool.and_eq_true_iff.1 h).1
  have hbody := length_body_le h
  have hversion : (natContent 0).length ≤ 1 := by simp [natContent, bigEndian]
  intro e he
  simp only [elements, List.mem_cons, List.not_mem_nil, or_false] at he
  rcases he with rfl | rfl | rfl
  · exact Element.isShort_of_le (by decide) (by omega) (by omega)
  · exact Element.isShort_of_le (by decide) (by omega) (by omega)
  · exact Element.isShort_of_le (by decide) hbody (by omega)

theorem sequence?_toDer (h : k.isValid = true) : sequence? k.toDer = some k.elements := by
  have hlength := length_flatMap_encode_le _ (isShort_elements h)
  have hcount : k.elements.length = 3 := rfl
  rw [hcount] at hlength
  rw [toDer_eq, sequence?_encode (show _ < 256 ^ 4 by omega)]
  exact elements?_flatMap_encode _ fun e he => (isShort_elements h e he).1

/-- **A written key is read through its algorithm.** -/
theorem general?_toDer (h : k.isValid = true) :
    general? k.toDer = some (⟨identifierTag, k.identifier⟩ :: k.parameters, k.body) := by
  have hheld := (Bool.and_eq_true_iff.1 h).1
  have hversion : (nat? (natContent 0)).any (· < Nat.pow 2 8) = true := by
    rw [nat?_natContent]
    rfl
  have hfields : haveFields generalFields k.elements = true := by
    simp [generalFields, elements, haveFields, Field.word, Field.octets, Field.required, natElement,
      hversion, isAlgorithm_algorithmContent hheld]
  have hrest : afterVersion? 0 k.elements = some k.elements.tail := afterVersion?_natElement 0 _
  simp only [general?, sequence?_toDer h, Option.bind_eq_bind, Option.bind_some, hfields, if_true,
    hrest]
  simp [elements, elements?_algorithmContent hheld]

/-- **A valid key is read back from its bytes.** -/
theorem ofDer_toDer (h : k.isValid = true) : ofDer k.toDer = .ok k := by
  rw [ofDer, general?_toDer h]
  exact ofAlgorithm_body h

end QuoteService.PrivateKey
