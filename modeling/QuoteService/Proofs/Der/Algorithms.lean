import QuoteService.Der.Algorithm
import QuoteService.Proofs.Der.Elements

/-!
# Written algorithms are algorithms

* `isAlgorithm_eq`: an algorithm is an identifier and parameters of the form that it asks for.
* `shapeOf_rsa`, `shapeOf_curveKey`, …: the forms that the identifiers of keys ask for.
* `haveFields_nats`, `fits_nats`: numbers in a sequence have the form of numbers.
-/

namespace QuoteService.Der.Algorithm

/-- **An algorithm is an identifier and parameters of the form that it asks for.** The number is how
deeply other algorithms may stand in them. -/
theorem isAlgorithm_eq {content identifier : List UInt8} {parameters : List Element}
    (h : elements? content = some (⟨identifierTag, identifier⟩ :: parameters)) :
    isAlgorithm content = (isIdentifier identifier &&
      (shapeOf (isAlgorithmWithin (content.length - 1)) identifier).fits parameters) := by
  cases content with
  | nil => cases h
  | cons b r =>
    rw [isAlgorithm, List.length_cons, isAlgorithmWithin, h]
    simp only [beq_self_eq_true, Bool.true_and, Nat.add_sub_cancel]

/-! ## The forms of keys -/

variable (inner : List UInt8 → Bool)

theorem shapeOf_rsa : shapeOf inner rsa = .empty := by
  simp only [shapeOf]
  rw [if_pos (by decide)]

theorem shapeOf_curveKey : shapeOf inner curveKey = .curve := by
  simp only [shapeOf]
  rw [if_neg (by decide), if_neg (by decide), if_true]

theorem shapeOf_modularKey :
    shapeOf inner modularKey = .field (.record [.natural, .natural, .natural]) := by
  simp only [shapeOf]
  rw [if_neg (by decide), if_neg (by decide), if_neg (by decide),
    if_neg (by decide), if_true]

theorem shapeOf_agreementKey : shapeOf inner agreementKey =
    .field (.record [.natural, .natural, .natural, Field.natural.optional,
      (Field.required sequenceTag fun _ => true).optional]) := by
  simp only [shapeOf]
  rw [if_neg (by decide), if_neg (by decide), if_neg (by decide),
    if_neg (by decide), if_neg (by decide), if_true]

theorem shapeOf_plainAgreementKey : shapeOf inner plainAgreementKey =
    .field (.record [.natural, .natural, (Field.word 32).optional]) := by
  simp only [shapeOf]
  rw [if_neg (by decide), if_neg (by decide), if_neg (by decide),
    if_neg (by decide), if_neg (by decide), if_neg (by decide), if_true]

/-- A key of fixed length has no parameter. -/
theorem shapeOf_absent {identifier : List UInt8} (h : emptyFamily.contains identifier = false)
    (h' : absentFamily.contains identifier = true) : shapeOf inner identifier = .absent := by
  simp only [shapeOf]
  rw [h, if_neg Bool.false_ne_true, if_pos h']

/-! ## Numbers in a parameter -/

/-- Numbers stand for as many fields of natural numbers; what may follow may be left out. -/
theorem haveFields_nats (more : List Field) (hmore : ∀ f ∈ more, f.isOptional = true) (ns : List Nat) :
    haveFields (ns.map (fun _ => Field.natural) ++ more) (ns.map natElement) = true := by
  induction ns with
  | nil =>
    induction more with
    | nil => rfl
    | cons f more ih =>
      have hrest := ih fun g hg => hmore g (List.mem_cons_of_mem f hg)
      rw [List.map_nil, List.map_nil, List.nil_append] at hrest ⊢
      rw [haveFields, hmore f List.mem_cons_self, hrest]
      rfl
  | cons n ns ih =>
    rw [List.map_cons, List.map_cons, List.cons_append, haveFields]
    simp only [Field.natural, Field.required, natElement, Option.all_some, beq_self_eq_true, if_true,
      nat?_natContent, Option.isSome_some, Bool.true_and]
    exact ih

/-- **Numbers in a sequence have the form of a parameter of as many numbers.** -/
theorem fits_nats (ns : List Nat) (hns : ∀ n ∈ ns, IsShortNat n) (more : List Field)
    (hmore : ∀ f ∈ more, f.isOptional = true) :
    (Shape.field (.record (ns.map (fun _ => Field.natural) ++ more))).fits
      [⟨sequenceTag, ns.flatMap encodeNat⟩] = true := by
  simp only [Shape.fits, haveFields, Field.record, Field.required, Option.all_some, beq_self_eq_true,
    if_true, isRecord, elements?_nats hns, Option.any_some, haveFields_nats more hmore ns, List.isEmpty_nil,
    Bool.and_self]

end QuoteService.Der.Algorithm
