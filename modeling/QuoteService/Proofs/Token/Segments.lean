import Mathlib.Data.List.TakeWhile
import QuoteService.Proofs.Base64.Spelling
import QuoteService.Token.Signed

/-!
# The segments of a signed token

* `Segments.ofToken?_eq_some_iff`: a token is taken apart at its first and at its last point.
* `Opens`: what a token says whose signature is right.
* `openSigned_eq_ok_iff`: **a token is opened exactly if a usable key signed the first two of its
  three segments**, whatever else its text is.
-/

namespace QuoteService.Token

theorem takeWhile_point {a : List Char} (h : '.' ∉ a) (r : List Char) :
    (a ++ '.' :: r).takeWhile (· != '.') = a := by
  induction a with
  | nil => rfl
  | cons c a ih =>
    rw [List.mem_cons, not_or] at h
    rw [List.cons_append, List.takeWhile_cons_of_pos (by simpa using Ne.symm h.1), ih h.2]

theorem dropWhile_point {a : List Char} (h : '.' ∉ a) (r : List Char) :
    (a ++ '.' :: r).dropWhile (· != '.') = '.' :: r := by
  induction a with
  | nil => rfl
  | cons c a ih =>
    rw [List.mem_cons, not_or] at h
    rw [List.cons_append, List.dropWhile_cons_of_pos (by simpa using Ne.symm h.1), ih h.2]

/-- What is dropped up to a point starts with the point, and none stands before it. -/
theorem eq_of_dropWhile_point {cs r : List Char} {c : Char} (h : cs.dropWhile (· != '.') = c :: r) :
    cs = cs.takeWhile (· != '.') ++ '.' :: r := by
  have hc : c = '.' := by
    have hhead := List.head_dropWhile_not (p := (· != '.')) (l := cs) (by rw [h]; nofun)
    simpa [h] using hhead
  conv_lhs => rw [← List.takeWhile_append_dropWhile (p := (· != '.')) (l := cs), h, hc]

theorem point_notMem_takeWhile (cs : List Char) : '.' ∉ cs.takeWhile (· != '.') := by
  intro h
  simpa using List.mem_takeWhile_imp h

/-- **A token is taken apart at its first and at its last point.** -/
theorem Segments.ofToken?_eq_some_iff {cs : List Char} {s : Segments} :
    Segments.ofToken? cs = some s ↔ cs = s.toToken ∧ '.' ∉ s.header ∧ '.' ∉ s.signature := by
  constructor
  · intro h
    unfold Segments.ofToken? at h
    split at h
    · cases h
    · rename_i before hbefore
      dsimp only at h
      split at h
      · cases h
      · rename_i payload hpayload
        cases h
        refine ⟨?_, point_notMem_takeWhile _,
          fun h => point_notMem_takeWhile _ (List.mem_reverse.1 h)⟩
        -- the last point is the first one from behind
        have hlast := congrArg List.reverse (eq_of_dropWhile_point hbefore)
        rw [List.reverse_reverse, List.reverse_append, List.reverse_cons, List.append_assoc] at hlast
        rw [Segments.toToken, Segments.signed]
        conv_lhs => rw [hlast, eq_of_dropWhile_point hpayload]
        rfl
  · rintro ⟨rfl, hheader, hsignature⟩
    have hrev : s.toToken.reverse = s.signature.reverse ++ '.' :: s.signed.reverse := by
      rw [Segments.toToken, List.reverse_append, List.reverse_cons, List.append_assoc]
      rfl
    have hsignature : '.' ∉ s.signature.reverse := fun h => hsignature (List.mem_reverse.1 h)
    unfold Segments.ofToken?
    rw [hrev, dropWhile_point hsignature, takeWhile_point hsignature]
    simp only [List.reverse_reverse]
    rw [Segments.signed, dropWhile_point hheader, takeWhile_point hheader]

/-- A token whose header is acceptable and whose signature is right, and the members of its header
and of its payload. -/
structure Opens (key : List UInt8) (cs : List Char) (s : Segments)
    (header payload : List (Text × Json)) : Prop where
  token_eq : cs = s.toToken
  header_eq : (Base64.decodeUrl s.header).bind object? = some header
  payload_eq : (Base64.decodeUrl s.payload).bind object? = some payload
  signature_eq : Base64.decodeUrl s.signature = some (signatureOf key s.signed)
  accepted : headerAccepted header = true

/-- **A token is opened exactly if a usable key signed the first two of its three segments.** -/
theorem openSigned_eq_ok_iff {key : List UInt8} {usable : Bool} {cs : List Char}
    {payload : List (Text × Json)} :
    openSigned key usable cs = .ok payload ↔
      usable = true ∧ ∃ s header, Opens key cs s header payload := by
  constructor
  · -- all branches but one fail, and that one has passed every test
    intro h
    unfold openSigned at h
    split at h
    · cases h
    · rename_i s hs
      split at h
      · rename_i header bytes signature hheader hbytes hsignature
        split at h
        · cases h
        · rename_i hgood
          rw [not_or, Bool.not_eq_false, Bool.not_eq_false] at hgood
          split at h
          · cases h
          · rename_i hsigned
            split at h
            · cases h
            · rename_i members hmembers
              cases h
              refine ⟨hgood.2, s, header, (Segments.ofToken?_eq_some_iff.1 hs).1, hheader, ?_, ?_,
                hgood.1⟩
              · rw [hbytes]; exact hmembers
              · rw [hsignature, not_not.1 hsigned]
      · cases h
  · rintro ⟨rfl, s, header, h⟩
    obtain ⟨headerBytes, hheader, -⟩ := Option.bind_eq_some_iff.1 h.header_eq
    obtain ⟨payloadBytes, hpayload, hmembers⟩ := Option.bind_eq_some_iff.1 h.payload_eq
    have hs : Segments.ofToken? cs = some s := Segments.ofToken?_eq_some_iff.2
      ⟨h.token_eq, Base64.point_notMem_of_decodeUrl hheader,
        Base64.point_notMem_of_decodeUrl h.signature_eq⟩
    unfold openSigned
    rw [hs]
    simp only [h.header_eq, hpayload, h.signature_eq, h.accepted, hmembers, Bool.true_eq_false,
      or_self, if_false, ne_eq, not_true_eq_false]

/-- No point stands in the segments of a token that is opened. -/
theorem Opens.points {key : List UInt8} {cs : List Char} {s : Segments}
    {header payload : List (Text × Json)} (h : Opens key cs s header payload) :
    '.' ∉ s.header ∧ '.' ∉ s.payload ∧ '.' ∉ s.signature := by
  obtain ⟨headerBytes, hheader, -⟩ := Option.bind_eq_some_iff.1 h.header_eq
  obtain ⟨payloadBytes, hpayload, -⟩ := Option.bind_eq_some_iff.1 h.payload_eq
  exact ⟨Base64.point_notMem_of_decodeUrl hheader, Base64.point_notMem_of_decodeUrl hpayload,
    Base64.point_notMem_of_decodeUrl h.signature_eq⟩

end QuoteService.Token
