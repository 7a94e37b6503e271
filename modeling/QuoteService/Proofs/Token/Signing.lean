import QuoteService.Proofs.Json.Bytes
import QuoteService.Proofs.Token.Claims
import QuoteService.Proofs.Token.Segments
import QuoteService.Token.Authority

/-!
# What is signed is opened

* `segmentOf_obj`: an object is read back from its segment.
* `opens_sign`: **a token that carries claims is opened under the key that signed it**, whatever the
  audience, if both times are short enough to be written.
* `Authority.minted`: the token that an authority mints if it mints any.
-/

namespace QuoteService.Token

/-- **An object is read back from its segment.** -/
theorem segmentOf_obj {m : Text × Json} {ms : List (Text × Json)}
    (hv : Json.Plain .lenient (.obj (m :: ms)))
    (hdepth : Json.depth (.obj (m :: ms)) ≤ Json.Dialect.lenient.maxDepth) :
    (Base64.decodeUrl (segmentOf (.obj (m :: ms)))).bind object? = some (m :: ms) := by
  rw [segmentOf, Base64.decodeUrl_encodeUrl, Option.bind_some, object?, Json.parse,
    Json.parseWith_encode_render hv hdepth]

/-- The members of the header of every token that is signed here. -/
def mintedMembers : List (Text × Json) :=
  [Json.field "alg" (Json.ofString algorithm), Json.field "typ" (Json.ofString "JWT")]

theorem plain_mintedHeader (d : Json.Dialect) : Json.Plain d mintedHeader := by
  refine .ofFields [("alg", Json.ofString algorithm), ("typ", Json.ofString "JWT")] (by decide) ?_
  simp only [List.forall_mem_cons]
  exact ⟨.str _, .str _, nofun⟩

theorem headerAccepted_mintedMembers : headerAccepted mintedMembers = true := by decide

namespace Claims

/-- The members that carry the claims. -/
def members (c : Claims) : List (Text × Json) :=
  [Json.field "iss" (.str c.issuer), Json.field "aud" (.str c.audience),
    Json.field "iat" (.int c.issuedAt), Json.field "exp" (.int c.expiresAt)]

/-- Claims that a token can carry: characters, and times that are short enough to be written. -/
structure Writable (c : Claims) : Prop where
  issuer : ∃ cs, c.issuer = Text.ofChars cs
  audience : ∃ cs, c.audience = Text.ofChars cs
  issuedAt : Authority.writable c.issuedAt = true
  expiresAt : Authority.writable c.expiresAt = true

theorem admits_of_writable {n : ℤ} (h : Authority.writable n = true) :
    Json.Dialect.lenient.Admits n := by
  have hlen : (Text.digits n.natAbs).length ≤ 4300 := of_decide_eq_true h
  exact Json.Dialect.admits_lenient_iff.2 hlen

theorem Writable.plain {c : Claims} (h : c.Writable) : Json.Plain .lenient c.toJson := by
  obtain ⟨iss, hiss⟩ := h.issuer
  obtain ⟨aud, haud⟩ := h.audience
  refine .ofFields [("iss", .str c.issuer), ("aud", .str c.audience), ("iat", .int c.issuedAt),
    ("exp", .int c.expiresAt)] ?_ ?_
  · show [Text.ofString "iss", Text.ofString "aud", Text.ofString "iat", Text.ofString "exp"].Nodup
    decide
  · simp only [List.forall_mem_cons]
    exact ⟨hiss ▸ .str iss, haud ▸ .str aud, .int (admits_of_writable h.issuedAt),
      .int (admits_of_writable h.expiresAt), nofun⟩

/-- The members that carry the claims give them back. -/
theorem wellFormed?_members (c : Claims) : wellFormed? c.members = some c :=
  wellFormed?_eq_some_iff.2 ⟨rfl, rfl, ⟨.int c.issuedAt, rfl, rfl⟩, ⟨.int c.expiresAt, rfl, rfl⟩⟩

/-- Claims that are signed here are read back until they expire. -/
theorem ofPayload_members (now : ℤ) (c : Claims) :
    ofPayload now c.members = if hasExpired now c.expiresAt then .error .expired else .ok c := by
  cases h : hasExpired now c.expiresAt with
  | false =>
    exact ofPayload_eq_ok_iff.2
      ⟨wellFormed?_members c, h, ⟨.int c.expiresAt, rfl, rfl⟩, rfl, rfl, rfl⟩
  | true =>
    have hiss : required? "iss" c.members = some (.str c.issuer) := rfl
    have haud : required? "aud" c.members = some (.str c.audience) := rfl
    have hiat : required? "iat" c.members = some (.int c.issuedAt) := rfl
    have hexp : required? "exp" c.members = some (.int c.expiresAt) := rfl
    have hstart : notBeforeReached now c.members = true := rfl
    have htime : lenientTime? (.int c.expiresAt) = some c.expiresAt := rfl
    unfold ofPayload
    rw [hiss, haud, hiat, hexp]
    simp only [hstart, htime, h, Bool.true_eq_false, if_false, if_true]

end Claims

/-- An object that is signed is opened under the key that signed it, whether it carries claims or not. -/
theorem opens_sign_obj (key : List UInt8) {m : Text × Json} {ms : List (Text × Json)}
    (hv : Json.Plain .lenient (.obj (m :: ms)))
    (hdepth : Json.depth (.obj (m :: ms)) ≤ Json.Dialect.lenient.maxDepth) :
    Opens key (sign key (.obj (m :: ms))).toToken (sign key (.obj (m :: ms))) mintedMembers
      (m :: ms) where
  token_eq := rfl
  header_eq := segmentOf_obj (plain_mintedHeader _) (by decide)
  payload_eq := segmentOf_obj hv hdepth
  signature_eq := Base64.decodeUrl_encodeUrl _
  accepted := headerAccepted_mintedMembers

/-- **A token that carries claims is opened under the key that signed it.** -/
theorem opens_sign (key : List UInt8) {c : Claims} (h : c.Writable) :
    Opens key (sign key c.toJson).toToken (sign key c.toJson) mintedMembers c.members :=
  opens_sign_obj key h.plain (by show 2 ≤ 970; decide)

namespace Authority

variable {a : Authority} {t expiresIn : ℤ} {path : String}

/-- The token that is minted if any is. -/
def minted (a : Authority) (t expiresIn : ℤ) (path : String) : String :=
  scheme ++ String.ofList (sign a.key.bytes (a.claimsAt t expiresIn path).toJson).toToken

theorem toList_minted : (a.minted t expiresIn path).toList =
    scheme.toList ++ (sign a.key.bytes (a.claimsAt t expiresIn path).toJson).toToken := by
  rw [minted, String.toList_append, String.toList_ofList]

/-- The claims of a minted token are opened if their times can be written. -/
theorem opens_minted (a : Authority) (path : String) (hiat : writable (t.tdiv 1000) = true)
    (hexp : writable (t.tdiv 1000 + expiresIn) = true) :
    let c := a.claimsAt t expiresIn path
    Opens a.key.bytes (sign a.key.bytes c.toJson).toToken (sign a.key.bytes c.toJson)
      mintedMembers c.members :=
  opens_sign a.key.bytes ⟨⟨_, rfl⟩, ⟨_, rfl⟩, hiat, hexp⟩

end Authority

end QuoteService.Token
