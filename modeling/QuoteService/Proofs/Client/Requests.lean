import QuoteService.Proofs.Base64.Spelling
import QuoteService.Proofs.Client.Addresses
import QuoteService.Proofs.Json.Bytes
import QuoteService.Proofs.Service.Answers
import QuoteService.Proofs.Service.Routing
import QuoteService.Proofs.Token.Signing

/-!
# What a client sends and what of it arrives

* `Token.Authority.isAscii_minted`: a minted token can be shown.
* `Payload.ofBody_quoteData`: what a client sends for a quote is read back as this quote.
* `Operation`: the three calls of a client, by the path, the token and the body that they send.
* `Delivers`: a way to the service on which requests are not changed.
* `Operation.arrives`: **a call goes out as one request that arrives at its route**, with the token
  and the quote of the call.
-/

namespace QuoteService

/-! ## Tokens -/

namespace Token.Authority

variable {a : Authority} {t expiresIn : ℤ} {path token : String}

/-- The characters of a minted token are the scheme, digits of segments and points. -/
theorem toNat_lt_of_mem_minted {ch : Char} (h : ch ∈ (a.minted t expiresIn path).toList) :
    ch.toNat < 0x80 := by
  have hscheme : (scheme.toList.all fun ch => ch.toNat < 0x80) = true := by decide
  rw [toList_minted, Segments.toToken, Segments.signed, List.mem_append, List.mem_append,
    List.mem_append, List.mem_cons, List.mem_cons] at h
  rcases h with h | (h | rfl | h) | rfl | h
  · exact Text.toNat_lt_of_all hscheme h
  · exact Base64.toNat_lt_of_mem_encodeUrl h
  · decide
  · exact Base64.toNat_lt_of_mem_encodeUrl h
  · decide
  · exact Base64.toNat_lt_of_mem_encodeUrl h

/-- **A minted token can be shown.** -/
theorem isAscii_minted : ApiClient.isAscii (Text.ofString (a.minted t expiresIn path)) = true := by
  rw [ApiClient.isAscii, List.all_eq_true]
  intro p hp
  obtain ⟨ch, hch, rfl⟩ := List.mem_map.1 hp
  exact decide_eq_true (toNat_lt_of_mem_minted hch)

end Token.Authority

/-- A client with a minted token shows it. -/
theorem ApiClient.shownToken_minted {c : ApiClient} {a : Token.Authority} {t expiresIn : ℤ}
    {path : String} (h : c.token = some (Text.ofString (a.minted t expiresIn path))) :
    c.shownToken = .ok (some (Text.ofString (a.minted t expiresIn path))) := by
  unfold shownToken
  rw [h]
  cases htext : Text.ofString (a.minted t expiresIn path) with
  | nil =>
    rw [Text.ofString, Token.Authority.toList_minted] at htext
    cases htext
  | cons p ps =>
    simp only
    rw [← htext, if_pos Token.Authority.isAscii_minted]

/-! ## Bodies -/

namespace Service

/-- The text of a quote as data can be sent. -/
theorem bodyText_quoteData (q : String) :
    ApiClient.bodyText (quoteData q) = .ok (Json.render .unescaped (quoteData q)) := by
  obtain ⟨cs, hcs⟩ : Json.IsChars (Json.render .unescaped (quoteData q)) :=
    Json.render_isChars (plain_quoteData .strict q)
  have hsome : (Json.render .unescaped (quoteData q)).toChars?.isSome = true := by
    rw [hcs, Text.toChars?_ofChars]
    rfl
  have hfinite : (quoteData q).isFinite = true := rfl
  rw [ApiClient.bodyText, hfinite, if_neg (by decide)]
  simp only [hsome, if_true]

/-- **What a client sends for a quote is read back as this quote**, whatever its characters are. -/
theorem Payload.ofBody_quoteData (q : String) :
    ofBody (Utf8.encode (Json.render .unescaped (quoteData q)).scalars) = some ⟨some q⟩ := by
  rw [ofBody, parseStrict_quoteData]
  show (Text.ofString q).toString?.map (fun s => Payload.mk (some s)) = some ⟨some q⟩
  rw [Text.toString?_ofString]
  rfl

end Service

/-! ## Calls -/

namespace Client

open QuoteService.Service

/-- The calls of a client. -/
inductive Operation where
  | quote
  | quotes
  | add (q : String)
  deriving DecidableEq

/-- A way to the service on which requests are not changed: method, path, token and body arrive as
they were sent. Other headers, the query and the peer may be anything. -/
structure Delivers (hand : Call → Http.Request) : Prop where
  method : ∀ call, (hand call).method = call.method
  path : ∀ call cs, Utf8.decode (Url.unescape call.url.path) = some cs → (hand call).path.toList = cs
  token : ∀ call, (hand call).header? "authorization" = call.authorization.bind Text.toString?
  body : ∀ call, (hand call).body = Utf8.encode call.body.scalars

/-- A request as it arrives without any other headers. -/
def deliver (call : Call) : Http.Request where
  method := call.method
  path := String.ofList ((Utf8.decode (Url.unescape call.url.path)).getD [])
  query := call.url.query.map String.ofList
  headers := ((call.authorization.bind Text.toString?).map fun t => ("Authorization", t)).toList
  body := Utf8.encode call.body.scalars
  peer := none

theorem delivers_deliver : Delivers deliver where
  method _ := rfl
  path call cs h := by
    rw [deliver, h, Option.getD_some, String.toList_ofList]
  token call := by
    have hname : Http.headerName "Authorization" = "authorization" := by decide +kernel
    rw [Http.Request.header?, deliver]
    cases call.authorization.bind Text.toString? with
    | none => rfl
    | some t => simp [hname]
  body _ := rfl

namespace Operation

/-- The route that a call is for. -/
def route : Operation → Route
  | quote => .random
  | quotes => .all
  | add _ => .add

/-- The path of a call. -/
def path : Operation → List Char
  | quote => ApiClient.quotePath
  | quotes => ApiClient.allPath
  | add _ => ApiClient.quotePath

/-- Whether a call shows the token. -/
def showsToken : Operation → Bool
  | quote => false
  | quotes => true
  | add _ => true

/-- The body of a call. -/
def body : Operation → Option Json
  | quote => none
  | quotes => none
  | add q => some (quoteData q)

variable {c : ApiClient} {hand : Call → Http.Request} {token : Option Text}

/-- A request that has arrived asks for the route of a call and shows what the call shows, and its body
is the one of the call. -/
structure Arrives (op : Operation) (shown : Option Text) (r : Http.Request) : Prop where
  asks : ∀ now pick, (⟨r, now, pick⟩ : Service.Call).asks op.route = true
  token : r.header? "authorization" = shown.bind Text.toString?
  quote : ∀ q, op = add q → Payload.ofBody r.body = some ⟨some q⟩

theorem path_mem (op : Operation) : op.path ∈ ApiClient.paths := by
  cases op <;> simp [path, ApiClient.paths]

theorem toList_path (op : Operation) : op.route.path.toList = '/' :: op.path := by
  cases op <;> simp only [route, path] <;> decide

theorem method_eq (op : Operation) :
    (if op.body.isSome then "POST" else "GET") = op.route.method := by
  cases op <;> rfl

/-- The text of the body of a call. -/
def text : Operation → Text
  | quote => []
  | quotes => []
  | add q => Json.render .unescaped (quoteData q)

theorem bodyText_body (op : Operation) :
    (match op.body with | some v => ApiClient.bodyText v | none => pure []) = .ok op.text := by
  cases op with
  | quote => rfl
  | quotes => rfl
  | add q => exact bodyText_quoteData q

/-- **A call goes out as one request that arrives at its route.** User and password of its address are
shown in the place of the token. -/
theorem arrives (hc : c.Reaches) (hd : Delivers hand) (htoken : c.shownToken = .ok token)
    (op : Operation) : ∃ address call, c.base.below op.path = .ok address ∧
      c.request op.path op.showsToken op.body = .ok (address, call) ∧
      ApiClient.tellsReach call.address = true ∧ op.Arrives
        ((ApiClient.credentials? address).or (if op.showsToken then token else none)) (hand call) := by
  obtain ⟨address, hbelow, hsend, hreach⟩ := hc.below op.path_mem
  have hshown : (if op.showsToken then c.shownToken else pure none) =
      .ok (if op.showsToken then token else none) := by
    cases op.showsToken <;> simp [htoken, pure, Except.pure]
  let call : Call :=
    c.outgoing address (if op.showsToken then token else none) op.body op.text
  have hrequest : c.request op.path op.showsToken op.body = .ok (address, call) :=
    ApiClient.request_eq_ok_iff.2 ⟨hbelow, hsend.shown, hsend.ascii, hc.isOpen, _, _, hshown,
      op.bodyText_body, rfl⟩
  have hmethod : call.method = op.route.method := op.method_eq
  have hdecode : Utf8.decode (Url.unescape call.url.path) = some op.route.path.toList := by
    have hpath : call.url.path = '/' :: op.path := ApiClient.path_below hc.bare op.path_mem hbelow
    rw [hpath, ApiClient.decode_path op.path_mem, op.toList_path]
  refine ⟨address, call, hbelow, hrequest, hreach, ?_, ?_, ?_⟩
  · intro now pick
    rw [Service.Call.asks, Route.matchesPath, hd.path call _ hdecode, hd.method, hmethod,
      beq_self_eq_true, beq_self_eq_true]
    rfl
  · rw [hd.token]
    exact congrArg (Option.bind · Text.toString?) (ApiClient.authorization_outgoing address _ _)
  · rintro q rfl
    rw [hd.body]
    exact Payload.ofBody_quoteData q

end Operation

end Client

end QuoteService
