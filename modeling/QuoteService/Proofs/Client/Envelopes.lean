import QuoteService.Client.Session
import QuoteService.Proofs.Service.Answers
import QuoteService.Proofs.Text.Numerals

/-!
# What a client reads in an answer of the service

* `Answer.ofResponse`: an answer of the service as it comes to a client.
* `Answer.opened_ofResponse`: it is not packed, and its headers can be read.
* `Answer.envelope_ofResponse`: **a client finds the envelope of the service**: its members where it
  tells success, and else its message and code as a fault.
* `Answer.envelope_unauthorized`: and it finds the fault of a refusal.
* `Reports`: a call fails with a text of the api.
* `reports_say`: **a call reports what the service says**, message and code.
-/

namespace QuoteService

open QuoteService.Http QuoteService.Service

namespace Service.Envelope

/-- The members of an envelope. -/
def members (e : Envelope) : List (Text × Json) :=
  [Json.field "status" (Json.ofString (outcome e.code)), Json.field "code" (.int e.code),
    Json.field "message" e.messageValue, Json.field "data" e.data]

/-- Codes with which the service answers the calls of a client. -/
def codes : List ℤ := [200, 201, 400, 401, 404, 409]

theorem admits_of_mem_codes {code : ℤ} (h : code ∈ codes) : Json.Dialect.lenient.Admits code := by
  have hall : ∀ code ∈ codes, (Text.digits code.natAbs).length ≤ 4300 := by decide +kernel
  exact Json.Dialect.admits_lenient_iff.2 (hall code h)

end Service.Envelope

namespace Client

/-- An answer of the service as it comes to a client. -/
def Answer.ofResponse (r : Response) : Answer := ⟨r.status, r.headers, Utf8.encode r.body⟩

/-- A fault of the api with some text is the result. -/
def Reports {α : Type} (r : Except CallError α) (text : Text) : Prop :=
  ∃ fault, r = .error (.api fault) ∧ fault.message = text

theorem Reports.eq {α : Type} {r : Except CallError α} {text text' : Text} (h : Reports r text)
    (h' : Reports r text') : text = text' := by
  obtain ⟨fault, rfl, rfl⟩ := h
  obtain ⟨fault', hfault, rfl⟩ := h'
  cases hfault
  rfl

theorem not_reports_ok {α : Type} {x : α} {text : Text} : ¬Reports (.ok x) text := nofun

namespace Answer

variable {e : Envelope}

/-- The headers of an envelope tell the length and the type of the body. -/
theorem mem_headers {h : String × String} (hmem : h ∈ e.response.headers) :
    h = Response.lengthHeader e.response.body ∨ h = ("content-type", "application/json") := by
  rcases List.mem_append.1 hmem with hlength | htype
  · split at hlength
    · exact .inl (List.mem_singleton.1 hlength)
    · cases hlength
  · exact .inr (List.mem_singleton.1 htype)

theorem toNat_lt_of_mem_headers {h : String × String} (hmem : h ∈ e.response.headers) :
    ∀ ch ∈ h.1.toList ++ h.2.toList, ch.toNat < 0x80 := by
  rcases mem_headers hmem with rfl | rfl
  · intro ch hch
    rcases List.mem_append.1 hch with hname | hvalue
    · exact Text.toNat_lt_of_all (by decide : ("content-length".toList.all _) = true) hname
    · rw [Response.lengthHeader, Text.natString, String.toList_ofList] at hvalue
      exact Text.toNat_lt_of_mem_digits hvalue
  · exact fun ch => Text.toNat_lt_of_all (by decide)

theorem codings_ofResponse (e : Envelope) : (ofResponse e.response).codings = [] := by
  have hnone : (ofResponse e.response).headerValues "content-encoding".toList = [] := by
    rw [headerValues, List.map_eq_nil_iff, List.filter_eq_nil_iff]
    intro h hmem
    rcases mem_headers hmem with rfl | rfl
    · exact (by decide : ¬(("content-length".toList.map Char.toLower ==
        "content-encoding".toList) = true))
    · decide
  rw [codings, hnone]
  rfl

/-- **The answer of an envelope is not packed**, and its headers can be read. -/
theorem opened_ofResponse (e : Envelope) :
    (ofResponse e.response).opened = .ok (ofResponse e.response) := by
  have hascii : ¬((ofResponse e.response).headers.any fun h =>
      (h.1.toList ++ h.2.toList).any fun c => 0x80 ≤ c.toNat) = true := by
    rw [List.any_eq_true]
    rintro ⟨h, hmem, hany⟩
    obtain ⟨ch, hch, hle⟩ := List.any_eq_true.1 hany
    have := toNat_lt_of_mem_headers hmem ch hch
    have := of_decide_eq_true hle
    omega
  rw [opened, if_neg hascii, codings_ofResponse]
  rfl

theorem checkRedirection_ofResponse (hcode : e.code ∈ Envelope.codes) (sentTo : Url) :
    (ofResponse e.response).checkRedirection sentTo = .ok () := by
  have hall : ∀ code ∈ Envelope.codes, isRedirection code = false := by decide
  have hstatus : isRedirection (ofResponse e.response).status = false := hall e.code hcode
  simp only [checkRedirection, hstatus, Bool.false_eq_true, if_false]

/-- **A client finds the envelope of the service.** -/
theorem envelope_ofResponse (hcode : e.code ∈ Envelope.codes) (hdata : Json.Plain .lenient e.data)
    (hdepth : e.data.depth ≤ maxDepth) : (ofResponse e.response).envelope =
      if Http.isSuccess e.code then .ok e.members
      else .error (.api (.reported e.messageValue (.int e.code))) := by
  have hparse := Envelope.parse_response (Envelope.admits_of_mem_codes hcode) hdata hdepth
  -- no value is read from nothing, so the body is not empty
  have hbody : (ofResponse e.response).body.isEmpty = false := by
    cases hbytes : Utf8.encode e.response.body with
    | nil =>
      rw [hbytes] at hparse
      cases hparse
    | cons b bs =>
      show (Utf8.encode e.response.body).isEmpty = false
      rw [hbytes]
      rfl
  have hread : Json.parse (ofResponse e.response).body = .ok (.obj e.members) := hparse
  have hsuccess : (ofResponse e.response).isSuccess = Http.isSuccess e.code := rfl
  have hmessage : Json.find? (Text.ofString "message") e.members = some e.messageValue := rfl
  have hreported : Json.find? (Text.ofString "code") e.members = some (.int e.code) := rfl
  rw [envelope, hbody, if_neg Bool.false_ne_true]
  simp only [hread, hsuccess, hmessage, hreported, Option.getD_some]

/-- What reports a fault raises it. -/
theorem envelope_say {code : ℤ} (hcode : code ∈ Envelope.codes) (hfails : Http.isSuccess code = false)
    (message : String) : (ofResponse (Envelope.say code message).response).envelope =
      .error (.api (.reported (Json.ofString message) (.int code))) := by
  have henvelope := envelope_ofResponse (e := .say code message) hcode .null
    (by show 1 ≤ 255; decide)
  have hstatus : Http.isSuccess (Envelope.say code message).code = false := hfails
  rw [hstatus, if_neg Bool.false_ne_true] at henvelope
  exact henvelope

/-! ### Refusals -/

/-- **The answer of a refusal is not packed either**, and the header that it has more can be read. -/
theorem opened_unauthorized : (ofResponse unauthorized).opened = .ok (ofResponse unauthorized) := by
  have hascii : ¬((ofResponse unauthorized).headers.any fun h =>
      (h.1.toList ++ h.2.toList).any fun c => 0x80 ≤ c.toNat) = true := by decide +kernel
  have hcodings : (ofResponse unauthorized).codings = [] := by decide +kernel
  rw [opened, if_neg hascii, hcodings]
  rfl

theorem checkRedirection_unauthorized (sentTo : Url) :
    (ofResponse unauthorized).checkRedirection sentTo = .ok () := by
  have hstatus : isRedirection (ofResponse unauthorized).status = false := by decide
  simp only [checkRedirection, hstatus, Bool.false_eq_true, if_false]

/-- What is found in a body does not depend on the headers. -/
theorem envelope_headers (status : ℤ) (headers headers' : List (String × String))
    (body : List UInt8) : (⟨status, headers, body⟩ : Answer).envelope =
      (⟨status, headers', body⟩ : Answer).envelope := rfl

theorem envelope_unauthorized : (ofResponse unauthorized).envelope =
    .error (.api (.reported (Json.ofString "Unauthorized") (.int 401))) := by
  have hsay := envelope_say (by decide : 401 ∈ Envelope.codes) (by decide) "Unauthorized"
  rw [← hsay]
  exact envelope_headers 401 _ _ _

end Answer

/-- A call gets the answer of its one request, if it can be read and does not lead elsewhere. -/
theorem exchange_eq_ok {c : ApiClient} {transport : Transport} {path : List Char}
    {showsToken : Bool} {body : Option Json} {address : Url} {call : Call} {a : Answer}
    (hrequest : c.request path showsToken body = .ok (address, call))
    (hreach : ApiClient.tellsReach call.address = true) (hanswer : transport call = .ok a)
    (hopened : a.opened = .ok a) (hstays : a.checkRedirection address = .ok ()) :
    c.exchange transport path showsToken body = (.ok a, [call]) := by
  simp only [ApiClient.exchange, hrequest, hanswer, hopened, hreach, bind, Except.bind, pure,
    Except.pure, hstays, Bool.not_true, Bool.false_eq_true, if_false]

/-! ## What the calls return -/

open Answer

theorem ApiFault.message_reported (message : String) (code : ℤ) :
    (ApiFault.reported (Json.ofString message) (.int code)).message =
      Text.ofString (message ++ " (" ++ Text.intString code ++ ")") := by
  have hcode : (Json.int code).display = Text.ofChars (Text.intDigits code) := rfl
  have hmessage : (Json.ofString message).display = Text.ofString message := rfl
  rw [ApiFault.message, hcode, hmessage]
  simp only [Text.ofString, Text.ofChars, Text.intString, String.toList_append,
    String.toList_ofList, List.map_append]

/-- **A call reports what the service says**, if it fails with whatever its answer fails with. -/
theorem reports_say {α : Type} {f : Answer → Except CallError α}
    (hf : ∀ a e, a.envelope = .error e → f a = .error e) {code : ℤ} (hcode : code ∈ Envelope.codes)
    (hfails : Http.isSuccess code = false) {message shown : String}
    (hshown : message ++ " (" ++ Text.intString code ++ ")" = shown) :
    Reports (f (ofResponse (Envelope.say code message).response)) (Text.ofString shown) :=
  ⟨_, hf _ _ (envelope_say hcode hfails message),
    (ApiFault.message_reported message code).trans (congrArg Text.ofString hshown)⟩

theorem data_eq_error {a : Answer} {e : CallError} (h : a.envelope = .error e) :
    a.data = .error e := by
  rw [data, h]

theorem quoteOf_eq_error {a : Answer} {e : CallError} (h : a.envelope = .error e) :
    ApiClient.quoteOf a = .error e := by
  rw [ApiClient.quoteOf, data_eq_error h]

theorem quotesOf_eq_error {a : Answer} {e : CallError} (h : a.envelope = .error e) :
    ApiClient.quotesOf a = .error e := by
  rw [ApiClient.quotesOf, data_eq_error h]

theorem addedOf_eq_error {a : Answer} {e : CallError} (h : a.envelope = .error e) :
    ApiClient.addedOf a = .error e := by
  rw [ApiClient.addedOf, h]
  rfl

/-- The data that the service gives are found. -/
theorem data_give {data : Json} (hdata : Json.Plain .lenient data) (hdepth : data.depth ≤ maxDepth) :
    (ofResponse (Envelope.give 200 data).response).data = .ok data := by
  have henvelope := envelope_ofResponse (e := .give 200 data)
    (by show 200 ∈ Envelope.codes; decide) hdata hdepth
  have hcode : Http.isSuccess (Envelope.give 200 data).code = true := rfl
  rw [hcode, if_pos rfl] at henvelope
  rw [Answer.data, henvelope]
  rfl

/-- **A quote that the service gives is returned.** -/
theorem quoteOf_give (q : String) :
    ApiClient.quoteOf (ofResponse (Envelope.give 200 (quoteData q)).response) =
      .ok (Json.ofString q) := by
  rw [ApiClient.quoteOf, data_give (plain_quoteData _ q) (by show 2 ≤ 255; decide)]
  rfl

/-- **The quotes that the service lists are returned.** -/
theorem quotesOf_give (quotes : List String) :
    ApiClient.quotesOf (ofResponse (Envelope.give 200 (quotesData quotes)).response) =
      .ok (quotes.map Json.ofString) := by
  rw [ApiClient.quotesOf, data_give (plain_quotesData _ quotes)
    ((depth_quotesData_le quotes).trans (by decide))]
  rfl

/-- **A quote that the service has created is added.** -/
theorem addedOf_created :
    ApiClient.addedOf (ofResponse (Envelope.plain 201).response) = .ok true := by
  have henvelope := envelope_ofResponse (e := .plain 201) (by decide) .null (by decide)
  have hcode : Http.isSuccess (Envelope.plain 201).code = true := rfl
  rw [hcode, if_pos rfl] at henvelope
  rw [ApiClient.addedOf, henvelope]
  rfl

end Client

end QuoteService
