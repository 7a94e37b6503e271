import QuoteService.Proofs.Client.Envelopes
import QuoteService.Proofs.Client.Requests
import QuoteService.Proofs.Json.Meaning

/-!
# What a client reports of a failed answer

An answer succeeds if its status tells so and its body is an object. What has to be reported of any
other one is told here by what the body means, without regard to how a client reads it.

* `ApiClient.Reaches.exchange_bare`: an answer without headers comes to a client as it is.
* `Receives`: a call of a client that got an answer comes to a result.
* `Answer.Succeeds`, `Answer.Fails`: an answer that succeeds, and what is to be reported of another.
* `Answer.not_succeeds_iff`: **an answer that does not succeed fails with some text.**
* `Answer.envelope_fails`: **a client finds this text**, if the body is not nested too deeply.
* `Receives.reports_failure`: **every call reports it**, and returns a value for success only. A body
  that is nested too deeply is not reported.
-/

namespace QuoteService

open QuoteService.Client

namespace ApiClient

variable {c : ApiClient} {path : List Char}

/-- A client whose calls can be sent, and that has no token, gets an answer without headers as it is. -/
theorem Reaches.exchange_bare (hc : c.Reaches) (htoken : c.token = none) (hpath : path ∈ paths)
    (showsToken : Bool) (status : ℤ) (body : List UInt8) :
    (c.exchange (fun _ => .ok ⟨status, [], body⟩) path showsToken none).1 =
      .ok ⟨status, [], body⟩ := by
  obtain ⟨address, hbelow, hsend, hreach⟩ := hc.below hpath
  have hshown : (if showsToken then c.shownToken else pure none) = .ok none := by
    cases showsToken
    · rfl
    · rw [if_pos rfl, shownToken, htoken]
  have hrequest : c.request path showsToken none = .ok (address, c.outgoing address none none []) :=
    request_eq_ok_iff.2 ⟨hbelow, hsend.shown, hsend.ascii, hc.isOpen, _, _, hshown, rfl, rfl⟩
  have hstays : ∀ sentTo, (⟨status, [], body⟩ : Answer).checkRedirection sentTo = .ok () := by
    intro sentTo
    rw [Answer.checkRedirection]
    cases Answer.isRedirection status <;> rfl
  rw [exchange_eq_ok hrequest hreach rfl rfl (hstays _)]

/-- A client of `http://fortune.example` without a token. -/
def plain : ApiClient :=
  ⟨⟨"http".toList, [], "fortune.example".toList, none, ['/'], none, none⟩,
    ⟨.finite false 1 0, .finite false 1 0, .finite false 1 0⟩, none, none, false⟩

theorem reaches_plain : plain.Reaches := by
  have hbelow : plain.base.below quotePath = .ok { plain.base with path := '/' :: quotePath } := by
    decide +kernel
  have hparse : Url.parse "http://fortune.example/".toList = .ok plain.base := by decide +kernel
  exact ⟨rfl, by decide, Url.isUnmarked_parse hparse, _, hbelow, by decide, ⟨_, rfl⟩, by decide⟩

end ApiClient

namespace Client

/-- A call of a client that got the answer `a` comes to the result `r`. -/
inductive Receives (a : Answer) : {α : Type} → Except CallError α → Prop
  | quote {c : ApiClient} {transport : Transport}
      (h : (c.exchange transport ApiClient.quotePath false none).1 = .ok a) :
      Receives a (c.quote transport).1
  | quotes {c : ApiClient} {transport : Transport}
      (h : (c.exchange transport ApiClient.allPath true none).1 = .ok a) :
      Receives a (c.quotes transport).1
  | add {c : ApiClient} {transport : Transport} {q : Json}
      (h : (c.exchange transport ApiClient.quotePath true (some (.obj [Json.field "fortune" q]))).1 =
        .ok a) : Receives a (c.add transport q).1

namespace Answer

/-- The body of an answer means a value, however many containers stand in one another. -/
def Means (a : Answer) (v : Json) : Prop := Json.Means .lenient a.body v

/-- The containers of the body are more than a client reads. -/
def IsTooDeep (a : Answer) : Prop := Json.parse a.body = .error .tooDeep

instance (a : Answer) : Decidable a.IsTooDeep := inferInstanceAs (Decidable (_ = _))

/-- The status tells success, and the body is an object. -/
def Succeeds (a : Answer) : Prop := a.isSuccess = true ∧ ∃ ms, a.Means (.obj ms)

/-- What is to be reported of an answer that does not succeed. -/
inductive Fails (a : Answer) : Text → Prop
  | unreadable (hfull : a.body ≠ []) (h : ∀ v, ¬a.Means v) :
      Fails a (Text.ofString ("Unreadable response (" ++ Text.intString a.status ++ ")"))
  | empty (h : a.body = []) :
      Fails a (Text.ofString ("An unknown error has occurred (" ++ Text.intString a.status ++ ")"))
  | noObject {v : Json} (h : a.Means v) (hv : ∀ ms, v ≠ .obj ms) :
      Fails a (Text.ofString ("An unknown error has occurred (" ++ Text.intString a.status ++ ")"))
  | reported {ms : List (Text × Json)} (h : a.Means (.obj ms)) (hs : a.isSuccess = false) :
      Fails a (((Json.find? (Text.ofString "message") ms).getD .null).display ++ Text.ofString " (" ++
        ((Json.find? (Text.ofString "code") ms).getD (.int a.status)).display ++ Text.ofString ")")

variable {a : Answer} {ms : List (Text × Json)} {text : Text}

theorem not_means_empty (h : a.body = []) (v : Json) : ¬a.Means v := by
  rintro ⟨n, hn⟩
  rw [h] at hn
  cases hn

theorem Fails.not_succeeds (h : a.Fails text) : ¬a.Succeeds := by
  rintro ⟨hs, ms, hms⟩
  cases h with
  | unreadable _ h => exact h _ hms
  | empty h => exact not_means_empty h _ hms
  | noObject h hv => exact hv ms (h.unique hms)
  | reported _ hs' =>
    rw [hs] at hs'
    cases hs'

/-- **An answer that does not succeed fails with some text.** -/
theorem not_succeeds_iff : ¬a.Succeeds ↔ ∃ text, a.Fails text := by
  refine ⟨fun h => ?_, fun ⟨text, ht⟩ => ht.not_succeeds⟩
  by_cases hfull : a.body = []
  · exact ⟨_, .empty hfull⟩
  by_cases hv : ∃ v, a.Means v
  · obtain ⟨v, hv⟩ := hv
    by_cases hobject : ∃ ms, v = .obj ms
    · obtain ⟨ms, rfl⟩ := hobject
      exact ⟨_, .reported hv (Bool.eq_false_iff.2 fun hs => h ⟨hs, ms, hv⟩)⟩
    · exact ⟨_, .noObject hv (not_exists.1 hobject)⟩
  · exact ⟨_, .unreadable hfull (not_exists.1 hv)⟩

/-! ## What a client finds -/

theorem means_iff (h : ¬a.IsTooDeep) {v : Json} : a.Means v ↔ Json.parse a.body = .ok v :=
  Json.means_iff h

theorem isEmpty_eq_false (h : a.body ≠ []) : a.body.isEmpty = false := by
  rwa [Bool.eq_false_iff, ne_eq, List.isEmpty_iff]

theorem isEmpty_of_means {v : Json} (h : a.Means v) : a.body.isEmpty = false :=
  isEmpty_eq_false fun hbody => not_means_empty hbody v h

theorem IsTooDeep.ne_nil (h : a.IsTooDeep) : a.body ≠ [] := by
  intro hbody
  rw [IsTooDeep, hbody] at h
  cases h

theorem not_isTooDeep_of_parse {v : Json} (h : Json.parse a.body = .ok v) : ¬a.IsTooDeep := by
  intro hdeep
  cases h.symm.trans hdeep

/-- A body that is nested too deeply breaks the call off. -/
theorem envelope_tooDeep (h : a.IsTooDeep) : a.envelope = .error .tooDeep := by
  have hparse : Json.parse a.body = .error .tooDeep := h
  rw [envelope, isEmpty_eq_false h.ne_nil, if_neg Bool.false_ne_true, hparse]

/-- The members of an answer that succeeds are found. -/
theorem envelope_members (hs : a.isSuccess = true) (hms : a.Means (.obj ms)) (hdeep : ¬a.IsTooDeep) :
    a.envelope = .ok ms := by
  rw [envelope, isEmpty_of_means hms, if_neg Bool.false_ne_true, (means_iff hdeep).1 hms]
  exact if_pos hs

/-- **A client finds what is to be reported**, if the body is not nested too deeply. -/
theorem envelope_fails (h : a.Fails text) (hdeep : ¬a.IsTooDeep) : Reports a.envelope text := by
  cases h with
  | empty h =>
    refine ⟨.unknown a.status, ?_, rfl⟩
    rw [envelope, h]
    rfl
  | unreadable hfull h =>
    refine ⟨.unreadable a.status, ?_, rfl⟩
    have hparse : Json.parse a.body = .error .malformed := by
      cases hread : Json.parse a.body with
      | ok v => exact absurd ((means_iff hdeep).2 hread) (h v)
      | error e =>
        cases e with
        | malformed => rfl
        | tooDeep => exact absurd hread hdeep
    rw [envelope, isEmpty_eq_false hfull, if_neg Bool.false_ne_true, hparse]
  | noObject h hv =>
    refine ⟨.unknown a.status, ?_, rfl⟩
    rw [envelope, isEmpty_of_means h, if_neg Bool.false_ne_true, (means_iff hdeep).1 h]
    split
    · rename_i heq
      cases heq
    · rename_i heq
      cases heq
    · rename_i ms heq
      cases heq
      exact absurd rfl (hv ms)
    · rfl
  | reported h hs =>
    refine ⟨.reported _ _, ?_, rfl⟩
    rw [envelope, isEmpty_of_means h, if_neg Bool.false_ne_true, (means_iff hdeep).1 h]
    exact if_neg (Bool.eq_false_iff.1 hs)

/-- Members are found in an answer that succeeds only. -/
theorem succeeds_of_envelope (h : a.envelope = .ok ms) : a.Succeeds := by
  by_contra hfails
  obtain ⟨text, ht⟩ := not_succeeds_iff.1 hfails
  by_cases hdeep : a.IsTooDeep
  · rw [envelope_tooDeep hdeep] at h
    cases h
  · obtain ⟨fault, hfault, -⟩ := envelope_fails ht hdeep
    rw [hfault] at h
    cases h

/-- More containers are opened in a body that is nested too deeply than may be open. -/
theorem IsTooDeep.openings (h : a.IsTooDeep) :
    ∃ t, Json.decodeText a.body = some t ∧ 970 < Json.openings t :=
  Json.openings_of_parseWith h

end Answer

/-! ## Calls -/

variable {a : Answer} {α : Type} {r : Except CallError α}

theorem reading_eq {f : Answer → Except CallError α} {outcome : Except CallError Answer × List Call}
    (h : outcome.1 = .ok a) : (ApiClient.reading f outcome).1 = f a := by
  rw [ApiClient.reading, h]

/-- What is wrong with the answer ends the call. -/
theorem Receives.eq_error (h : Receives a r) {e : CallError} (he : a.envelope = .error e) :
    r = .error e := by
  cases h with
  | quote h => exact (reading_eq h).trans (quoteOf_eq_error he)
  | quotes h => exact (reading_eq h).trans (quotesOf_eq_error he)
  | add h => exact (reading_eq h).trans (addedOf_eq_error he)

theorem unreadable_502 :
    "Unreadable response (" ++ Text.intString 502 ++ ")" = "Unreadable response (502)" := by
  decide +kernel

/-- **Every call reports a failure.** An answer fails with a text unless it succeeds, and a call that
gets it ends with a fault of the api that has this text, except if the body is nested too deeply: then
the call breaks off. A value is returned for an answer that succeeds only, and what is too deep opens
more than 970 containers. -/
theorem Receives.reports_failure (h : Receives a r) :
    (¬a.Succeeds ↔ ∃ text, a.Fails text) ∧
      (∀ text, a.Fails text → (Reports r text ↔ ¬a.IsTooDeep)) ∧
      (a.IsTooDeep → r = .error .tooDeep ∧
        ∃ t, Json.decodeText a.body = some t ∧ 970 < Json.openings t) ∧
      ∀ x, r = .ok x → a.Succeeds := by
  have hdeep : a.IsTooDeep → r = .error .tooDeep := fun hd => h.eq_error (Answer.envelope_tooDeep hd)
  refine ⟨Answer.not_succeeds_iff, fun text ht => ⟨?_, ?_⟩, fun hd => ⟨hdeep hd, hd.openings⟩, ?_⟩
  · rintro ⟨fault, hfault, -⟩ hd
    rw [hdeep hd] at hfault
    cases hfault
  · intro hd
    obtain ⟨fault, hfault, hmessage⟩ := Answer.envelope_fails ht hd
    exact ⟨fault, h.eq_error hfault, hmessage⟩
  · intro x hx
    cases henvelope : a.envelope with
    | ok ms => exact Answer.succeeds_of_envelope henvelope
    | error e =>
      rw [h.eq_error henvelope] at hx
      cases hx

/-- A page in the place of an envelope is reported. -/
theorem Receives.html_reported :
    let a : Answer := ⟨502, [], Utf8.encode "<html>".toList⟩
    let r := (ApiClient.plain.quote fun _ => .ok a).1
    Receives a r ∧ a.Fails (Text.ofString "Unreadable response (502)") ∧
      Reports r (Text.ofString "Unreadable response (502)") := by
  intro a r
  have hreceives : Receives a r :=
    .quote (ApiClient.reaches_plain.exchange_bare rfl (by decide) false 502 _)
  have hparse : Json.parse a.body = .error .malformed := by decide +kernel
  have hdeep : ¬a.IsTooDeep := by
    rw [Answer.IsTooDeep, hparse]
    nofun
  have hfails : a.Fails (Text.ofString "Unreadable response (502)") := by
    rw [← unreadable_502]
    refine .unreadable (by decide) fun v hv => ?_
    rw [Answer.means_iff hdeep, hparse] at hv
    cases hv
  exact ⟨hreceives, hfails, (hreceives.reports_failure.2.1 _ hfails).2 hdeep⟩

/-- Three thousand brackets that are never closed are not reported. -/
theorem Receives.brackets_unreported :
    let a : Answer := ⟨502, [], Utf8.encode (List.replicate 3000 '[')⟩
    let r := (ApiClient.plain.quote fun _ => .ok a).1
    Receives a r ∧ a.Fails (Text.ofString "Unreadable response (502)") ∧
      ¬Reports r (Text.ofString "Unreadable response (502)") ∧ r = .error .tooDeep := by
  intro a r
  have hreceives : Receives a r :=
    .quote (ApiClient.reaches_plain.exchange_bare rfl (by decide) false 502 _)
  have hdeep : a.IsTooDeep := Json.parse_brackets (by decide)
  have hfails : a.Fails (Text.ofString "Unreadable response (502)") := by
    rw [← unreadable_502]
    exact .unreadable hdeep.ne_nil fun v => Json.not_means_brackets 3000
  have hr : r = .error .tooDeep := hreceives.eq_error (Answer.envelope_tooDeep hdeep)
  refine ⟨hreceives, hfails, ?_, hr⟩
  rintro ⟨fault, hfault, -⟩
  rw [hr] at hfault
  cases hfault

end Client

end QuoteService
