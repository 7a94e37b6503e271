import QuoteService.Proofs.Service.Answers
import QuoteService.Proofs.Service.Handlers
import QuoteService.Proofs.Service.Routing

/-!
# Every answer is an envelope

* `Says`: an answer carries an envelope, and tells how long its body is.
* `Told`: the envelopes that a request is told, with what is known of the request.
* `App.handle_told`: **every request but a redirected one is told one of these.**
* `shownPath_eq_self`: the paths that are shown as they are.
* `App.answers_truthfully`: **so the body of every answer is read as an object that agrees with the
  status, and a request that nothing handles is told its path.**
-/

namespace QuoteService.Service

open QuoteService.Http

variable {e : Envelope} {r : Response} {call : Call} {db : Database}

/-! ## Headers that tell the length -/

/-- Setting a header leaves the headers of other names as they are. -/
theorem mem_setHeader {name value other v : String} (h : other ≠ name)
    (hs : List (String × String)) : (other, v) ∈ setHeader name value hs ↔ (other, v) ∈ hs := by
  induction hs with
  | nil =>
    rw [setHeader, List.mem_singleton, Prod.mk.injEq]
    exact ⟨fun heq => absurd heq.1 h, nofun⟩
  | cons first hs ih =>
    rw [setHeader]
    split
    · rename_i hfirst
      have hne : ∀ w, (other, v) ≠ (name, w) := fun w heq => h (Prod.mk.inj heq).1
      have hne' : (other, v) ≠ first := by
        rintro rfl
        exact h hfirst
      rw [List.mem_cons, List.mem_cons]
      exact ⟨fun hmem => .inr (hmem.resolve_left (hne value)),
        fun hmem => .inr (hmem.resolve_left hne')⟩
    · rw [List.mem_cons, List.mem_cons, ih]

/-- An answer carries an envelope: its status and its body are those of the envelope, and the length
that it tells is that of the body. -/
structure Says (r : Response) (e : Envelope) : Prop where
  status_eq : r.status = e.code
  body_eq : r.body = e.response.body
  length_iff : ∀ v, ("content-length", v) ∈ r.headers ↔
    v = Text.natString (Utf8.encode r.body).length

/-- The answer of an envelope carries it. -/
theorem says_response (hcode : carriesLength e.code = true) : Says e.response e where
  status_eq := rfl
  body_eq := rfl
  length_iff := by
    intro v
    have hheaders : e.response.headers =
        [Response.lengthHeader e.response.body, ("content-type", "application/json")] := by
      show (if carriesLength e.code = true then _ else _) ++ _ = _
      rw [if_pos hcode]
      rfl
    have htype : ("content-length", v) ≠ ("content-type", "application/json") := by
      intro heq
      exact absurd (Prod.mk.inj heq).1 (by decide)
    rw [hheaders, List.mem_cons, List.mem_singleton, Response.lengthHeader, Prod.mk.injEq]
    constructor
    · rintro (⟨-, hv⟩ | htype')
      · exact hv
      · exact absurd htype' htype
    · intro hv
      exact .inl ⟨rfl, hv⟩

/-- **A further header does not change what an answer says**, if it does not tell a length. -/
theorem Says.setHeaders (h : Says r e) {name value : String}
    (hname : "content-length" ≠ headerName name) : Says (r.setHeaders [(name, value)]) e where
  status_eq := h.status_eq
  body_eq := h.body_eq
  length_iff := by
    intro v
    show ("content-length", v) ∈ setHeader (headerName name) value r.headers ↔ _
    rw [mem_setHeader hname]
    exact h.length_iff v

/-! ## What requests are told -/

/-- Whether a path belongs to some route. -/
def Call.isKnown (call : Call) : Prop := ∃ route : Route, route.matchesPath call.request.path.toList = true

/-- The envelopes that a request is told: quotes, or a message, or that nothing handles it, which tells
its path. That there are no quotes is told where the path is known. -/
inductive Told (call : Call) : Envelope → Prop
  | given {data : Json} (hplain : Json.Plain .lenient data) (hdepth : data.depth ≤ maxDepth)
      (hdata : isNull data = false) : Told call (.give 200 data)
  | said {code : Int} {message : String} (hcode : code ∈ ([201, 400, 401, 409] : List Int)) :
      Told call (.say code message)
  | none (hknown : call.isKnown) : Told call (.say 404 "No fortunes available")
  | unhandled {code : Int} (hcode : code ∈ ([405, 500] : List Int)) :
      Told call (.unhandled code (shownPath call.request.path))
  | unknown (hknown : ¬call.isKnown) : Told call (.unhandled 404 (shownPath call.request.path))

/-- The answer carries an envelope that the request may be told. -/
def Tells (call : Call) (r : Response) : Prop := ∃ e, Says r e ∧ Told call e

theorem tells_given {data : Json} (hplain : Json.Plain .lenient data)
    (hdepth : data.depth ≤ maxDepth) (hdata : isNull data = false) :
    Tells call (Envelope.give 200 data).response :=
  ⟨_, says_response rfl, .given hplain hdepth hdata⟩

theorem tells_said {code : Int} {message : String}
    (hcode : code ∈ ([201, 400, 401, 409] : List Int)) :
    Tells call (Envelope.say code message).response := by
  have hall : ∀ code ∈ ([201, 400, 401, 409] : List Int), carriesLength code = true := by decide
  exact ⟨_, says_response (e := .say code message) (hall code hcode), .said hcode⟩

theorem tells_unhandled {code : Int} (hcode : code ∈ ([405, 500] : List Int)) :
    Tells call (Envelope.unhandled code (shownPath call.request.path)).response := by
  have hall : ∀ code ∈ ([405, 500] : List Int), carriesLength code = true := by decide
  exact ⟨_, says_response (e := .unhandled code _) (hall code hcode), .unhandled hcode⟩

theorem Tells.setHeaders (h : Tells call r) {name value : String}
    (hname : "content-length" ≠ headerName name) :
    Tells call (r.setHeaders [(name, value)]) := by
  obtain ⟨e, hcarries, htold⟩ := h
  exact ⟨e, hcarries.setHeaders hname, htold⟩

/-! ## The handlers -/

theorem tells_storageFailure (log : LogRecord) :
    Tells call (storageFailure call log db).response :=
  tells_unhandled (by decide)

theorem tells_giveRandom (hknown : call.isKnown) : Tells call (giveRandom call db).response := by
  have h := giveRandom_giving call db
  generalize giveRandom call db = outcome at h ⊢
  cases h with
  | unstored => exact tells_storageFailure _
  | given => exact tells_given (plain_quoteData _ _) (by show 2 ≤ 255; decide) rfl
  | missing => exact ⟨_, says_response (e := .say 404 "No fortunes available") rfl, .none hknown⟩

theorem tells_giveAll : Tells call (giveAll call db).response := by
  unfold giveAll
  cases db.table with
  | none => exact tells_storageFailure _
  | some store =>
    exact tells_given (plain_quotesData _ store.quotes)
      ((depth_quotesData_le store.quotes).trans (by decide)) rfl

theorem tells_addQuote : Tells call (addQuote call db).response := by
  have h := addQuote_adding call db
  generalize addQuote call db = outcome at h ⊢
  cases h with
  | malformed => exact tells_said (by decide)
  | missing => exact tells_said (by decide)
  | unstored => exact tells_storageFailure _
  | duplicate => exact tells_said (by decide)
  | added => exact tells_said (by decide)

theorem tells_unauthorized : Tells call unauthorized := by
  have h : Tells call (Envelope.plain 401).response := tells_said (by decide)
  exact h.setHeaders (by decide)

/-- The gate lets an answer pass or refuses. -/
theorem tells_guarded {app : App} {handler : Call → Database → Outcome}
    (h : Tells call (handler call db).response) :
    Tells call (app.guarded call db handler).response := by
  rcases app.guarded_cases call db handler with ⟨hrefused, -⟩ | ⟨hhandled, -⟩
  · rw [hrefused]
    exact tells_unauthorized
  · rw [hhandled]
    exact h

/-- A path that is known is that of a route that is found. -/
theorem isKnown_of_ofRequest {route : Route}
    (h : Dispatch.ofRequest call.request.method call.request.path.toList = .route route) :
    call.isKnown := by
  have hmatches := Dispatch.ofRequest_eq_route_iff.1 h
  exact ⟨route, (Bool.and_eq_true_iff.1 hmatches).1⟩

theorem not_isKnown_of_notFound
    (h : Dispatch.ofRequest call.request.method call.request.path.toList = .notFound) :
    ¬call.isKnown := by
  rintro ⟨route, hroute⟩
  have hmem : route ∈ Route.list := by cases route <;> decide
  obtain ⟨found, hfound⟩ := Option.isSome_iff_exists.1 (List.find?_isSome
    (p := fun r => r.matchesPath call.request.path.toList).2 ⟨route, hmem, hroute⟩)
  unfold Dispatch.ofRequest at h
  split at h
  · cases h
  · rw [hfound] at h
    cases h

namespace App

/-- **Every request but a redirected one is told an envelope**, in whatever state the database is. -/
theorem handle_told (app : App) (call : Call) (db : Database) :
    (app.handle call db).response.status = 307 ∨ Tells call (app.handle call db).response := by
  -- by where the request goes; a redirection is the one answer without an envelope
  cases hdispatch : Dispatch.ofRequest call.request.method call.request.path.toList with
  | route route =>
    right
    cases route with
    | random =>
      simp only [handle, hdispatch]
      exact tells_giveRandom (isKnown_of_ofRequest hdispatch)
    | all =>
      simp only [handle, hdispatch]
      exact tells_guarded tells_giveAll
    | add =>
      simp only [handle, hdispatch]
      exact tells_guarded tells_addQuote
  | methodNotAllowed allowed =>
    right
    have h : Tells call (Envelope.unhandled 405 (shownPath call.request.path)).response :=
      tells_unhandled (by decide)
    simp only [handle, hdispatch]
    exact h.setHeaders (by decide)
  | redirect path =>
    left
    simp only [handle, hdispatch]
  | notFound =>
    right
    simp only [handle, hdispatch]
    exact ⟨_, says_response (e := .unhandled 404 _) rfl, .unknown (not_isKnown_of_notFound hdispatch)⟩

end App

/-! ## What the envelopes say -/

theorem plain_pathData (d : Json.Dialect) (path : String) :
    Json.Plain d (.obj [Json.field "path" (Json.ofString path)]) := by
  refine .ofFields [("path", Json.ofString path)] (List.nodup_singleton _) ?_
  exact List.forall_mem_singleton.2 (.str path.toList)

/-- **An envelope that is told can be read back.** -/
theorem Told.parse (h : Told call e) : Json.parse (Utf8.encode e.response.body) = .ok e.toJson := by
  have hall : ∀ code ∈ ([200, 201, 400, 401, 404, 405, 409, 500] : List Int),
      Json.Dialect.lenient.Admits code := by
    have hdigits : ∀ code ∈ ([200, 201, 400, 401, 404, 405, 409, 500] : List Int),
        (Text.digits code.natAbs).length ≤ 4300 := by decide +kernel
    intro code hcode
    exact Json.Dialect.admits_lenient_iff.2 (hdigits code hcode)
  have hsay : ∀ (code : Int) (message : String),
      code ∈ ([200, 201, 400, 401, 404, 405, 409, 500] : List Int) →
        Json.parse (Utf8.encode (Envelope.say code message).response.body) =
          .ok (Envelope.say code message).toJson := by
    intro code message hcode
    exact Envelope.parse_response (e := .say code message) (hall code hcode) .null
      (by show 1 ≤ 255; decide)
  have hpath : ∀ (code : Int) (path : String),
      code ∈ ([200, 201, 400, 401, 404, 405, 409, 500] : List Int) →
        Json.parse (Utf8.encode (Envelope.unhandled code path).response.body) =
          .ok (Envelope.unhandled code path).toJson := by
    intro code path hcode
    exact Envelope.parse_response (e := .unhandled code path) (hall code hcode)
      (plain_pathData _ path) (by show 2 ≤ 255; decide)
  cases h with
  | given hplain hdepth _ => exact Envelope.parse_response (hall 200 (by decide)) hplain hdepth
  | said hcode =>
    refine hsay _ _ ?_
    simp only [List.mem_cons, List.not_mem_nil, or_false] at hcode ⊢
    tauto
  | none => exact hsay 404 _ (by decide)
  | unhandled hcode =>
    refine hpath _ _ ?_
    simp only [List.mem_cons, List.not_mem_nil, or_false] at hcode ⊢
    tauto
  | unknown => exact hpath 404 _ (by decide)

/-- **Something is told**: a message or data. -/
theorem Told.notEmpty (h : Told call e) : ¬(e.messageValue = .null ∧ e.data = .null) := by
  cases h with
  | given _ _ hdata =>
    rintro ⟨-, hnull⟩
    exact Bool.false_ne_true (hdata.symm.trans (congrArg isNull hnull))
  | said => exact fun hboth => nomatch hboth.1
  | none => exact fun hboth => nomatch hboth.1
  | unhandled => exact fun hboth => nomatch hboth.1
  | unknown => exact fun hboth => nomatch hboth.1

/-- **A request that nothing handles is told its path.** -/
theorem Told.unhandled_of_code (h : Told call e)
    (hcode : e.code = 405 ∨ e.code = 500 ∨ e.code = 404 ∧ ¬call.isKnown) :
    e = .unhandled e.code (shownPath call.request.path) := by
  have hother : ∀ code ∈ ([200, 201, 400, 401, 409] : List Int),
      ¬(code = 405 ∨ code = 500 ∨ code = 404 ∧ ¬call.isKnown) := by
    rintro code hmem (rfl | rfl | ⟨rfl, -⟩)
    · exact absurd hmem (by decide)
    · exact absurd hmem (by decide)
    · exact absurd hmem (by decide)
  cases h with
  | given => exact absurd hcode (hother 200 (by decide))
  | said hmem => exact absurd hcode (hother _ (List.mem_cons_of_mem 200 hmem))
  | none hknown =>
    -- the other message of 404 is for paths that are known
    rcases hcode with hcode | hcode | ⟨-, hunknown⟩
    · exact absurd hcode (by decide)
    · exact absurd hcode (by decide)
    · exact absurd hknown hunknown
  | unhandled => rfl
  | unknown => rfl

/-! ## Paths that are shown as they are -/

/-- A character that stands for itself in the path of an address. -/
def isPathChar (c : Char) : Bool := !(['?', '#', '\\', '\t', '\n', '\r'].contains c)

/-- **A path is shown as it is** if it starts with a slash and all its characters stand for themselves. -/
theorem shownPath_eq_self {path : String} (hslash : path.toList.head? = some '/')
    (h : ∀ c ∈ path.toList, isPathChar c = true) : shownPath path = path := by
  have hself : ∀ c ∈ path.toList, pathChar c = [c] := by
    intro c hc
    have hplain := h c hc
    unfold pathChar
    split
    · exact absurd hplain (by decide)
    · exact absurd hplain (by decide)
    · exact absurd hplain (by decide)
    · exact absurd hplain (by decide)
    · exact absurd hplain (by decide)
    · exact absurd hplain (by decide)
    · rfl
  have hflat : path.toList.flatMap pathChar = path.toList := by
    rw [List.flatMap_congr hself, List.flatMap_singleton']
  rw [shownPath, hflat, hslash]
  exact String.ofList_toList

namespace App

/-- **Every answer is a truthful envelope.** In whatever state the database is, even without a table,
the body of an answer that is no redirection is read as an object of just the members `status`, `code`,
`message` and `data`, in this order: the code is the status of the answer, the status is "success" just
for codes from 200 to 299, and message or data is not null. The answer tells the length of its body in
bytes. Where nothing handles the request, because its method is not allowed, its path is unknown or the
service fails, the message ends in "(Unhandled)" and the data tell the path as addresses show it; that is
the path itself, if it starts with a slash and has no characters that addresses write otherwise. -/
theorem answers_truthfully (app : App) (call : Call) (db : Database)
    (h : (app.handle call db).response.status ≠ 307) :
    let r := (app.handle call db).response
    (∃ message data : Json, Json.parse (Utf8.encode r.body) = .ok (.obj
        [Json.field "status"
            (Json.ofString (if 200 ≤ r.status ∧ r.status < 300 then "success" else "error")),
          Json.field "code" (.int r.status), Json.field "message" message,
          Json.field "data" data]) ∧
      ¬(message = .null ∧ data = .null) ∧
      (r.status = 405 ∨ r.status = 500 ∨ r.status = 404 ∧ ¬call.isKnown →
        (∃ phrase, message = Json.ofString (phrase ++ " (Unhandled)")) ∧
          data = .obj [Json.field "path" (Json.ofString (shownPath call.request.path))])) ∧
    (∀ v, ("content-length", v) ∈ r.headers ↔ v = Text.natString (Utf8.encode r.body).length) ∧
    (call.request.path.toList.head? = some '/' →
      (∀ c ∈ call.request.path.toList, isPathChar c = true) →
        shownPath call.request.path = call.request.path) := by
  intro r
  obtain ⟨e, hcarries, htold⟩ := (app.handle_told call db).resolve_left h
  refine ⟨⟨e.messageValue, e.data, ?_, htold.notEmpty, ?_⟩, hcarries.length_iff,
    fun hslash hplain => shownPath_eq_self hslash hplain⟩
  · have houtcome : Envelope.outcome e.code =
        if 200 ≤ r.status ∧ r.status < 300 then "success" else "error" := by
      rw [hcarries.status_eq, Envelope.outcome, isSuccess]
      simp only [Bool.and_eq_true, decide_eq_true_eq]
    rw [hcarries.body_eq, htold.parse, Envelope.toJson_eq, houtcome, hcarries.status_eq]
  · intro hunhandled
    rw [hcarries.status_eq] at hunhandled
    have heq := htold.unhandled_of_code hunhandled
    have hmessage : e.messageValue =
        (Envelope.unhandled e.code (shownPath call.request.path)).messageValue :=
      congrArg Envelope.messageValue heq
    have hdata : e.data = (Envelope.unhandled e.code (shownPath call.request.path)).data :=
      congrArg Envelope.data heq
    rw [hmessage, hdata]
    exact ⟨⟨_, rfl⟩, rfl⟩

/-- Whatever method a request has, a path that no route has is told in its own letters. -/
theorem answers_truthfully_unknown :
    let app : App := ⟨⟨⟨List.replicate 64 0x6B, by decide⟩, "fortune.example"⟩⟩
    let call : Call := ⟨⟨"PUT", "/größe/日本", none, [], [], none⟩, 0, 0⟩
    let r := (app.handle call .bare).response
    r.status = 404 ∧ ¬call.isKnown ∧ ∃ phrase, Json.parse (Utf8.encode r.body) = .ok (.obj
      [Json.field "status" (Json.ofString "error"), Json.field "code" (.int 404),
        Json.field "message" (Json.ofString (phrase ++ " (Unhandled)")),
        Json.field "data" (.obj [Json.field "path" (Json.ofString "/größe/日本")])]) := by
  intro app call r
  have hdispatch : Dispatch.ofRequest call.request.method call.request.path.toList = .notFound := by
    decide
  have hunknown : ¬call.isKnown := not_isKnown_of_notFound hdispatch
  have hstatus : r.status = 404 := by
    simp only [r, handle, hdispatch]
    rfl
  have hanswered : (app.handle call .bare).response.status ≠ 307 := by
    show r.status ≠ 307
    rw [hstatus]
    decide
  obtain ⟨⟨message, data, hparse, -, hunhandled⟩, -, hshown⟩ :=
    answers_truthfully app call .bare hanswered
  obtain ⟨⟨phrase, rfl⟩, rfl⟩ := hunhandled (.inr (.inr ⟨hstatus, hunknown⟩))
  have hplain : call.request.path.toList.all isPathChar = true := by decide
  have hpath : shownPath call.request.path = "/größe/日本" :=
    hshown (by decide) (List.all_eq_true.1 hplain)
  refine ⟨hstatus, hunknown, phrase, ?_⟩
  rw [show (app.handle call .bare).response = r from rfl, hstatus, hpath] at hparse
  exact hparse

/-- **A tab in a path is not told**: a request that nothing handles is told another path than its own. -/
theorem answers_otherPath_tab :
    let app : App := ⟨⟨⟨List.replicate 64 0x6B, by decide⟩, "fortune.example"⟩⟩
    let call : Call := ⟨⟨"GET", "/a\tb", none, [], [], none⟩, 0, 0⟩
    let r := (app.handle call .bare).response
    r.status = 404 ∧ ¬call.isKnown ∧ Json.parse (Utf8.encode r.body) = .ok (.obj
      [Json.field "status" (Json.ofString "error"), Json.field "code" (.int 404),
        Json.field "message" (Json.ofString "Not Found (Unhandled)"),
        Json.field "data" (.obj [Json.field "path" (Json.ofString "/ab")])]) ∧
      call.request.path ≠ "/ab" := by
  intro app call r
  have hdispatch : Dispatch.ofRequest call.request.method call.request.path.toList = .notFound := by
    decide
  have hresponse : r = (Envelope.unhandled 404 (shownPath call.request.path)).response := by
    simp only [r, handle, hdispatch]
  have hpath : shownPath call.request.path = "/ab" := by decide
  have hunknown : ¬call.isKnown := not_isKnown_of_notFound hdispatch
  have hparse := (Told.unknown hunknown).parse
  rw [← hresponse, hpath] at hparse
  refine ⟨by rw [hresponse]; rfl, hunknown, ?_, by decide⟩
  rw [hparse]
  rfl

end App

end QuoteService.Service
