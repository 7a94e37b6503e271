import QuoteService.Proofs.Client.Agreement

/-!
# Sessions of a client with a service

* `Link`: a client, the way of its requests, and the service at the end of it.
* `Link.results`: what the calls of a session return, one after another.
* `Link.perform_agrees`: one call returns what it has to, and stores what it tells.
* `Link.perform_refused`: a call that shows user and password in the place of its token is refused.
* `Link.results_agree_iff`: **every call of every session returns what it has to just if the address of
  the service can be asked and names no user.**
* `Link.results_disagree_user`: an address with a user.
-/

namespace QuoteService.Client

open QuoteService.Service

/-- A client, the way of its requests, and the service at the end of it. -/
structure Link where
  client : ApiClient
  hand : Call → Http.Request
  app : App

namespace Link

/-- What the service makes of a request that the client sends in a step. -/
def outcome (l : Link) (db : Database) (s : Step) (call : Call) : Outcome :=
  l.app.handle ⟨l.hand call, s.now, s.pick⟩ db

/-- The way of the requests and answers of a step. -/
def transport (l : Link) (db : Database) (s : Step) : Transport :=
  fun call => .ok (.ofResponse (l.outcome db s call).response)

/-- What the call of a step returns, and the database after the requests that went out for it. -/
def perform (l : Link) (db : Database) (s : Step) : Result × Database :=
  let (result, sent) : Result × List Call :=
    match s.operation with
    | .quote => (l.client.quote (l.transport db s)).map .quote id
    | .quotes => (l.client.quotes (l.transport db s)).map .quotes id
    | .add q => (l.client.add (l.transport db s) (Json.ofString q)).map .added id
  (result, sent.foldl (fun db call => (l.outcome db s call).database) db)

/-- What the calls of a session return, one after another. -/
def results (l : Link) (db : Database) : List Step → List Result
  | [] => []
  | s :: steps =>
    let (r, db) := l.perform db s
    r :: l.results db steps

end Link

/-! ## One call -/

namespace Link

variable {l : Link} {token : String} {s : Step} {db : Database} {store : Store} {address : Url}

/-- What the call of a step makes of the answer to its request. -/
theorem perform_eq {call : Call} (hrequest : l.client.request s.operation.path
      s.operation.showsToken s.operation.body = .ok (address, call))
    (hreach : ApiClient.tellsReach call.address = true) {a : Answer}
    (hanswer : Answer.ofResponse (l.outcome db s call).response = a) (hopened : a.opened = .ok a)
    (hstays : a.checkRedirection address = .ok ()) :
    l.perform db s = (s.operation.read a, (l.outcome db s call).database) := by
  have htransport : l.transport db s call = .ok a := by
    rw [transport, hanswer]
  have hexchange := exchange_eq_ok hrequest hreach htransport hopened hstays
  obtain ⟨op, now, pick⟩ := s
  cases op with
  | quote =>
    simp only [Operation.path, Operation.showsToken, Operation.body] at hexchange
    simp only [perform, ApiClient.quote, hexchange]
    rfl
  | quotes =>
    simp only [Operation.path, Operation.showsToken, Operation.body] at hexchange
    simp only [perform, ApiClient.quotes, hexchange]
    rfl
  | add q =>
    simp only [Operation.path, Operation.showsToken, Operation.body, quoteData] at hexchange
    simp only [perform, ApiClient.add, hexchange]
    rfl

/-- The requests of a link are not changed on their way, and the token of its client is one that an
authority of the key and the host of the service has minted for the path of quotes at `t`, to live for
`expiresIn` seconds. -/
structure HoldsToken (l : Link) (t expiresIn : ℤ) (token : String) : Prop where
  delivers : Delivers l.hand
  minted : ∃ a : Token.Authority, a.key.bytes = l.app.authority.key.bytes ∧
    a.publicHost = l.app.authority.publicHost ∧
    a.generate t expiresIn (some Service.quotePath) = .ok token
  token_eq : l.client.token = some (Text.ofString token)

variable {t expiresIn : ℤ}

theorem HoldsToken.shownToken (hl : l.HoldsToken t expiresIn token) :
    l.client.shownToken = .ok (some (Text.ofString token)) := by
  obtain ⟨a, -, -, hminted⟩ := hl.minted
  have htoken := hl.token_eq
  obtain ⟨-, -, -, rfl⟩ := Token.Authority.generate_eq_ok_iff.1 hminted
  exact ApiClient.shownToken_minted htoken

/-- **One call returns what it has to**, and stores the quote that it reports to have added, if the
address of the service names no user. -/
theorem perform_agrees (hl : l.HoldsToken t expiresIn token) (hreaches : l.client.Reaches)
    (hbelow : l.client.base.below ApiClient.quotePath = .ok address)
    (hanonymous : ApiClient.credentials? address = none)
    (halive : s.now < 1000 * (t.tdiv 1000 + expiresIn)) (store : Store) :
    ∃ r store', l.perform ⟨some store⟩ s = (r, ⟨some store'⟩) ∧
      Agrees store.quotes s.operation r ∧
      store'.quotes = store.quotes ++ (reported? s.operation r).toList := by
  obtain ⟨a, hkey, hhost, hminted⟩ := hl.minted
  -- the request arrives, is admitted where a token is asked for, and is answered by what is stored
  obtain ⟨sentTo, call, hsentTo, hrequest, hreach, harrives⟩ :=
    s.operation.arrives hreaches hl.delivers hl.shownToken
  rw [ApiClient.credentials?_below hreaches.bare ApiClient.quotePath_mem s.operation.path_mem hbelow
    hsentTo, hanonymous, Option.none_or] at harrives
  obtain ⟨e, store', hresponse, hdb, hanswered⟩ : (l.outcome ⟨some store⟩ s call).Answers store
      s.operation := by
    refine App.handle_answers harrives (fun hshows => ?_) store
    refine App.admits_of_minted hkey hhost hminted halive ?_
    rw [Service.Call.token?, harrives.token, if_pos hshows, Option.bind_some, Text.toString?_ofString]
  have hperform : l.perform ⟨some store⟩ s =
      (s.operation.read (.ofResponse e.response), (l.outcome ⟨some store⟩ s call).database) :=
    perform_eq hrequest hreach (by rw [hresponse]) (Answer.opened_ofResponse e)
      (Answer.checkRedirection_ofResponse (code_mem_of_answered hanswered) sentTo)
  obtain ⟨hagrees, hquotes⟩ := read_agrees hanswered
  exact ⟨_, store', by rw [hperform, hdb], hagrees, hquotes⟩

/-- **A call that shows user and password in the place of its token is refused.** -/
theorem perform_refused (hl : l.HoldsToken t expiresIn token) (hreaches : l.client.Reaches)
    (hbelow : l.client.base.below ApiClient.quotePath = .ok address) {shown : Text}
    (huser : ApiClient.credentials? address = some shown) (hshows : s.operation.showsToken = true)
    (db : Database) : l.perform db s = (s.operation.read (.ofResponse unauthorized), db) := by
  obtain ⟨sentTo, call, hsentTo, hrequest, hreach, harrives⟩ :=
    s.operation.arrives hreaches hl.delivers hl.shownToken
  rw [ApiClient.credentials?_below hreaches.bare ApiClient.quotePath_mem s.operation.path_mem hbelow
    hsentTo, huser, Option.some_or] at harrives
  have hadmits : l.app.admits ⟨l.hand call, s.now, s.pick⟩ = false := by
    obtain ⟨cs, rfl⟩ := ApiClient.credentials?_eq_some huser
    have hbasic : Service.Call.token? ⟨l.hand call, s.now, s.pick⟩ =
        some (String.ofList ("Basic ".toList ++ cs)) := by
      rw [Service.Call.token?, harrives.token, Option.bind_some, Text.toString?_ofString]
    refine App.not_admits_of_noScheme hbasic ?_
    rw [String.toList_ofList]
    rfl
  obtain ⟨hresponse, hdb⟩ := App.handle_refuses harrives hshows hadmits db
  rw [perform_eq hrequest hreach (congrArg Answer.ofResponse hresponse) Answer.opened_unauthorized
    (Answer.checkRedirection_unauthorized sentTo)]
  exact congrArg (Prod.mk _) hdb

/-! ## Sessions -/

/-- The quotes that the calls of a session report to have added. -/
def addedBy (steps : List Step) (results : List Result) : List String :=
  (steps.zip results).filterMap fun p => reported? p.1.operation p.2

theorem addedBy_cons {steps : List Step} {r : Result} {results : List Result} :
    addedBy (s :: steps) (r :: results) =
      (reported? s.operation r).toList ++ addedBy steps results := by
  rw [addedBy, List.zip_cons_cons, List.filterMap_cons]
  cases reported? s.operation r <;> rfl

/-- **Every call of a session returns what it has to**, by what is stored at its moment: the seed and then
the quotes whose addition the calls before it have reported. -/
def AgreesOn (l : Link) (seed : List String) (steps : List Step) : Prop :=
  let results := l.results ⟨some (Store.ofQuotes seed)⟩ steps
  ∀ n s, steps[n]? = some s → ∃ r, results[n]? = some r ∧
    Agrees (seed ++ addedBy (steps.take n) (results.take n)) s.operation r

/-- From any store on, every call of a session returns what it has to. -/
theorem results_agree_from (hl : l.HoldsToken t expiresIn token) (hreaches : l.client.Reaches)
    (hbelow : l.client.base.below ApiClient.quotePath = .ok address)
    (hanonymous : ApiClient.credentials? address = none) {steps : List Step}
    (halive : ∀ s ∈ steps, s.now < 1000 * (t.tdiv 1000 + expiresIn)) {n : ℕ}
    (hn : steps[n]? = some s) (store : Store) :
    ∃ r, (l.results ⟨some store⟩ steps)[n]? = some r ∧
      Agrees (store.quotes ++ addedBy (steps.take n) ((l.results ⟨some store⟩ steps).take n))
        s.operation r := by
  -- by induction on the steps, from any store on, since the first call may change it
  induction steps generalizing n store with
  | nil => cases hn
  | cons first steps ih =>
    obtain ⟨hfirst, hrest⟩ := List.forall_mem_cons.1 halive
    obtain ⟨r, store', hperform, hagrees, hquotes⟩ :=
      perform_agrees hl hreaches hbelow hanonymous hfirst store
    have hresults : l.results ⟨some store⟩ (first :: steps) = r :: l.results ⟨some store'⟩ steps := by
      simp only [results, hperform]
    rw [hresults]
    cases n with
    | zero =>
      cases hn
      exact ⟨r, rfl, by rw [List.take_zero, addedBy, List.zip_nil_left, List.filterMap_nil,
        List.append_nil]; exact hagrees⟩
    | succ n =>
      -- what the first call has added is stored before the others and counted before theirs
      obtain ⟨r', hr', hagrees'⟩ := ih hrest hn store'
      refine ⟨r', hr', ?_⟩
      have hadded : addedBy ((first :: steps).take (n + 1))
          ((r :: l.results ⟨some store'⟩ steps).take (n + 1)) =
          (reported? first.operation r).toList ++
            addedBy (steps.take n) ((l.results ⟨some store'⟩ steps).take n) := by
        rw [List.take_succ_cons, List.take_succ_cons]
        exact addedBy_cons
      rw [hadded, ← List.append_assoc, ← hquotes]
      exact hagrees'

/-- A client that gets the list of all quotes reaches its server. -/
theorem reaches_of_quotes {c : ApiClient} {transport : Transport} {quotes : List Json}
    (htarget : c.base.target = ['/']) (hscheme : Url.IsUnmarked c.base.scheme)
    (h : (c.quotes transport).1 = .ok quotes) : c.Reaches := by
  obtain ⟨a, hanswer⟩ : ∃ a, (c.exchange transport ApiClient.allPath true none).1 = .ok a := by
    rw [ApiClient.quotes, ApiClient.reading] at h
    split at h
    · rename_i a hanswer
      exact ⟨a, hanswer⟩
    · cases h
  obtain ⟨address, call, hrequest, hreach⟩ := ApiClient.request_of_exchange hanswer
  exact ApiClient.reaches_of_request htarget hscheme (by decide) hrequest hreach

/-- **Client and service agree on every session just if the address of the service can be asked and names
no user.** The client is open, and the address that it was given has no path of its own; its requests
reach the service as they are; and its token was minted for the path of quotes with the key and the host
of the service. Then, from distinct seed quotes on, every call of every session within the life of the
token returns what the quotes that are stored at its moment make it return, exactly if below its address
stands one that has a scheme, a host that can be shown and sent, and neither user nor password. -/
theorem results_agree_iff (l : Link) {text : List Char} (hbase : Url.parse text = .ok l.client.base)
    (hbare : l.client.base.target = ['/']) (hopen : l.client.isClosed = false)
    (hdelivers : Delivers l.hand) {a : Token.Authority} {t expiresIn : ℤ} {token : String}
    (hkey : a.key.bytes = l.app.authority.key.bytes)
    (hhost : a.publicHost = l.app.authority.publicHost)
    (hminted : a.generate t expiresIn (some Service.quotePath) = .ok token)
    (htoken : l.client.token = some (Text.ofString token)) {seed : List String}
    (hseed : seed.Nodup) :
    (∀ steps : List Step, (∀ s ∈ steps, s.now < 1000 * (t.tdiv 1000 + expiresIn)) →
      l.AgreesOn seed steps) ↔
    ∃ address, l.client.base.below ApiClient.quotePath = .ok address ∧ address.scheme ≠ [] ∧
      (∃ host, address.shownHost = .ok host) ∧
      (address.host.all fun ch => ch.toNat < 0x80) = true ∧
      ApiClient.credentials? address = none := by
  have hl : l.HoldsToken t expiresIn token := ⟨hdelivers, ⟨a, hkey, hhost, hminted⟩, htoken⟩
  have hscheme : Url.IsUnmarked l.client.base.scheme := Url.isUnmarked_parse hbase
  constructor
  · intro hall
    -- one request for the list of all quotes, a millisecond before the token expires
    let s : Step := ⟨.quotes, 1000 * (t.tdiv 1000 + expiresIn) - 1, 0⟩
    have halive : ∀ s' ∈ [s], s'.now < 1000 * (t.tdiv 1000 + expiresIn) := by
      intro s' hs'
      rw [List.mem_singleton.1 hs']
      exact Int.sub_one_lt_of_le (Int.le_refl _)
    obtain ⟨r, hr, hagrees⟩ := hall [s] halive 0 s rfl
    let db : Database := ⟨some (Store.ofQuotes seed)⟩
    obtain rfl : (l.perform db s).1 = r := Option.some.inj hr
    have hperform : (l.perform db s).1 = .quotes (l.client.quotes (l.transport db s)).1 := rfl
    rw [hperform] at hagrees
    have hreaches := reaches_of_quotes hbare hscheme hagrees
    obtain ⟨address, hbelow, hsend⟩ := hreaches.sendable
    refine ⟨address, hbelow, hsend.reached, hsend.shown, hsend.ascii, ?_⟩
    -- a user in the address would have been shown in the place of the token
    cases huser : ApiClient.credentials? address with
    | none => rfl
    | some shown =>
      have hrefused := congrArg Prod.fst (perform_refused (s := s) hl hreaches hbelow huser rfl db)
      rw [hperform, Operation.read, quotesOf_eq_error Answer.envelope_unauthorized] at hrefused
      cases (Result.quotes.inj hrefused).symm.trans hagrees
  · rintro ⟨address, hbelow, hreached, hshown, hascii, hanonymous⟩ steps halive n s hn
    have hreaches : l.client.Reaches :=
      ⟨hopen, hbare, hscheme, address, hbelow, hreached, hshown, hascii⟩
    have hquotes := (Store.ofQuotes_sound hseed).1
    have hagree := results_agree_from hl hreaches hbelow hanonymous halive hn (Store.ofQuotes seed)
    rwa [hquotes] at hagree

/-! ### Two addresses -/

/-- A client of an address, with a token for the first minute, and a service of the same key and host. -/
def ofLetters (base : Url) : Link where
  client := ⟨base, ⟨.finite false 1 0, .finite false 1 0, .finite false 1 0⟩, none,
    some (Text.ofString (Token.Authority.ofLetters.minted 0 60 Service.quotePath)), false⟩
  hand := deliver
  app := ⟨Token.Authority.ofLetters⟩

theorem holdsToken_ofLetters (base : Url) : (ofLetters base).HoldsToken 0 60
    (Token.Authority.ofLetters.minted 0 60 Service.quotePath) :=
  ⟨delivers_deliver, ⟨_, rfl, rfl, Token.Authority.generate_ofLetters Service.quotePath⟩, rfl⟩

/-- A quote with quotation marks, a null character and a clef is added and then listed as it is. -/
theorem results_agree_iff_clef :
    let base : Url := ⟨"http".toList, [], "fortune.example".toList, none, [], none, none⟩
    let l := ofLetters base
    let q := "\"\x00\" 𝄞 "
    Url.parse "http://fortune.example".toList = .ok base ∧ base.target = ['/'] ∧
      l.HoldsToken 0 60 (Token.Authority.ofLetters.minted 0 60 Service.quotePath) ∧
      l.results ⟨some (Store.ofQuotes ["Carpe diem."])⟩ [⟨.add q, 0, 0⟩, ⟨.quotes, 59999, 0⟩] =
        [.added (.ok true), .quotes (.ok (["Carpe diem.", q].map Json.ofString))] := by
  intro base l q
  have hbase : Url.parse "http://fortune.example".toList = .ok base := by decide +kernel
  have hbare : base.target = ['/'] := by decide +kernel
  have haddress : ∃ address, base.below ApiClient.quotePath = .ok address ∧ address.scheme ≠ [] ∧
      (∃ host, address.shownHost = .ok host) ∧
      (address.host.all fun ch => ch.toNat < 0x80) = true ∧
      ApiClient.credentials? address = none :=
    ⟨{ base with path := '/' :: ApiClient.quotePath }, by decide +kernel, by decide, ⟨_, rfl⟩,
      by decide, by decide⟩
  have hl := holdsToken_ofLetters base
  have hall := (results_agree_iff l hbase hbare rfl hl.delivers rfl rfl
    (Token.Authority.generate_ofLetters Service.quotePath) hl.token_eq
    (by decide : ["Carpe diem."].Nodup)).2 haddress
  have hagree := hall [⟨.add q, 0, 0⟩, ⟨.quotes, 59999, 0⟩] (by simp)
  refine ⟨hbase, hbare, hl, ?_⟩
  obtain ⟨x, y, hresults⟩ : ∃ x y, l.results ⟨some (Store.ofQuotes ["Carpe diem."])⟩
    [⟨.add q, 0, 0⟩, ⟨.quotes, 59999, 0⟩] = [x, y] := ⟨_, _, rfl⟩
  simp only [AgreesOn, hresults] at hagree
  rw [hresults]
  obtain ⟨_, ⟨⟩, hadded⟩ := hagree 0 _ rfl
  obtain ⟨_, ⟨⟩, hlisted⟩ := hagree 1 _ rfl
  cases x with
  | quote => cases hadded
  | quotes => cases hadded
  | added r =>
    have hnew : Text.trim q.toList ≠ [] ∧ q ∉ ["Carpe diem."] := by decide +kernel
    obtain rfl : r = .ok true := hadded.1.2 hnew
    cases y with
    | quote => cases hlisted
    | added => cases hlisted
    | quotes r => rw [show r = .ok _ from hlisted]; rfl

/-- A client whose address names a user and a password shows these in the place of its token: a quote
that is neither blank nor stored is not added. -/
theorem results_disagree_user :
    let base : Url := ⟨"http".toList, "u:p".toList, "fortune.example".toList, none, [], none, none⟩
    let l := ofLetters base
    let q := "Carpe diem."
    Url.parse "http://u:p@fortune.example".toList = .ok base ∧ base.target = ['/'] ∧
      l.HoldsToken 0 60 (Token.Authority.ofLetters.minted 0 60 Service.quotePath) ∧
      Text.trim q.toList ≠ [] ∧
      (∃ r, l.results ⟨some (Store.ofQuotes [])⟩ [⟨.add q, 0, 0⟩] = [.added r] ∧
        Reports r (Text.ofString "Unauthorized (401)")) ∧
      ¬l.AgreesOn [] [⟨.add q, 0, 0⟩] := by
  intro base l q
  have hbase : Url.parse "http://u:p@fortune.example".toList = .ok base := by decide +kernel
  have hbare : base.target = ['/'] := by decide +kernel
  have hl := holdsToken_ofLetters base
  have hfull : Text.trim q.toList ≠ [] := by decide +kernel
  -- the request goes out, but with the user and the password
  let address : Url := { base with path := '/' :: ApiClient.quotePath }
  have hbelow : base.below ApiClient.quotePath = .ok address := by decide +kernel
  have hreaches : l.client.Reaches :=
    ⟨rfl, hbare, Url.isUnmarked_parse hbase, address, hbelow, by decide, ⟨_, rfl⟩, by decide⟩
  obtain ⟨shown, huser⟩ : ∃ shown, ApiClient.credentials? address = some shown :=
    Option.isSome_iff_exists.1 (by decide +kernel)
  let r : Except CallError Bool := ApiClient.addedOf (.ofResponse unauthorized)
  have hresults : l.results ⟨some (Store.ofQuotes [])⟩ [⟨.add q, 0, 0⟩] = [.added r] := by
    rw [results, perform_refused hl hreaches hbelow huser rfl]
    rfl
  have hreports : Reports r (Text.ofString "Unauthorized (401)") :=
    ⟨_, addedOf_eq_error Answer.envelope_unauthorized,
      (ApiFault.message_reported _ _).trans (congrArg Text.ofString (by decide +kernel))⟩
  refine ⟨hbase, hbare, hl, hfull, ⟨r, hresults, hreports⟩, fun hagree => ?_⟩
  obtain ⟨_, hr, hadded⟩ := hagree 0 _ rfl
  rw [hresults] at hr
  cases hr
  exact (hreports.alone (q := q)).1 (hadded.1.2 ⟨hfull, List.not_mem_nil⟩)

end Link

end QuoteService.Client
