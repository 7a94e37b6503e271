import QuoteService.Client.Session
import QuoteService.Proofs.Results
import QuoteService.Proofs.Url.Paths

/-!
# Where a client sends its calls

* `ApiClient.below_of_below`: **below a base without a path of its own stand all calls or none.**
* `ApiClient.tellsReach_iff`: an address tells how it is reached just if it has a scheme.
* `ApiClient.Sendable`, `ApiClient.Reaches`: an address that requests can go to, and a client whose calls
  go to such a one.
* `ApiClient.request_eq_ok_iff`: **when a request goes out, and which.**
-/

namespace QuoteService

open QuoteService.Client

namespace ApiClient

/-- The paths of the calls, as they stand below a base. -/
def paths : List (List Char) := [quotePath, allPath]

variable {c : ApiClient} {u v : Url} {path path' : List Char}

theorem isPlainPath_of_mem (hpath : path ∈ paths) : Url.IsPlainPath ('/' :: path) := by
  have hshort : ∀ p ∈ paths, ('/' :: p).length ≤ Url.maxLength := by decide
  have hsingle : ∀ p ∈ paths, ['/', '/'].isPrefixOf ('/' :: p) = false := by decide
  have hresolved : ∀ p ∈ paths, Url.resolvePath ('/' :: p) = '/' :: p := by decide +kernel
  have hsafe : ∀ p ∈ paths, Url.escape Url.isPathSafe ('/' :: p) = '/' :: p := by decide +kernel
  exact ⟨hshort path hpath, rfl, hsingle path hpath, hresolved path hpath, hsafe path hpath⟩

theorem decode_path (hpath : path ∈ paths) :
    Utf8.decode (Url.unescape ('/' :: path)) = some ('/' :: path) := by
  have h : ∀ p ∈ paths, Utf8.decode (Url.unescape ('/' :: p)) = some ('/' :: p) := by decide +kernel
  exact h path hpath

/-- Below a base without a path of its own stands a call at the root: the parts of the base are read
again with the path of the call. -/
theorem below_eq (htarget : u.target = ['/']) (hpath : path ∈ paths) :
    u.below path = Url.ofParts { u.written with path := '/' :: path, query := none } := by
  have hcut : ∀ p ∈ paths, Url.cut '?' ('/' :: p) = ('/' :: p, none) := by decide +kernel
  rw [Url.below, htarget, Url.withTarget, List.singleton_append, hcut path hpath]

theorem quotePath_mem : quotePath ∈ paths := List.mem_cons_self

/-- **If one call stands below a base, so does any other**, at the same address but for the path. -/
theorem below_of_below (htarget : u.target = ['/']) (hpath : path ∈ paths) (hpath' : path' ∈ paths)
    (h : u.below path = .ok v) : u.below path' = .ok { v with path := '/' :: path' } := by
  rw [below_eq htarget hpath] at h
  obtain ⟨hshort, hwritten⟩ := Url.ofParts_eq_ok_iff.1 h
  have hplain := isPlainPath_of_mem hpath'
  rw [below_eq htarget hpath']
  exact Url.ofParts_eq_ok_iff.2
    ⟨Url.longPart?_withPath hshort hplain, Url.ofWritten_withPath hwritten hplain⟩

theorem path_below (htarget : u.target = ['/']) (hpath : path ∈ paths) (h : u.below path = .ok v) :
    v.path = '/' :: path := by
  have hself := below_of_below htarget hpath hpath h
  exact congrArg Url.path (Except.ok.inj (h.symm.trans hself))

theorem scheme_below (htarget : u.target = ['/']) (hpath : path ∈ paths) (h : u.below path = .ok v) :
    v.scheme = u.scheme.map Char.toLower := by
  rw [below_eq htarget hpath] at h
  exact Url.scheme_ofWritten (Url.ofParts_eq_ok_iff.1 h).2

/-- An address tells how it is reached just if it has a scheme. -/
theorem tellsReach_iff (hscheme : Url.IsUnmarked u.scheme) (hpath : u.path.head? = some '/') :
    tellsReach u.text = true ↔ u.scheme ≠ [] := by
  have hparts : ∀ c ∈ u.scheme, (c != '/' && c != ':') = true := by
    intro c hc
    obtain ⟨hslash, hcolon⟩ := hscheme c hc
    simp [hslash, hcolon]
  unfold tellsReach
  simp only
  cases hempty : u.scheme with
  | nil =>
    -- without a scheme the text starts with the slash of the authority or with that of the path
    have hhead : u.text.head? = some '/' := by
      rw [Url.text, hempty]
      by_cases hauthority : u.authority.isEmpty
      · simp [hauthority, List.head?_append, hpath]
      · simp [hauthority]
    cases htext : u.text with
    | nil => rw [htext] at hhead; cases hhead
    | cons c cs =>
      rw [htext] at hhead
      cases hhead
      simp
  | cons c cs =>
    rw [hempty] at hparts
    have htext : u.text = (c :: cs) ++ ':' :: ((if u.authority.isEmpty then [] else
        '/' :: '/' :: u.authority) ++ u.path ++ Url.marked '?' u.query ++
          Url.marked '#' u.fragment) := by
      rw [Url.text, hempty]
      simp
    rw [htext, List.takeWhile_append_of_pos hparts, List.dropWhile_append_of_pos hparts]
    simp

/-- An address that requests can go to: it tells how it is reached, and its host can be shown and
sent. -/
structure Sendable (u : Url) : Prop where
  reached : u.scheme ≠ []
  shown : ∃ host, u.shownHost = .ok host
  ascii : (u.host.all fun ch => ch.toNat < 0x80) = true

/-- A client whose calls can be sent: it is open, its base has no path of its own, and the address of
its calls is one that requests can go to. -/
structure Reaches (c : ApiClient) : Prop where
  isOpen : c.isClosed = false
  bare : c.base.target = ['/']
  scheme : Url.IsUnmarked c.base.scheme
  sendable : ∃ u, c.base.below quotePath = .ok u ∧ Sendable u

/-- The address of every call of such a client is one that requests can go to. -/
theorem Reaches.below (hc : c.Reaches) (hpath : path ∈ paths) :
    ∃ u, c.base.below path = .ok u ∧ Sendable u ∧ tellsReach u.text = true := by
  obtain ⟨u, hbelow, hu⟩ := hc.sendable
  have hscheme : Url.IsUnmarked u.scheme := by
    rw [scheme_below hc.bare quotePath_mem hbelow]
    exact hc.scheme.toLower
  -- what makes an address sendable does not depend on its path
  let v : Url := { u with path := '/' :: path }
  have hreach : tellsReach v.text = true := (tellsReach_iff (u := v) hscheme rfl).2 hu.reached
  exact ⟨v, below_of_below hc.bare quotePath_mem hpath hbelow, ⟨hu.reached, hu.shown, hu.ascii⟩,
    hreach⟩

variable {address : Url} {call : Call} {showsToken : Bool} {body : Option Json}

/-- What goes out to an address; user and password of the address are shown in the place of the token. -/
def outgoing (c : ApiClient) (address : Url) (token : Option Text) (body : Option Json) (text : Text) :
    Call where
  method := if body.isSome then "POST" else "GET"
  url := address
  authorization := match credentials? address with
    | some shown => some shown
    | none => token
  contentType := if body.isSome then some "application/json" else none
  body := text
  limits := c.limits

theorem authorization_outgoing (address : Url) (token : Option Text) (text : Text) :
    (c.outgoing address token body text).authorization = (credentials? address).or token := by
  unfold outgoing
  cases credentials? address <;> rfl

/-- **A request goes out** if its address, the token, the body, the host and the client itself allow it,
which are looked at in this order. -/
theorem request_eq (c : ApiClient) (path : List Char) (showsToken : Bool) (body : Option Json) :
    c.request path showsToken body =
      (c.base.below path).mapError .address >>= fun address =>
      (if showsToken then c.shownToken else pure none) >>= fun token =>
      (match body with | some v => bodyText v | none => pure []) >>= fun text =>
      address.shownHost.mapError .name >>= fun _ =>
      if address.host.any fun ch => 0x80 ≤ ch.toNat then .error (.unsendable .characters)
      else if c.isClosed then .error (.unsendable .closed)
      else pure (address, c.outgoing address token body text) := by
  unfold request
  cases showsToken <;> cases body <;> rfl

/-- **When a request goes out, and which.** -/
theorem request_eq_ok_iff : c.request path showsToken body = .ok (address, call) ↔
    c.base.below path = .ok address ∧ (∃ host, address.shownHost = .ok host) ∧
      (address.host.all fun ch => ch.toNat < 0x80) = true ∧ c.isClosed = false ∧
      ∃ token text, (if showsToken then c.shownToken else pure none) = .ok token ∧
        (match body with | some v => bodyText v | none => pure []) = .ok text ∧
        call = c.outgoing address token body text := by
  have hascii : (address.host.all fun ch => ch.toNat < 0x80) = true ↔
      (address.host.any fun ch => 0x80 ≤ ch.toNat) = false := by
    simp [List.any_eq_false, List.all_eq_true]
  rw [request_eq, hascii]
  simp only [bind_eq_ok_iff, mapError_eq_ok_iff]
  constructor
  · rintro ⟨u, hbelow, token, htoken, text, htext, host, hshown, hrest⟩
    split at hrest
    · cases hrest
    · rename_i hany
      split at hrest
      · cases hrest
      · rename_i hclosed
        cases hrest
        exact ⟨hbelow, ⟨host, hshown⟩, Bool.eq_false_iff.2 hany, Bool.eq_false_iff.2 hclosed, token,
          text, htoken, htext, rfl⟩
  · rintro ⟨hbelow, ⟨host, hshown⟩, hany, hopen, token, text, htoken, htext, rfl⟩
    refine ⟨address, hbelow, token, htoken, text, htext, host, hshown, ?_⟩
    rw [hany, if_neg Bool.false_ne_true, hopen, if_neg Bool.false_ne_true]
    rfl

/-- User and password are the same in the addresses of all calls. -/
theorem credentials?_below (htarget : u.target = ['/']) (hpath : path ∈ paths)
    (hpath' : path' ∈ paths) (h : u.below path = .ok v) (h' : u.below path' = .ok address) :
    credentials? address = credentials? v := by
  rw [below_of_below htarget hpath hpath' h] at h'
  cases h'
  rfl

/-- What shows user and password has the scheme of these, and not that of tokens. -/
theorem credentials?_eq_some {shown : Text} (h : credentials? u = some shown) :
    ∃ cs, shown = Text.ofString (String.ofList ("Basic ".toList ++ cs)) := by
  have hjoin : ∀ cs, Text.ofString "Basic " ++ Text.ofChars cs =
      Text.ofString (String.ofList ("Basic ".toList ++ cs)) := by
    intro cs
    simp [Text.ofString, Text.ofChars]
  unfold credentials? at h
  simp only at h
  split at h
  · cases h
  · cases h
    exact ⟨_, hjoin _⟩

/-- An answer is taken only from where the address of the request says how to reach it. -/
theorem request_of_exchange {transport : Transport} {a : Answer}
    (h : (c.exchange transport path showsToken body).1 = .ok a) :
    ∃ address call, c.request path showsToken body = .ok (address, call) ∧
      tellsReach call.address = true := by
  unfold exchange at h
  split at h
  · cases h
  · rename_i address call hrequest
    refine ⟨address, call, hrequest, ?_⟩
    split at h
    · cases h
    · cases hreach : tellsReach call.address with
      | true => rfl
      | false =>
        obtain ⟨answer, -, hrest⟩ := bind_eq_ok_iff.1 h
        rw [hreach] at hrest
        cases hrest

/-- **A client with a request that goes out to where it says reaches its server with all calls.** -/
theorem reaches_of_request (htarget : c.base.target = ['/']) (hscheme : Url.IsUnmarked c.base.scheme)
    (hpath : path ∈ paths) (hrequest : c.request path showsToken body = .ok (address, call))
    (hreach : tellsReach call.address = true) : c.Reaches := by
  obtain ⟨hbelow, hshown, hascii, hopen, token, text, -, -, rfl⟩ := request_eq_ok_iff.1 hrequest
  have hunmarked : Url.IsUnmarked address.scheme := by
    rw [scheme_below htarget hpath hbelow]
    exact hscheme.toLower
  have hslash : address.path.head? = some '/' := by
    rw [path_below htarget hpath hbelow]
    rfl
  have hreached : address.scheme ≠ [] := (tellsReach_iff hunmarked hslash).1 hreach
  exact ⟨hopen, htarget, hscheme, _, below_of_below htarget hpath quotePath_mem hbelow,
    hreached, hshown, hascii⟩

end ApiClient

end QuoteService
