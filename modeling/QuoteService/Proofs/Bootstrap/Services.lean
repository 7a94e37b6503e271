import Mathlib.Tactic.Common
import QuoteService.Bootstrap.Serve
import QuoteService.Proofs.Results
import QuoteService.Proofs.Text.Encoding

/-!
# Services of settings

* `create_of_createApp`, `createApp_of_create_error`: a service stands or falls with the authority of its
  key and its host.
* `settingsOf`, `createApp_settingsOf`: settings of a key and a host alone.
-/

namespace QuoteService

namespace Bootstrap

variable {s : ServiceSettings} {key host : String}

/-- A service has the authority of its key and its host. -/
theorem create_of_createApp {app : Service.App} (hkey : s.jwtSigningKey = Text.ofString key)
    (hhost : s.publicHost = Text.ofString host) (h : createApp s = .ok app) :
    Token.Authority.create (some key) host = .ok app.authority := by
  unfold createApp at h
  rw [hkey, hhost, Text.shownString_ofString, Text.shownString_ofString] at h
  obtain ⟨authority, hcreate, h⟩ := bind_eq_ok_iff.1 h
  obtain ⟨_, -, h⟩ := bind_eq_ok_iff.1 h
  cases h
  exact mapError_eq_ok_iff.1 hcreate

/-- **A key that gives no authority gives no service.** -/
theorem createApp_of_create_error {fault : Token.ConfigurationError}
    (hkey : s.jwtSigningKey = Text.ofString key) (hhost : s.publicHost = Text.ofString host)
    (h : Token.Authority.create (some key) host = .error fault) :
    createApp s = .error (.configuration fault) := by
  unfold createApp
  rw [hkey, hhost, Text.shownString_ofString, Text.shownString_ofString, h]
  rfl

/-- The settings that stand where nothing is set, but for the key and the host. -/
def settingsOf (key host : String) : ServiceSettings where
  logLevel := Text.ofString "INFO"
  databaseUrl := Text.ofString "sqlite+aiosqlite:////fortune-data/fortune-api.db"
  host := Text.ofString "0.0.0.0"
  httpPort := 80
  httpsPort := 443
  sslKey := []
  sslCerts := []
  jwtSigningKey := Text.ofString key
  publicHost := Text.ofString host

/-- An authority is enough for a service, whatever the material for TLS. -/
theorem createApp_settingsOf {authority : Token.Authority}
    (h : Token.Authority.create (some key) host = .ok authority) (sslKey sslCerts : Text) :
    createApp { settingsOf key host with sslKey, sslCerts } = .ok ⟨authority⟩ := by
  have hdatabase : DatabaseUrl.check "sqlite+aiosqlite:////fortune-data/fortune-api.db" = .ok () := by
    decide
  rw [createApp]
  simp only [settingsOf, Text.shownString_ofString, h, hdatabase]
  rfl

end Bootstrap

end QuoteService
