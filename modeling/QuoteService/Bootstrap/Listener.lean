import QuoteService.Settings.Basic
import QuoteService.Text.Decimal
import QuoteService.Tls.Identity

/-!
# Listeners

* `Listener`: where and how the service accepts connections.
* `Listener.plan`: with TLS when the settings give an identity, else without.
* `Listener.url`: the address that is told.
-/

namespace QuoteService

/-- Where and how the service accepts connections. -/
structure Listener where
  scheme : String
  host : String
  port : Int
  identity : Option Tls.Identity

namespace Listener

/-- The address of a listener; one that listens everywhere is told by a local name. -/
def urlOf (scheme host : String) (port : Int) : String :=
  let shown := if host = "" ∨ host = "0.0.0.0" then "localhost" else host
  scheme ++ "://" ++ shown ++ ":" ++ Text.intString port

/-- The address of a listener. -/
def url (l : Listener) : String := urlOf l.scheme l.host l.port

/-- The listener of some settings, with the log records of choosing it. -/
def plan (s : ServiceSettings) : Except Tls.MaterialError (Listener × List LogRecord) :=
  (Tls.loadIdentity (some s.sslKey.shownString) (some s.sslCerts.shownString)).map fun (loaded, logs) =>
    match loaded.filter Tls.Identity.canTerminateTls with
    | some identity => (⟨"https", s.host.shownString, s.httpsPort, some identity⟩, logs)
    | none => (⟨"http", s.host.shownString, s.httpPort, none⟩, logs)

end Listener

end QuoteService
