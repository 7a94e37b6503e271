import QuoteService.Bootstrap.DatabaseUrl
import QuoteService.Bootstrap.Directory
import QuoteService.Bootstrap.Listener
import QuoteService.Logging.Setup
import QuoteService.Service.App

/-!
# Starting the service

Logging is set up, the service is built, a listener is chosen, and then the server runs until it
ends. With TLS, key and chain stand in a directory that exists only while the server runs.

* `Launch`: how the server is started.
* `Ran`, `Serving`: what running the server and a whole start leave behind.
* `serve`, `serveFrom`: a start from settings, and from a source of settings.
-/

namespace QuoteService.Bootstrap

/-- The logger of this module. -/
def serverLogger : String := "fortune.core.server"

/-- The title of the service. -/
def serviceTitle : String := "Fortune API"

/-- How the server is started. With TLS, the directory that holds key and chain at that moment. -/
structure Launch where
  title : String
  host : String
  port : Int
  logLevel : String
  tls : Option Directory
  deriving DecidableEq

/-- Why a start fails. -/
inductive ServeError where
  | settings (faults : List Settings.FieldFault)
  | level (fault : UnknownLevel)
  | configuration (fault : Token.ConfigurationError)
  | database (fault : DatabaseUrlError)
  | material (fault : Tls.MaterialError)
  | write (fault : WriteError)
  | server
  deriving DecidableEq

/-- What running the server leaves behind. -/
structure Ran where
  /-- The starts of the server. -/
  launches : List Launch
  /-- The directory for key and chain, if it still exists. -/
  directory : Option Directory
  /-- What stood in that directory in the end, if it was ever made. -/
  scratch : Option Directory
  failure : Option ServeError
  deriving DecidableEq

/-- What a start leaves behind: besides, what was logged, and the state of the logger. -/
structure Serving extends Ran where
  records : List LogRecord
  logger : LoggerState

/-- A failure before the server is run. -/
def Ran.failed (fault : ServeError) : Ran := ⟨[], none, none, some fault⟩

/-- The service of some settings. -/
def createApp (s : ServiceSettings) : Except ServeError Service.App := do
  let authority ←
    (Token.Authority.create (some s.jwtSigningKey.shownString) s.publicHost.shownString).mapError .configuration
  (DatabaseUrl.check s.databaseUrl.shownString).mapError .database
  pure ⟨authority⟩

/-- The result of work that has a directory to itself, and what stands in the directory in the end. The
directory is removed whatever comes of the work. -/
def withDirectory {α : Type} (work : StateM Directory α) : α × Option Directory × Directory :=
  let (result, last) := work.run .empty
  (result, none, last)

/-- The start of the server on a listener. -/
def launchOf (s : ServiceSettings) (l : Listener) (tls : Option Directory) : Launch :=
  ⟨serviceTitle, l.host, l.port, String.ofList (Text.lower s.logLevel.shown), tls⟩

/-- Runs the server once; `run` says whether it ends without an error. -/
def started (run : Launch → Bool) (launch : Launch) : List Launch × Option ServeError :=
  ([launch], if run launch then none else some .server)

/-- Writes an identity and runs the server on it. -/
def runWith (run : Launch → Bool) (s : ServiceSettings) (l : Listener) (identity : Tls.Identity) :
    StateM Directory (List Launch × Option ServeError) := do
  match ← (writeFiles identity).run with
  | .error fault => pure ([], some (.write fault))
  | .ok () => pure (started run (launchOf s l (some (← get))))

/-- Runs the server on a listener, with TLS if it has an identity. -/
def runOn (run : Launch → Bool) (s : ServiceSettings) (l : Listener) : Ran :=
  match l.identity with
  | none =>
    let (launches, failure) := started run (launchOf s l none)
    ⟨launches, none, none, failure⟩
  | some identity =>
    let ((launches, failure), left, last) := withDirectory (runWith run s l identity)
    ⟨launches, left, some last, failure⟩

/-- A start from settings, with the logger in the state `logger`. -/
def serve (run : Launch → Bool) (logger : LoggerState) (s : ServiceSettings) : Serving :=
  match logger.configure s.logLevel with
  | (logger, .error e) => { Ran.failed (.level e) with records := [], logger }
  | (logger, .ok ()) =>
    match createApp s with
    | .error e => { Ran.failed e with records := [], logger }
    | .ok _ =>
      match Listener.plan s with
      | .error e => { Ran.failed (.material e) with records := [], logger }
      | .ok (listener, records) =>
        let told := records ++ [⟨.info, serverLogger, "Fortune API listening on " ++ listener.url⟩]
        { runOn run s listener with records := told, logger }

/-- A start from a source of settings. -/
def serveFrom (run : Launch → Bool) (logger : LoggerState) (source : Settings.Source) : Serving :=
  match ServiceSettings.read source with
  | .error faults => { Ran.failed (.settings faults) with records := [], logger }
  | .ok s => serve run logger s

/-- The command that starts the service from the environment: it also tells when the server ends. -/
def command (run : Launch → Bool) (logger : LoggerState) (source : Settings.Source) : Serving :=
  let served := serveFrom run logger source
  match served.failure with
  | some _ => served
  | none =>
    { served with records := served.records ++ [⟨.info, serverLogger, "Shutdown complete"⟩] }

end QuoteService.Bootstrap
