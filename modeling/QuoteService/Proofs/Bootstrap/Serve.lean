import QuoteService.Proofs.Bootstrap.Directory
import QuoteService.Proofs.Bootstrap.Services
import QuoteService.Proofs.Token.Minting

/-!
# Starts of the server

* `Outcome`, `outcome_serve`: the ways that a start can go.
* `serve_listens`: **the server is started at most once, on the listener of its identity, and its key is
  in a file only meanwhile.** It is not started at all for a certificate of a version that does not exist
  (`serve_unknownVersion`).
-/

namespace QuoteService

namespace Bootstrap

/-! ## How a start goes -/

/-- What the settings give for TLS. -/
def loaded (s : ServiceSettings) : Except Tls.MaterialError (Option Tls.Identity × List LogRecord) :=
  Tls.loadIdentity (some s.sslKey.shownString) (some s.sslCerts.shownString)

/-- A start of the server shows what the settings give for TLS: an identity on the port for it, with
its key in a file for the owner alone and its chain in another; else nothing, on the other port. -/
def Launch.Shows (launch : Launch) (s : ServiceSettings) : Option Tls.Identity → Prop
  | none => launch.port = s.httpPort ∧ launch.tls = none
  | some identity => launch.port = s.httpsPort ∧ ∃ files pem mode, launch.tls = some files ∧
      identity.keyPem = .ok pem ∧ files.file? keyFileName = some ⟨0o600, pem⟩ ∧
      files.file? chainFileName = some ⟨mode, identity.chainPem⟩

variable {logger : LoggerState} {s : ServiceSettings}

/-- The ways that a start can go. -/
inductive Outcome (run : Launch → Bool) (logger : LoggerState) (s : ServiceSettings) : Ran → Prop
  /-- The level of the log is refused. -/
  | level {fault} : (logger.configure s.logLevel).2 = .error fault →
      Outcome run logger s (.failed (.level fault))
  /-- There is no service. -/
  | service {fault} : (logger.configure s.logLevel).2 = .ok () → createApp s = .error fault →
      Outcome run logger s (.failed fault)
  /-- Loading the material for TLS breaks off. -/
  | material {app fault} : (logger.configure s.logLevel).2 = .ok () → createApp s = .ok app →
      loaded s = .error fault → Outcome run logger s (.failed (.material fault))
  /-- The server is run. -/
  | served {app identity logs launch scratch} : (logger.configure s.logLevel).2 = .ok () →
      createApp s = .ok app → loaded s = .ok (identity, logs) → launch.Shows s identity →
      Outcome run logger s ⟨[launch], none, scratch, if run launch then none else some .server⟩

/-- Without an identity there is no directory for files. -/
theorem runOn_plain (run : Launch → Bool) (s : ServiceSettings) {l : Listener} (h : l.identity = none) :
    runOn run s l = ⟨[launchOf s l none], none, none,
      if run (launchOf s l none) then none else some .server⟩ := by
  unfold runOn
  rw [h]
  rfl

/-- **With an identity the server runs on its files**, and the directory is gone afterwards. -/
theorem runOn_tls (run : Launch → Bool) (s : ServiceSettings) {l : Listener}
    {identity : Tls.Identity} {pem : List Char}
    (h : l.identity = some identity) (hpem : identity.keyPem = .ok pem) : ∃ files,
      runOn run s l = ⟨[launchOf s l (some files)], none, some files,
        if run (launchOf s l (some files)) then none else some .server⟩ ∧
      files.file? keyFileName = some ⟨0o600, pem⟩ ∧
      ∃ mode, files.file? chainFileName = some ⟨mode, identity.chainPem⟩ := by
  obtain ⟨files, hwrite, hkey, hchain⟩ := writeFiles_empty hpem
  refine ⟨files, ?_, hkey, hchain⟩
  have hwork : (runWith run s l identity).run .empty =
      (started run (launchOf s l (some files)), files) := by
    rw [runWith, StateT.run_bind, hwrite]
    rfl
  unfold runOn
  rw [h]
  simp only [withDirectory, hwork]
  rfl

/-- The listener for an identity, or for none. -/
def listenerFor (s : ServiceSettings) : Option Tls.Identity → Listener
  | none => ⟨"http", s.host.shownString, s.httpPort, none⟩
  | some identity => ⟨"https", s.host.shownString, s.httpsPort, some identity⟩

/-- The listener that is planned is the one for what is loaded: an identity that is loaded has a key
and a chain. -/
theorem plan_of_loaded {identity : Option Tls.Identity} {logs : List LogRecord}
    (h : loaded s = .ok (identity, logs)) : Listener.plan s = .ok (listenerFor s identity, logs) := by
  rw [loaded] at h
  rw [Listener.plan, h]
  cases identity with
  | none => rfl
  | some identity =>
    obtain ⟨⟨key, hkey, -⟩, hchain, -⟩ := Tls.loadIdentity_eq_some h
    have hcan : identity.canTerminateTls = true := by
      rw [Tls.Identity.canTerminateTls, hkey]
      simpa using hchain
    simp only [Except.map, Option.filter_some, hcan, if_true, listenerFor]

theorem plan_of_loaded_error {fault : Tls.MaterialError} (h : loaded s = .error fault) :
    Listener.plan s = .error fault := by
  rw [loaded] at h
  rw [Listener.plan, h]
  rfl

/-- **Every start goes one of these ways.** -/
theorem outcome_serve (run : Launch → Bool) (logger : LoggerState) (s : ServiceSettings) :
    Outcome run logger s (serve run logger s).toRan := by
  unfold serve
  -- the steps of a start in their order; up to the server each of them may end it
  rcases hlevel : logger.configure s.logLevel with ⟨state, fault | _⟩
  · exact .level (by rw [hlevel])
  have hlevel : (logger.configure s.logLevel).2 = .ok () := by rw [hlevel]
  cases happ : createApp s with
  | error fault => exact .service hlevel happ
  | ok app =>
    cases hloaded : loaded s with
    | error fault =>
      rw [plan_of_loaded_error hloaded]
      exact .material hlevel happ hloaded
    | ok found =>
      obtain ⟨identity, logs⟩ := found
      rw [plan_of_loaded hloaded]
      cases identity with
      | none =>
        have hplain : (listenerFor s none).identity = none := rfl
        simp only [runOn_plain run s hplain]
        exact .served hlevel happ hloaded ⟨rfl, rfl⟩
      | some identity =>
        obtain ⟨⟨key, hkey, -⟩, -⟩ := Tls.loadIdentity_eq_some hloaded
        have hpem : identity.keyPem = .ok key.toPem := by rw [Tls.Identity.keyPem, hkey]
        have hlistener : (listenerFor s (some identity)).identity = some identity := rfl
        obtain ⟨files, hrun, hfile, mode, hchain⟩ := runOn_tls run s hlistener hpem
        simp only [hrun]
        exact .served hlevel happ hloaded ⟨rfl, files, key.toPem, mode, rfl, hpem, hfile, hchain⟩

/-- A fault that loading lets through ends the start, though there is a service. -/
theorem serve_of_loaded_error (run : Launch → Bool) {app : Service.App} {fault : Tls.MaterialError}
    (hlevel : (logger.configure s.logLevel).2 = .ok ()) (happ : createApp s = .ok app)
    (hloaded : loaded s = .error fault) :
    (serve run logger s).toRan = .failed (.material fault) := by
  have houtcome := outcome_serve run logger s
  generalize (serve run logger s).toRan = ran at houtcome ⊢
  cases houtcome with
  | level hfault => cases hlevel.symm.trans hfault
  | service _ hfault => cases happ.symm.trans hfault
  | material _ _ hfault =>
    cases hloaded.symm.trans hfault
    rfl
  | served _ _ hfound _ => cases hloaded.symm.trans hfound

/-- **The server is started at most once, and its key is in a file only meanwhile.** It is started just
if the level of the log is accepted, there is a service, and no certificate of a version that does not
exist stops the material for TLS from being loaded; then it shows the identity that was loaded, if
any. However the start ends, and it ends well just if the server does, the directory is gone; it was
never made unless the server was started. -/
theorem serve_listens (run : Launch → Bool) (logger : LoggerState) (s : ServiceSettings) :
    let served := serve run logger s
    served.launches.length ≤ 1 ∧
    (served.launches.length = 1 ↔ (logger.configure s.logLevel).2 = .ok () ∧
      (∃ app, createApp s = .ok app) ∧ loaded s ≠ .error (.certificate .unknownVersion)) ∧
    (∀ launch ∈ served.launches, ∃ identity logs, loaded s = .ok (identity, logs) ∧
      launch.Shows s identity) ∧
    (served.failure = none ↔ ∃ launch ∈ served.launches, run launch = true) ∧
    served.directory = none ∧
    (served.launches = [] → served.scratch = none) := by
  intro served
  -- only the last of the ways has a launch and a directory
  have houtcome : Outcome run logger s served.toRan := outcome_serve run logger s
  generalize served.toRan = ran at houtcome ⊢
  cases houtcome with
  | level hlevel =>
    refine ⟨Nat.zero_le 1, ?_, nofun, ⟨nofun, nofun⟩, rfl, fun _ => rfl⟩
    rw [hlevel]
    exact ⟨nofun, nofun⟩
  | service _ happ =>
    refine ⟨Nat.zero_le 1, ?_, nofun, ⟨nofun, nofun⟩, rfl, fun _ => rfl⟩
    rw [happ]
    exact ⟨nofun, nofun⟩
  | material _ _ hloaded =>
    refine ⟨Nat.zero_le 1, ⟨nofun, ?_⟩, nofun, ⟨nofun, nofun⟩, rfl, fun _ => rfl⟩
    rintro ⟨-, -, hknown⟩
    rw [Tls.loadIdentity_eq_error hloaded] at hloaded
    exact absurd hloaded hknown
  | served hlevel happ hloaded hshows =>
    refine ⟨le_rfl, ⟨fun _ => ⟨hlevel, ⟨_, happ⟩, ?_⟩, fun _ => rfl⟩, ?_, ?_, rfl, nofun⟩
    · rw [hloaded]
      nofun
    · intro launch hlaunch
      rw [List.mem_singleton.1 hlaunch]
      exact ⟨_, _, hloaded, hshows⟩
    · simp

/-! ## Small starts -/

/-- The settings of a small service, but for a chain that wraps the text `certs`. -/
def smallSettings (certs : List Char) : ServiceSettings :=
  { settingsOf (Token.SigningKey.newText (List.replicate 64 0x6B)) "fortune.example" with
    sslKey := Text.ofString (Tls.wrap [] Tls.plainKey.toPem)
    sslCerts := Text.ofString (Tls.wrap [] certs) }

theorem createApp_smallSettings (certs : List Char) :
    createApp (smallSettings certs) = .ok ⟨Token.Authority.ofLetters⟩ :=
  createApp_settingsOf Token.Authority.create_ofLetters _ _

theorem configure_smallSettings (certs : List Char) :
    (LoggerState.initial.configure (smallSettings certs).logLevel).2 = .ok () := by
  have hlevel : (LoggerState.initial.configure (Text.ofString "INFO")).2 = .ok () := by decide
  exact hlevel

/-- A server with a small key and certificate that ends with an error: it shows both on the port for
TLS, and leaves no file. -/
theorem serve_listens_plainKey : ∃ c : Certificate, c.der = Tls.namelessCertificate [] ∧
    let served := serve (fun _ => false) .initial (smallSettings (Certificate.chainPem [c]))
    served.directory = none ∧ ∃ launch files mode, served.launches = [launch] ∧ launch.port = 443 ∧
      launch.tls = some files ∧ files.file? keyFileName = some ⟨0o600, Tls.plainKey.toPem⟩ ∧
      files.file? chainFileName = some ⟨mode, Certificate.chainPem [c]⟩ := by
  obtain ⟨c, hc, hder⟩ := Tls.ofDer_namelessCertificate
  have hchain : ∀ c' ∈ [c], Certificate.ofDer c'.der = .ok c' := by
    intro c' hc'
    rw [List.mem_singleton.1 hc', hder, hc]
  have hloaded : loaded (smallSettings (Certificate.chainPem [c])) =
      .ok (some ⟨some Tls.plainKey, [c]⟩, []) := by
    rw [loaded]
    simp only [smallSettings, Text.shownString_ofString]
    exact Tls.loadIdentity_wrapped Tls.plainKey_isValid (List.cons_ne_nil c []) hchain
      (Tls.isWrapped_wrap [] rfl Tls.plainKey.toPem) (Tls.isWrapped_wrap [] rfl _)
  obtain ⟨-, honce, hshows, -, hgone, -⟩ :=
    serve_listens (fun _ => false) .initial (smallSettings (Certificate.chainPem [c]))
  have hknown : loaded (smallSettings (Certificate.chainPem [c])) ≠
      .error (.certificate .unknownVersion) := by
    rw [hloaded]
    nofun
  have hlength := honce.2 ⟨configure_smallSettings _, ⟨_, createApp_smallSettings _⟩, hknown⟩
  obtain ⟨launch, hlaunch⟩ := List.length_eq_one_iff.1 hlength
  have hmem : launch ∈
      (serve (fun _ => false) .initial (smallSettings (Certificate.chainPem [c]))).launches := by
    rw [hlaunch]
    exact List.mem_singleton_self launch
  obtain ⟨identity, logs, hfound, hshown⟩ := hshows launch hmem
  rw [hloaded] at hfound
  cases hfound
  obtain ⟨hport, files, pem, mode, htls, hpem, hkey, hcerts⟩ := hshown
  cases hpem
  exact ⟨c, hder, hgone, launch, files, mode, hlaunch, hport, htls, hkey, hcerts⟩

theorem loaded_unknownVersion :
    loaded (smallSettings (Pem.encodeBlock .certificate Tls.unknownVersionCertificate)) =
      .error (.certificate .unknownVersion) := by
  rw [loaded]
  simp only [smallSettings, Text.shownString_ofString]
  exact Tls.loadIdentity_wrapped_unknownVersion Tls.plainKey_isValid
    Tls.ofDer_unknownVersionCertificate (Tls.isWrapped_wrap [] rfl Tls.plainKey.toPem)
    (Tls.isWrapped_wrap [] rfl _)

/-- **A certificate of a version that does not exist keeps the server from being started**, with TLS or
without it, although the level of the log is accepted and there is a service. -/
theorem serve_unknownVersion :
    let s := smallSettings (Pem.encodeBlock .certificate Tls.unknownVersionCertificate)
    (LoggerState.initial.configure s.logLevel).2 = .ok () ∧ (∃ app, createApp s = .ok app) ∧
      ∀ run : Launch → Bool, (serve run .initial s).launches = [] ∧
        (serve run .initial s).failure = some (.material (.certificate .unknownVersion)) := by
  intro s
  refine ⟨configure_smallSettings _, ⟨_, createApp_smallSettings _⟩, ?_⟩
  intro run
  have hran := serve_of_loaded_error run (configure_smallSettings _)
    (createApp_smallSettings _) loaded_unknownVersion
  exact ⟨congrArg Ran.launches hran, congrArg Ran.failure hran⟩

end Bootstrap

end QuoteService
