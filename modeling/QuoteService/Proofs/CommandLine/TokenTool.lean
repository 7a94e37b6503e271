import QuoteService.CommandLine.TokenTool
import QuoteService.Proofs.Bootstrap.Services
import QuoteService.Proofs.Client.Requests
import QuoteService.Proofs.CommandLine.Values
import QuoteService.Proofs.Service.Gate
import QuoteService.Proofs.Token.Audience
import QuoteService.Proofs.Token.Minting

/-!
# Tokens of the tool at the service

* `Token.Authority.isLineEnd_of_mem_minted`: a token is one line.
* `Service.App.admits_minted_iff`: what the gate of the service makes of a minted token.
* `TokenTool.run_eq_endingFor`: what the tool makes of a key, a host and a time, and of a path or none.
* `TokenTool.opens_until_expiry`: **a token that the tool prints opens the protected routes of a
  service of the key and the host until it expires, and only if it is for the path of quotes.**
-/

namespace QuoteService

/-! ## A token is one line -/

namespace Base64

theorem le_toNat_of_mem_encodeUrl {bs : List UInt8} {ch : Char} (h : ch ∈ encodeUrl bs) :
    0x20 ≤ ch.toNat := by
  have hdigit := isDigit_of_mem_encode Alphabet.url_lawful bs ch h
  unfold Alphabet.isDigit Alphabet.value? at hdigit
  simp only at hdigit
  split_ifs at hdigit with hupper hlower hdecimal hminus hunder
  · omega
  · omega
  · omega
  · rw [hminus]; decide
  · rw [hunder]; decide
  · cases hdigit

end Base64

namespace Token.Authority

variable {a : Authority} {t u expiresIn : ℤ} {path token : String}

/-- **A minted token is one line.** -/
theorem isLineEnd_of_mem_minted {ch : Char} (h : ch ∈ (a.minted t expiresIn path).toList) :
    Text.isLineEnd ch = false := by
  have hbelow := toNat_lt_of_mem_minted h
  have hscheme : (scheme.toList.all fun ch => decide (0x20 ≤ ch.toNat)) = true := by decide
  have habove : 0x20 ≤ ch.toNat := by
    rw [toList_minted, Segments.toToken, Segments.signed, List.mem_append, List.mem_append,
      List.mem_append, List.mem_cons, List.mem_cons] at h
    rcases h with h | (h | rfl | h) | rfl | h
    · exact of_decide_eq_true (List.all_eq_true.1 hscheme ch h)
    · exact Base64.le_toNat_of_mem_encodeUrl h
    · decide
    · exact Base64.le_toNat_of_mem_encodeUrl h
    · decide
    · exact Base64.le_toNat_of_mem_encodeUrl h
  simp only [Text.isLineEnd, Bool.or_eq_false_iff, Bool.and_eq_false_iff, decide_eq_false_iff_not,
    beq_eq_false_iff_ne]
  omega

end Token.Authority

/-! ## A minted token at the service -/

theorem Token.path_quotes : Text.lower (dropLeadingSlash Service.quotePath.toList) =
    "api/v1/fortune".toList := by decide +kernel

namespace Service.App

variable {app : App} {call : Call} {t expiresIn : ℤ} {path token : String}

/-- **What the gate makes of a minted token**: it is admitted while it lives, if its path is that of
quotes up to letter case. -/
theorem admits_minted_iff (h : app.authority.generate t expiresIn (some path) = .ok token)
    (htoken : call.token? = some token) : app.admits call = true ↔
      call.now < 1000 * (t.tdiv 1000 + expiresIn) ∧
        Text.lower (Token.dropLeadingSlash path.toList) = "api/v1/fortune".toList := by
  have hproven := Token.Authority.provenClaims_minted (u := call.now) (b := app.authority) rfl h
  rw [admits, htoken]
  by_cases hexpired : 1000 * (t.tdiv 1000 + expiresIn) ≤ call.now
  · rw [Token.hasExpired, decide_eq_true hexpired, if_pos rfl] at hproven
    have hcheck : app.authority.check call.now (some token) (some quotePath) =
        .ok (some .expired) := by
      rw [Token.Authority.check, hproven]
    rw [Token.Authority.validate_of_refused hcheck]
    constructor
    · intro hadmitted
      cases hadmitted
    · intro halive
      omega
  · rw [Token.hasExpired, decide_eq_false hexpired, if_neg Bool.false_ne_true] at hproven
    have hcheck : app.authority.check call.now (some token) (some quotePath) = .ok (
        if Text.lower (Token.joinPath app.authority.publicHost.toList path.toList) ≠
            Text.lower (Token.joinPath app.authority.publicHost.toList quotePath.toList) then
          some .audienceMismatch
        else none) :=
      Token.Authority.check_of_proven hproven
    -- the hosts are the same, so the audiences differ just if the paths do
    have hpaths := Token.lower_joinPath_eq_iff app.authority.publicHost.toList path.toList
      quotePath.toList
    rw [Token.path_quotes] at hpaths
    by_cases hsame : Text.lower (Token.joinPath app.authority.publicHost.toList path.toList) =
        Text.lower (Token.joinPath app.authority.publicHost.toList quotePath.toList)
    · rw [if_neg (not_not.2 hsame)] at hcheck
      rw [Token.Authority.validate_of_accepted hcheck]
      exact ⟨fun _ => ⟨by omega, hpaths.1 hsame⟩, fun _ => rfl⟩
    · rw [if_pos hsame] at hcheck
      rw [Token.Authority.validate_of_refused hcheck]
      exact ⟨fun hadmitted => absurd hadmitted Bool.false_ne_true,
        fun hboth => absurd (hpaths.2 hboth.2) hsame⟩

/-- A protected request is answered with 401 exactly if its token is not admitted. -/
theorem status_protected (app : App) (hprotected : call.isProtected = true) (db : Database) :
    (app.handle call db).response.status = 401 ↔ app.admits call = false := by
  obtain ⟨handler, hhandler, hhandle⟩ := app.handle_protected hprotected
  rw [hhandle]
  cases hadmits : app.admits call with
  | true =>
    rw [(guarded_admitted hadmits db handler).1]
    exact ⟨fun hstatus => absurd hstatus (status_handler_ne hhandler call db), nofun⟩
  | false =>
    obtain ⟨failure, hrefuses⟩ := admits_eq_false_iff.1 hadmits
    rw [guarded_refused hrefuses]
    exact ⟨fun _ => rfl, fun _ => rfl⟩

end Service.App

namespace CommandLine.TokenTool

/-! ## What the arguments ask for -/

theorem short_tokenCommand : ∀ s ∈ tokenCommand.settings, (Flag.setting s).short ≠ separator ∧
    classify tokenCommand.flags (Flag.setting s).short = .ok (.flag (.setting s) false none) ∧
    ∃ kind, classify [.help] (Flag.setting s).short = .ok kind := by
  intro s hs
  simp only [tokenCommand, List.mem_cons, List.not_mem_nil, or_false] at hs
  rcases hs with rfl | rfl | rfl | rfl
  · exact ⟨by decide, rfl, _, rfl⟩
  · exact ⟨by decide, rfl, _, rfl⟩
  · exact ⟨by decide, rfl, _, rfl⟩
  · exact ⟨by decide, rfl, _, rfl⟩

/-- The settings of the command, in their order, with values for the first of them. -/
def assigned (values : List (List Char)) : List Assignment := tokenCommand.settings.zip values

/-- **The tool makes a token of the values that are spelled out**, if they can be read. -/
theorem run_assigned (t : ℤ) (random : List UInt8) {values : List (List Char)}
    (hvalues : ∀ v ∈ values, ∀ flags, SpellsNoNumber flags → IsPlain flags v)
    (hmissing : ∀ vs, readAssignments (assigned values) = .ok vs →
      missing tokenCommand.settings vs = []) :
    run t random (tokenCommand.name.toList :: spelled (assigned values)) =
      match readAssignments (assigned values) with
      | .error fault =>
        .ofRefusal (program.commandUsage tokenCommand) (program.nameOf tokenCommand) fault
      | .ok vs => makeToken t vs := by
  have hsettings : ∀ e ∈ assigned values, e.1 ∈ tokenCommand.settings ∧ e.2 ∈ values :=
    fun e he => List.of_mem_zip he
  have hspelled : AreSpelled tokenCommand.flags (assigned values) := by
    constructor
    · intro e he
      have h := short_tokenCommand e.1 (hsettings e he).1
      exact ⟨h.1, h.2.1⟩
    · intro e he
      exact hvalues e.2 (hsettings e he).2 _ (by decide)
  have hread : program.read (tokenCommand.name.toList :: spelled (assigned values)) =
      match readAssignments (assigned values) with
      | .error fault =>
        .refused (program.commandUsage tokenCommand) (program.nameOf tokenCommand) fault
      | .ok vs => .run tokenCommand.name vs :=
    readProgram_spelled rfl (isPlain_of_head (by decide))
      (fun e he => (short_tokenCommand e.1 (hsettings e he).1).2.2)
      (fun e he => hvalues e.2 (hsettings e he).2 _ (by decide)) hspelled hmissing
  rw [run, hread]
  cases readAssignments (assigned values) with
  | error fault => rfl
  | ok vs =>
    have hname : ¬tokenCommand.name = keyCommand.name := by decide
    simp only [if_neg hname]

/-- What the tool makes of values that can be read. -/
def tokenFor (t : ℤ) (key host : String) (expiresIn : ℤ) (path : String) : Ending Fault :=
  match Token.Authority.create (some key) host with
  | .error fault => .failed (Text.ofString fault.message) 2
  | .ok authority =>
    match authority.generate t expiresIn (some path) with
    | .error fault => .broken (.mint fault)
    | .ok token => .done [Text.ofString token]

/-- What the tool makes of a number of seconds as text: a number of too many digits is refused. -/
def endingFor (t : ℤ) (key host : String) (expiresIn : ℤ) (path : String) : Ending Fault :=
  if Text.maxDigits < (Text.digits expiresIn.natAbs).length then
    .ofRefusal (program.commandUsage tokenCommand) (program.nameOf tokenCommand)
      (.notWhole (.setting (tokenCommand.settings[2])) (Text.intDigits expiresIn))
  else tokenFor t key host expiresIn path

variable {t expiresIn : ℤ} {random : List UInt8} {key host path : String}

/-- Values that are all there make a token of themselves. -/
theorem makeToken_eq {vs : Values} (hkey : vs.text? "signing-key" "" = some key)
    (hhost : vs.text? "public-host" "" = some host)
    (hpath : vs.text? "api-path" defaultPath = some path)
    (hexpires : vs.whole? "expires-in" defaultExpiresIn = some expiresIn) :
    makeToken t vs = tokenFor t key host expiresIn path := by
  cases hcreate : Token.Authority.create (some key) host with
  | error fault => simp only [makeToken, tokenFor, hkey, hhost, hcreate, Option.getD_some]
  | ok authority =>
    cases hgenerate : authority.generate t expiresIn (some path) <;>
      simp only [makeToken, tokenFor, hkey, hhost, hpath, hexpires, hcreate, hgenerate, Option.getD_some]

/-- The values of the settings that come first; the path is only there if it is given. -/
def valuesFor (key host : String) (expiresIn : ℤ) (path : Option String) : Values :=
  [("signing-key", .text key.toList), ("public-host", .text host.toList),
    ("expires-in", .whole expiresIn)] ++ (path.map fun p => ("api-path", .text p.toList)).toList

theorem makeToken_valuesFor (path : Option String) :
    makeToken t (valuesFor key host expiresIn path) =
      tokenFor t key host expiresIn (path.getD defaultPath) := by
  cases path with
  | none =>
    apply makeToken_eq <;> simp [valuesFor, Values.text?, Values.whole?, Values.find?]
  | some path =>
    apply makeToken_eq <;> simp [valuesFor, Values.text?, Values.whole?, Values.find?]

/-- **A run of the tool for a key, a host and a time, and for a path if one is given.** -/
theorem run_eq_endingFor (t : ℤ) (random : List UInt8) (key host : String) (expiresIn : ℤ)
    (path : Option String)
    (htexts : ∀ text ∈ [key, host] ++ path.toList, text.toList.head? ≠ some '-') :
    run t random (["token", "-k", key, "-p", host, "-e", Text.intString expiresIn].map String.toList ++
        path.toList.flatMap fun p => ["-a".toList, p.toList]) =
      endingFor t key host expiresIn (path.getD defaultPath) := by
  let values := [key.toList, host.toList, Text.intDigits expiresIn] ++ path.toList.map String.toList
  have hplain : ∀ v ∈ values, ∀ flags, SpellsNoNumber flags → IsPlain flags v := by
    intro v hv flags hflags
    simp only [values, List.mem_append, List.mem_cons, List.not_mem_nil, or_false, List.mem_map] at hv
    rcases hv with (rfl | rfl | rfl) | ⟨p, hp, rfl⟩
    · exact isPlain_of_head (htexts key (by simp))
    · exact isPlain_of_head (htexts host (by simp))
    · exact isPlain_intDigits hflags expiresIn
    · exact isPlain_of_head (htexts p (List.mem_append_right _ hp))
  have hargs : ["token", "-k", key, "-p", host, "-e", Text.intString expiresIn].map String.toList ++
      path.toList.flatMap (fun p => ["-a".toList, p.toList]) =
        tokenCommand.name.toList :: spelled (assigned values) := by
    have hexpires : (Text.intString expiresIn).toList = Text.intDigits expiresIn :=
      String.toList_ofList
    cases path <;> simp [values, assigned, spelled, tokenCommand, Flag.short, hexpires]
  -- the number is the one value that its kind may not take
  have hwhole := Text.lenientInt?_intDigits expiresIn
  by_cases hlong : Text.maxDigits < (Text.digits expiresIn.natAbs).length
  · rw [if_pos hlong] at hwhole
    have hread : readAssignments (assigned values) =
        .error (.notWhole (.setting (tokenCommand.settings[2])) (Text.intDigits expiresIn)) := by
      cases path <;>
        simp [values, assigned, readAssignments, readValue, tokenCommand, hwhole, bind, Except.bind]
    rw [hargs, run_assigned t random hplain ?_, hread, endingFor, if_pos hlong]
    intro vs hvs
    rw [hread] at hvs
    cases hvs
  · rw [if_neg hlong] at hwhole
    have hread : readAssignments (assigned values) = .ok (valuesFor key host expiresIn path) := by
      cases path <;>
        simp [values, assigned, readAssignments, readValue, tokenCommand, valuesFor, hwhole, bind,
          Except.bind, pure, Except.pure]
    have hmissing : missing tokenCommand.settings (valuesFor key host expiresIn path) = [] := by
      cases path <;> rfl
    rw [hargs, run_assigned t random hplain ?_, hread, endingFor, if_neg hlong]
    · exact makeToken_valuesFor path
    · intro vs hvs
      rw [hread] at hvs
      cases hvs
      exact hmissing

/-! ## What a run tells about the service -/

/-- **A run that succeeds has minted a token** and written it on a line of its own. -/
theorem minted_of_endingFor {path : String}
    (h : (endingFor t key host expiresIn path).code = .ok 0) :
    ∃ authority token, Token.Authority.create (some key) host = .ok authority ∧
      authority.generate t expiresIn (some path) = .ok token ∧
      endingFor t key host expiresIn path = .done [Text.ofString token] := by
  unfold endingFor at h ⊢
  split at h
  · cases h
  · rename_i hshort
    rw [if_neg hshort]
    unfold tokenFor at h ⊢
    cases hcreate : Token.Authority.create (some key) host with
    | error fault =>
      rw [hcreate] at h
      cases h
    | ok authority =>
      rw [hcreate] at h
      cases hgenerate : authority.generate t expiresIn (some path) with
      | error fault =>
        simp only [hgenerate] at h
        cases h
      | ok token =>
        refine ⟨authority, token, rfl, hgenerate, ?_⟩
        simp only [hgenerate]

/-- **A run that fails with 2** has not been able to read the number of seconds, or has got a key that
gives no authority; it has written nothing. -/
theorem refused_of_endingFor {path : String}
    (h : (endingFor t key host expiresIn path).code = .ok 2) :
    (endingFor t key host expiresIn path).output = [] ∧
      (Text.lenientInt? (Text.intDigits expiresIn) = none ∨
        ∃ fault, Token.Authority.create (some key) host = .error fault ∧
          endingFor t key host expiresIn path = .failed (Text.ofString fault.message) 2) := by
  unfold endingFor at h ⊢
  split at h
  · rename_i hlong
    rw [if_pos hlong]
    refine ⟨rfl, .inl ?_⟩
    rw [Text.lenientInt?_intDigits, if_pos hlong]
  · rename_i hshort
    rw [if_neg hshort]
    unfold tokenFor at h ⊢
    cases hcreate : Token.Authority.create (some key) host with
    | error fault => exact ⟨rfl, .inr ⟨fault, rfl, rfl⟩⟩
    | ok authority =>
      rw [hcreate] at h
      cases hgenerate : authority.generate t expiresIn (some path) with
      | error fault =>
        simp only [hgenerate] at h
        cases h
      | ok token =>
        simp only [hgenerate] at h
        cases h

/-- **A token of the tool opens the protected routes until it expires, and only if it is for the path of
quotes.** Let the tool be run for a key, a host, a number of seconds and a path, of which none of the
texts starts with a hyphen. If it succeeds, then it writes one line, and a service of the key and the
host answers a protected request that shows this line with 401 exactly if the token has expired or its
path, without the slash at its start, is not that of quotes up to letter case. Without a path it does
the same as for the path of quotes. If it fails with 2 then it writes nothing; and either the number
cannot be read, or there is no service of that key, for the same fault as the tool tells. -/
theorem opens_until_expiry (t : ℤ) (random : List UInt8) (key host path : String) (expiresIn : ℤ)
    (htexts : ∀ text ∈ [key, host, path], text.toList.head? ≠ some '-') :
    let args := ["token", "-k", key, "-p", host, "-e", Text.intString expiresIn].map String.toList
    let ending := run t random (args ++ ["-a".toList, path.toList])
    (ending.code = .ok 0 → ∃ line : String,
      ending.output = Text.ofString line ++ Text.ofChars ['\n'] ∧
      (∀ c ∈ line.toList, Text.isLineEnd c = false) ∧
      ∀ (s : ServiceSettings) (app : Service.App), s.jwtSigningKey = Text.ofString key →
        s.publicHost = Text.ofString host → Bootstrap.createApp s = .ok app →
        ∀ (call : Service.Call) (db : Database), call.isProtected = true →
          call.token? = some line → ((app.handle call db).response.status = 401 ↔
            ¬(call.now < 1000 * (t.tdiv 1000 + expiresIn) ∧
              Text.lower (Token.dropLeadingSlash path.toList) = "api/v1/fortune".toList))) ∧
    run t random args = run t random (args ++ ["-a".toList, "/api/v1/fortune".toList]) ∧
    (ending.code = .ok 2 → ending.output = [] ∧
      (Text.lenientInt? (Text.intDigits expiresIn) = none ∨
        ∃ fault, ending = .failed (Text.ofString fault.message) 2 ∧
          ∀ s : ServiceSettings, s.jwtSigningKey = Text.ofString key →
            s.publicHost = Text.ofString host →
              Bootstrap.createApp s = .error (.configuration fault))) := by
  intro args ending
  have hkey := htexts key (by simp)
  have hhost := htexts host (by simp)
  have hending : ending = endingFor t key host expiresIn path :=
    run_eq_endingFor t random key host expiresIn (some path) htexts
  have hshort : run t random args = endingFor t key host expiresIn defaultPath := by
    have h := run_eq_endingFor t random key host expiresIn none (by simp [hkey, hhost])
    rw [Option.toList_none, List.flatMap_nil, List.append_nil] at h
    exact h
  have hdefault : run t random (args ++ ["-a".toList, "/api/v1/fortune".toList]) =
      endingFor t key host expiresIn defaultPath :=
    run_eq_endingFor t random key host expiresIn (some defaultPath)
      (by simp [hkey, hhost, defaultPath])
  rw [hending]
  refine ⟨?_, hshort.trans hdefault.symm, ?_⟩
  · intro hcode
    obtain ⟨authority, token, hcreate, hgenerate, hdone⟩ := minted_of_endingFor hcode
    refine ⟨token, ?_, ?_, ?_⟩
    · rw [hdone, Ending.done, List.flatMap_singleton]
    · intro c hc
      obtain ⟨-, -, -, rfl⟩ := Token.Authority.generate_eq_ok_iff.1 hgenerate
      exact Token.Authority.isLineEnd_of_mem_minted hc
    · intro s app hsigning hpublic happ call db hprotected htoken
      -- the authority of the service is the one that minted
      have happ := Bootstrap.create_of_createApp hsigning hpublic happ
      obtain rfl : authority = app.authority := Except.ok.inj (hcreate.symm.trans happ)
      rw [app.status_protected hprotected db, ← Service.App.admits_minted_iff hgenerate htoken,
        Bool.not_eq_true]
  · intro hcode
    obtain ⟨houtput, hread | ⟨fault, hcreate, hfailed⟩⟩ := refused_of_endingFor hcode
    · exact ⟨houtput, .inl hread⟩
    · exact ⟨houtput, .inr ⟨fault, hfailed, fun s hsigning hpublic =>
        Bootstrap.createApp_of_create_error hsigning hpublic hcreate⟩⟩

/-- A token for the path of quotes in other letters, made for a minute, opens the list of all quotes up
to the last millisecond of that minute. -/
theorem opens_until_expiry_letters :
    let key := Token.SigningKey.newText (List.replicate 64 0x6B)
    let host := "fortune.example"
    let args := ["token", "-k", key, "-p", host, "-e", Text.intString 60].map String.toList
    let ending := run 1999 [] (args ++ ["-a".toList, "/API/v1/Fortune".toList])
    ∃ (line : String) (app : Service.App), ending.code = .ok 0 ∧
      ending.output = Text.ofString line ++ Text.ofChars ['\n'] ∧
      Bootstrap.createApp (Bootstrap.settingsOf key host) = .ok app ∧
      ∀ now : ℤ, (app.handle
        ⟨⟨"GET", Service.allPath, none, [("Authorization", line)], [], none⟩, now, 0⟩
        .bare).response.status = 401 ↔ 61000 ≤ now := by
  intro key host args ending
  have htexts : ∀ text ∈ [key, host, "/API/v1/Fortune"], text.toList.head? ≠ some '-' := by
    decide +kernel
  have hcreate : Token.Authority.create (some key) host = .ok Token.Authority.ofLetters :=
    Token.Authority.create_ofLetters
  have hgenerate : Token.Authority.ofLetters.generate 1999 60 (some "/API/v1/Fortune") =
      .ok (Token.Authority.ofLetters.minted 1999 60 "/API/v1/Fortune") :=
    Token.Authority.generate_eq_ok_iff.2
      ⟨by decide +kernel, by decide +kernel, Token.Authority.usable_ofLetters, rfl⟩
  have hcode : ending.code = .ok 0 := by
    have hending : ending = endingFor 1999 key host 60 "/API/v1/Fortune" :=
      run_eq_endingFor 1999 [] key host 60 (some "/API/v1/Fortune") htexts
    have hshort : ¬Text.maxDigits < (Text.digits (60 : ℤ).natAbs).length := by decide +kernel
    rw [hending, endingFor, if_neg hshort, tokenFor, hcreate]
    simp only [hgenerate]
    rfl
  have happ : Bootstrap.createApp (Bootstrap.settingsOf key host) = .ok ⟨Token.Authority.ofLetters⟩ :=
    Bootstrap.createApp_settingsOf hcreate [] []
  obtain ⟨hopens, -, -⟩ := opens_until_expiry 1999 [] key host "/API/v1/Fortune" 60 htexts
  obtain ⟨line, hline, -, hstatus⟩ := hopens hcode
  refine ⟨line, ⟨Token.Authority.ofLetters⟩, hcode, hline, happ, ?_⟩
  intro now
  let call : Service.Call :=
    ⟨⟨"GET", Service.allPath, none, [("Authorization", line)], [], none⟩, now, 0⟩
  have htoken : call.token? = some line := Service.Call.token?_eq rfl
  have hprotected : call.isProtected = true := by
    have hasks : (Service.Route.all.matchesPath Service.allPath.toList &&
        Service.Route.all.method == "GET") = true := by
      decide +kernel
    exact Bool.or_eq_true_iff.2 (.inl hasks)
  have hpath : Text.lower (Token.dropLeadingSlash "/API/v1/Fortune".toList) =
      "api/v1/fortune".toList := by
    decide +kernel
  have h := hstatus (Bootstrap.settingsOf key host) ⟨Token.Authority.ofLetters⟩ rfl rfl happ call
    .bare hprotected htoken
  rw [h, hpath]
  have hlast : (1000 : ℤ) * ((1999 : ℤ).tdiv 1000 + 60) = 61000 := by decide
  rw [hlast]
  constructor
  · intro hnot
    by_contra hlate
    exact hnot ⟨by simpa [call] using hlate, rfl⟩
  · intro hlate hboth
    have hearly : now < 61000 := hboth.1
    omega

end CommandLine.TokenTool

end QuoteService
