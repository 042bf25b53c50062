import BackendLink.Program
import BackendLink.Proofs.Connection

/-!
# What a run of the connection check guarantees

Nothing is dialed before the configuration is loaded and accepted, the settings that are dialed with
are those of the configuration, and where it asks for SSL a run succeeds with an encrypted connection
or not at all (`run_guarded`).
-/

namespace BackendLink
open Wire Transport

/-! ## Settings -/

/-- The settings of an attempt are those of the configuration. -/
structure Config.Kept (config : Config) (settings : ConnectionSettings) : Prop where
  addr : settings.addr = config.backend.addr
  requireSsl : settings.requireSsl = config.credentials.ssl.enable
  unlimited : settings.connectTimeout = none ↔ config.backend.connectTimeoutSecs = 0
  limited : ∀ limit, settings.connectTimeout = some limit →
    limit = config.backend.connectTimeoutSecs.toNat * 1000
  caCert : settings.tls.caCert = config.credentials.ssl.caCertPath
  clientCert : settings.tls.clientCert = config.credentials.ssl.clientCertPath
  clientKey : settings.tls.clientKey = config.credentials.ssl.clientKeyPath
  insecure : settings.tls.insecure = config.credentials.ssl.insecure
  serverName : settings.tls.serverName = config.credentials.ssl.serverName

theorem Config.connectionSettings_kept (config : Config) : config.Kept config.connectionSettings := by
  have timeout : config.connectionSettings.connectTimeout =
      if config.backend.connectTimeoutSecs = 0 then none
      else some (config.backend.connectTimeoutSecs.toNat * 1000) := by
    simp [connectionSettings, BackendConfig.connectTimeout]
  constructor
  case unlimited => rw [timeout]; split <;> simp [*]
  case limited =>
    intro limit bounded
    rw [timeout] at bounded
    split at bounded
    · cases bounded
    · exact (Option.some.inj bounded).symm
  all_goals rfl

/-! ## Attempts with SSL -/

theorem connect_required {settings : ConnectionSettings} (required : settings.requireSsl)
    (network : Network) (upgrader : Upgrader) :
    ((connect settings network upgrader).socket = none ∧
      (connect settings network upgrader).upgrades = [] ∧
      ∃ e, (connect settings network upgrader).result = .error e) ∨
    ∃ socket trace left,
      dial network settings.addr settings.connectTimeout = .socket socket ∧
      Attempt.Secured settings upgrader socket trace left (connect settings network upgrader) := by
  unfold connect
  cases dial network settings.addr settings.connectTimeout with
  | failed e => exact .inl ⟨rfl, rfl, _, rfl⟩
  | expired limited => exact .inl ⟨rfl, rfl, _, rfl⟩
  | socket socket =>
      obtain ⟨trace, left, secured⟩ := secure_secured required upgrader socket
      exact .inr ⟨socket, trace, left, rfl, { secured with }⟩

theorem TlsSettings.upgrader_ok {tls : TlsSettings} {files : FileSystem} {handshake : Handshake}
    {host : String} {socket : Socket} {link : Link}
    (upgraded : (tls.upgrader files handshake host socket).result = .ok link) :
    ∃ connector encrypted, tls.connector files host = .ok connector ∧
      handshake connector socket = .ok encrypted ∧ link = .encrypted encrypted := by
  unfold upgrader at upgraded
  dsimp only at upgraded
  split at upgraded
  · cases upgraded
  · rename_i connector made
    split at upgraded
    · cases upgraded
    · rename_i encrypted shaken
      exact ⟨connector, encrypted, made, shaken, (Except.ok.inj upgraded).symm⟩

/-- Where SSL is required, what is handed out came out of a handshake on the dialed socket. -/
theorem connect_encrypted {settings : ConnectionSettings} (required : settings.requireSsl)
    {files : FileSystem} {network : Network} {handshake : Handshake} {link : Link}
    (connected : (connect settings network (settings.tls.upgrader files handshake)).result =
      .ok link) :
    ∃ left connector encrypted,
      (connect settings network (settings.tls.upgrader files handshake)).socket = some left ∧
      settings.tls.connector files (Address.hostOf settings.addr) = .ok connector ∧
      handshake connector left = .ok encrypted ∧ link = .encrypted encrypted := by
  rcases connect_required required network (settings.tls.upgrader files handshake) with
    ⟨-, -, e, failed⟩ | ⟨socket, trace, left, -, secured⟩
  · rw [failed] at connected
    cases connected
  · obtain ⟨-, upgraded⟩ := (secured.ok_iff link).mp connected
    obtain ⟨connector, encrypted, made, shaken, rfl⟩ := TlsSettings.upgrader_ok upgraded
    exact ⟨left, connector, encrypted, secured.socket, made, shaken, rfl⟩

/-! ## Logs

The lines of an attempt are not written in the name of the program, so none of them is its report. -/

/-- No line is the program's own. -/
def Log.Foreign (lines : List Log.Line) : Prop := ∀ line ∈ lines, line.target ≠ "pgrelay"

theorem Log.Foreign.append {first second : List Log.Line} (left : Foreign first)
    (right : Foreign second) : Foreign (first ++ second) := by
  intro line member
  rcases List.mem_append.mp member with found | found
  · exact left line found
  · exact right line found

theorem negotiate_foreign (t : Transport) : Log.Foreign (negotiate t).log := by
  unfold negotiate
  dsimp only
  split
  · simp [Log.Foreign, Negotiation.target]
  · split
    · simp [Log.Foreign, Negotiation.target]
    · split
      · simp [Log.Foreign, Negotiation.target]
      · split <;> simp [Log.Foreign, Negotiation.target]

theorem TlsSettings.upgrader_foreign (tls : TlsSettings) (files : FileSystem)
    (handshake : Handshake) (host : String) (socket : Socket) :
    Log.Foreign (tls.upgrader files handshake host socket).log := by
  have warning : Log.Foreign (if tls.insecure then
      [⟨.warn, upgradeTarget, "Using insecure TLS (certificate verification disabled)"⟩] else []) := by
    split <;> simp [Log.Foreign, upgradeTarget]
  unfold upgrader
  dsimp only
  split
  · exact warning
  · split
    · exact warning.append (by simp [Log.Foreign, upgradeTarget])
    · exact warning.append (by simp [Log.Foreign, upgradeTarget])

theorem connect_foreign (settings : ConnectionSettings) (network : Network) {upgrader : Upgrader}
    (quiet : ∀ host socket, Log.Foreign (upgrader host socket).log) :
    Log.Foreign (connect settings network upgrader).log := by
  unfold connect
  dsimp only
  split
  · simp [Log.Foreign, Attempt.unconnected, Attempt.target]
  · simp [Log.Foreign, Attempt.unconnected, Attempt.target]
  · rename_i socket dialed
    apply Log.Foreign.append
    · simp [Log.Foreign, Attempt.target]
    · have asked := negotiate_foreign socket.stream
      have started : Log.Foreign
          (⟨.info, Attempt.target, "SSL connections are enabled"⟩ :: (negotiate socket.stream).log) :=
        List.forall_mem_cons.mpr ⟨by simp [Attempt.target], asked⟩
      unfold ConnectionSettings.secure
      dsimp only
      split
      · simp [Log.Foreign]
      · split
        · exact started
        · exact started
        · apply Log.Foreign.append
          · apply Log.Foreign.append
            · exact started.append (by simp [Log.Foreign, Attempt.target])
            · exact quiet _ _
          · split <;> simp [Log.Foreign, Attempt.target]

namespace Program

/-! ## Reports -/

/-- What a run says of the connection that it established. -/
def report (peer manner : String) : Log.Line :=
  line .info ("Connected to " ++ peer ++ " (" ++ manner ++ ")")

theorem report_ne_of_head {text : String} (other : text.toList.head? ≠ some 'C')
    (peer manner : String) : report peer manner ≠ line .info text := by
  intro same
  apply other
  have texts : "Connected to " ++ peer ++ " (" ++ manner ++ ")" = text :=
    congrArg Log.Line.text same
  rw [← texts]
  simp

theorem report_plaintext_ne (peer other : String) : report peer "plaintext" ≠ report other "TLS" := by
  intro same
  -- Read from their ends, the two texts differ at the second letter.
  have texts := congrArg (fun l => l.text.toList.reverse) same
  simp [report, line] at texts

theorem report_not_described (settings : ConnectionSettings) (peer manner : String) :
    report peer manner ∉ describe settings := by
  have addr : report peer manner ≠ line .info ("Backend: " ++ settings.addr) :=
    report_ne_of_head (by simp) peer manner
  have required : report peer manner ≠ line .info "  SSL: required" :=
    report_ne_of_head (by simp) peer manner
  have disabled : report peer manner ≠ line .info "  SSL: disabled" :=
    report_ne_of_head (by simp) peer manner
  have warned : report peer manner ≠ line .warn "  Certificate verification: disabled" := by
    simp [report, line]
  unfold describe
  split
  · split <;> simp [addr, required, warned]
  · simp [addr, disabled]

theorem report_ne_origin (env : Environment) (peer manner : String) :
    report peer manner ≠ origin env := by
  unfold origin
  split <;> exact report_ne_of_head (by simp) peer manner

/-! ## Runs -/

theorem check_dialed (settings : ConnectionSettings) (network : Network) (upgrader : Upgrader) :
    (check settings network upgrader).dialed =
      some (settings, connect settings network upgrader) := by
  unfold check
  dsimp only
  split
  · rfl
  · split <;> rfl

theorem check_success {settings : ConnectionSettings} {network : Network} {upgrader : Upgrader}
    (success : (check settings network upgrader).failure = none) :
    ∃ link, (connect settings network upgrader).result = .ok link := by
  unfold check at success
  dsimp only at success
  split at success
  · cases success
  · rename_i link connected
    exact ⟨link, connected⟩

theorem report_plaintext_not_checked {settings : ConnectionSettings} {network : Network}
    {upgrader : Upgrader} (quiet : ∀ host socket, Log.Foreign (upgrader host socket).log)
    (encrypted : ∀ link, (connect settings network upgrader).result = .ok link → link.isEncrypted)
    (peer : String) : report peer "plaintext" ∉ (check settings network upgrader).log := by
  have attempted : report peer "plaintext" ∉ (connect settings network upgrader).log := fun member =>
    connect_foreign settings network quiet _ member rfl
  have before : report peer "plaintext" ∉
      describe settings ++ (connect settings network upgrader).log := by
    simp [attempted, report_not_described]
  unfold check
  dsimp only
  split
  · rename_i e failed
    have other : report peer "plaintext" ≠
        line .error ("Failed to connect to backend: " ++ e.message) := by
      simp [report, line]
    intro member
    rcases List.mem_append.mp member with found | found
    · exact before found
    · exact other (List.mem_singleton.mp found)
  · rename_i link connected
    split
    · exact before
    · rename_i other known
      rw [if_pos (encrypted link connected)]
      intro member
      rcases List.mem_append.mp member with found | found
      · exact before found
      · exact report_plaintext_ne peer other (List.mem_singleton.mp found)

theorem run_refused {env : Environment} {files : FileSystem} {ended : Run}
    (refused : plan env files = .error ended) (network : Network) (handshake : Handshake) :
    run env files network handshake = ended := by
  rw [run, refused]

theorem run_planned {env : Environment} {files : FileSystem} {settings : ConnectionSettings}
    (planned : plan env files = .ok settings) (network : Network) (handshake : Handshake) :
    run env files network handshake =
      { check settings network (settings.tls.upgrader files handshake) with
        log := origin env ::
          (check settings network (settings.tls.upgrader files handshake)).log } := by
  rw [run, planned]

/-! ## The guarantee -/

/-- A run that ended before anything was dialed, so no answer of a network or a peer changes it. -/
structure Idle (env : Environment) (files : FileSystem) (ended : Run) (e : ConfigError) : Prop where
  failure : ended.failure = some (.config e)
  dialed : ended.dialed = none
  unheard : ∀ network handshake, run env files network handshake = ended

/-- A run that dialed with settings that require SSL. Up to a handshake the socket has taken no more
than the front of the request, and only a handshake ends the run well. -/
structure Guarded (files : FileSystem) (network : Network) (handshake : Handshake)
    (settings : ConnectionSettings) (attempt : Attempt) (ended : Run) : Prop where
  written : ∀ left, attempt.socket = some left → ∃ socket trace,
    dial network settings.addr settings.connectTimeout = .socket socket ∧
      socket.stream.Run trace left.stream ∧ trace.flatMap Call.written <+: sslRequest
  handed : ∀ host socket, (host, socket) ∈ attempt.upgrades → attempt.socket = some socket
  success : ended.exitCode = 0 → ∃ left connector encrypted, attempt.socket = some left ∧
    settings.tls.connector files (Address.hostOf settings.addr) = .ok connector ∧
    handshake connector left = .ok encrypted ∧ attempt.result = .ok (.encrypted encrypted)
  reported : ∀ peer, report peer "plaintext" ∉ ended.log

theorem idle_of_refused {env : Environment} {files : FileSystem} {ended : Run} {e : ConfigError}
    (refused : plan env files = .error ended) (failure : ended.failure = some (.config e))
    (dialed : ended.dialed = none) (network : Network) (handshake : Handshake) :
    Idle env files (run env files network handshake) e := by
  rw [run_refused refused]
  exact ⟨failure, dialed, run_refused refused⟩

theorem guarded_of_planned {env : Environment} {files : FileSystem} {settings : ConnectionSettings}
    (planned : plan env files = .ok settings) (required : settings.requireSsl) (network : Network)
    (handshake : Handshake) :
    Guarded files network handshake settings
      (connect settings network (settings.tls.upgrader files handshake))
      (run env files network handshake) := by
  have attempted := connect_required required network (settings.tls.upgrader files handshake)
  rw [run_planned planned]
  constructor
  case written =>
    intro left reached
    rcases attempted with ⟨none, -, -⟩ | ⟨socket, trace, last, dialed, secured⟩
    · rw [none] at reached
      cases reached
    · rw [secured.socket] at reached
      cases reached
      exact ⟨socket, trace, dialed, secured.run, secured.written⟩
  case handed =>
    intro host used member
    rcases attempted with ⟨-, none, -⟩ | ⟨socket, trace, last, -, secured⟩
    · rw [none] at member
      cases member
    · rw [secured.socket]
      rcases secured.covered with accepted | declined | ⟨e, failed⟩
      · rw [(secured.accepted accepted).1] at member
        cases List.mem_singleton.mp member
        rfl
      · rw [(secured.declined declined).1] at member
        cases member
      · rw [(secured.failed e failed).1] at member
        cases member
  case success =>
    intro exit
    have success : (check settings network (settings.tls.upgrader files handshake)).failure = none := by
      simpa [Run.exitCode] using exit
    obtain ⟨link, connected⟩ := check_success success
    obtain ⟨left, connector, encrypted, reached, made, shaken, rfl⟩ :=
      connect_encrypted required connected
    exact ⟨left, connector, encrypted, reached, made, shaken, connected⟩
  case reported =>
    intro peer member
    rcases List.mem_cons.mp member with same | found
    · exact report_ne_origin env peer "plaintext" same
    · refine report_plaintext_not_checked (settings.tls.upgrader_foreign files handshake) ?_ peer found
      intro link connected
      obtain ⟨left, connector, encrypted, -, -, -, rfl⟩ := connect_encrypted required connected
      rfl

theorem run_guarded (env : Environment) (files : FileSystem) (network : Network)
    (handshake : Handshake) :
    match Config.load files env with
    | .error e => Idle env files (run env files network handshake) e
    | .ok config =>
      match config.validate with
      | .error e => Idle env files (run env files network handshake) e
      | .ok () => ∃ settings attempt,
          (run env files network handshake).dialed = some (settings, attempt) ∧
          attempt = connect settings network (settings.tls.upgrader files handshake) ∧
          config.Kept settings ∧
          (config.credentials.ssl.enable → Guarded files network handshake settings attempt
            (run env files network handshake)) := by
  cases loaded : Config.load files env with
  | error e =>
      have refused : plan env files =
          .error ⟨some (.config e), none,
            [line .error ("Failed to load config: " ++ e.message)], none⟩ := by
        rw [plan, loaded]
      exact idle_of_refused refused rfl rfl network handshake
  | ok config =>
      dsimp only
      cases checked : config.validate with
      | error e =>
          have refused : plan env files =
              .error ⟨some (.config e), none,
                [origin env, line .error ("Configuration error: " ++ e.message)], none⟩ := by
            simp only [plan, loaded, checked]
          exact idle_of_refused refused rfl rfl network handshake
      | ok accepted =>
          have planned : plan env files = .ok config.connectionSettings := by
            simp only [plan, loaded, checked]
          refine ⟨_, _, ?_, rfl, config.connectionSettings_kept, ?_⟩
          · rw [run_planned planned]
            exact check_dialed _ _ _
          · intro enabled
            exact guarded_of_planned planned enabled network handshake

example :
    let env : Environment :=
      ⟨[("PGRELAY_SSL_ENABLE", .ofString "1"), ("PGRELAY_SSL_INSECURE", .ofString "True")]⟩
    let network : Network := fun _ _ => .socket ⟨.ok "10.0.0.7:5432", { reads := [.data [0x53]] }⟩
    let ended := run env (fun _ => .error (.system 2)) network fun _ socket => .ok socket
    ended.exitCode = 0 ∧ ended.log.getLast? = some (report "10.0.0.7:5432" "TLS") := by
  decide +kernel

end Program

end BackendLink
