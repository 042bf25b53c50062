import BackendLink.Proofs.Program
import BackendLink.Proofs.Tls.Faults
import Mathlib.Data.List.Induction

/-!
# Client certificates come with their keys

A client certificate without its key, or a key without its certificate, is refused with the
configuration that asks for it, and the builder of TLS settings cannot make one. So the fault that a
connector has for it stays out of reach of both ways to settings (`clientIdentity_paired`).
-/

namespace BackendLink

/-! ## Settings from a builder -/

namespace TlsSettings

/-- One call of the builder. -/
inductive Change
  | caCert (path : OsText)
  | clientCert (cert key : OsText)
  | insecure
  | serverName (name : String)

namespace Change

def apply (s : TlsSettings) : Change → TlsSettings
  | caCert path => s.withCaCert path
  | clientCert cert key => s.withClientCert cert key
  | insecure => s.withInsecure
  | serverName name => s.withServerName name

def caCert? : Change → Option OsText
  | caCert path => some path
  | _ => none

def clientCert? : Change → Option OsText
  | clientCert cert _ => some cert
  | _ => none

def clientKey? : Change → Option OsText
  | clientCert _ key => some key
  | _ => none

def serverName? : Change → Option String
  | serverName name => some name
  | _ => none

end Change

/-- The settings after a row of builder calls on new ones. -/
def built (changes : List Change) : TlsSettings := changes.foldl Change.apply {}

/-- A value is that of the last call which sets one. -/
def IsLast {Value : Type} (sets : Change → Option Value) (changes : List Change) :
    Option Value → Prop
  | none => ∀ change ∈ changes, sets change = none
  | some value => ∃ before change after, changes = before ++ change :: after ∧
      sets change = some value ∧ ∀ later ∈ after, sets later = none

theorem built_concat (changes : List Change) (change : Change) :
    built (changes ++ [change]) = change.apply (built changes) := by
  simp [built]

theorem isLast_built {Value : Type} {sets : Change → Option Value}
    {field : TlsSettings → Option Value} (initial : field {} = none)
    (kept : ∀ (change : Change) (s : TlsSettings),
      field (change.apply s) = (sets change).or (field s))
    (changes : List Change) : IsLast sets changes (field (built changes)) := by
  induction changes using List.reverseRecOn with
  | nil => simp [built, initial, IsLast]
  | append_singleton changes change ih =>
      rw [built_concat, kept]
      cases given : sets change with
      | some value => exact ⟨changes, change, [], rfl, given, by simp⟩
      | none =>
          rw [Option.none_or]
          cases last : field (built changes) with
          | none => rw [last] at ih; simpa [IsLast, given, or_imp, forall_and] using ih
          | some value =>
              rw [last] at ih
              obtain ⟨before, setting, after, rfl, same, quiet⟩ := ih
              refine ⟨before, setting, after ++ [change], by simp, same, ?_⟩
              simpa [given, or_imp, forall_and] using quiet

theorem built_insecure (changes : List Change) :
    (built changes).insecure = true ↔ Change.insecure ∈ changes := by
  induction changes using List.reverseRecOn with
  | nil => simp [built]
  | append_singleton changes change ih =>
      rw [built_concat, List.mem_append, ← ih]
      cases change <;> simp [Change.apply, withCaCert, withClientCert, withInsecure, withServerName]

/-- The certificate and the key are both set, or neither is. -/
def Paired (s : TlsSettings) : Prop := s.clientCert.isSome = s.clientKey.isSome

theorem built_paired (changes : List Change) : (built changes).Paired := by
  induction changes using List.reverseRecOn with
  | nil => rfl
  | append_singleton changes change ih =>
      rw [built_concat]
      cases change with
      | clientCert cert key => rfl
      | caCert path => exact ih
      | insecure => exact ih
      | serverName name => exact ih

/-! ## Connectors -/

variable {s : TlsSettings} {files : FileSystem} {host : String} {fault : TlsFault}

/-- None but the check of the two paths has this fault. -/
theorem fails_halfConfigured {check : Check} : s.Fails files host check .halfConfigured ↔
    check = .clientPaths ∧ ¬ s.Paired := by
  constructor
  · intro fails
    cases fails with
    | half half => exact ⟨rfl, half⟩
    | unread _ failed => cases failed
    | cert _ _ failed => cases failed
    | key _ _ failed => cases failed
  · rintro ⟨rfl, half⟩
    exact .half half

theorem verifying_of_paired (paired : s.Paired) (failed : s.verifying files host = .error fault) :
    fault ≠ .halfConfigured := by
  rintro rfl
  obtain ⟨check, -, fails⟩ := (verifying_firstFails.mp failed).exists_fails
  exact (fails_halfConfigured.mp fails).2 paired

theorem verifying_halfConfigured {trusted : Trust} (loaded : s.trust files = .ok trusted)
    (host : String) : s.verifying files host = .error .halfConfigured ↔ ¬ s.Paired := by
  constructor
  · intro failed paired
    exact verifying_of_paired paired failed rfl
  · intro half
    have first : s.FirstFails files host Check.client .halfConfigured := .here (.half half)
    exact verifying_error_iff.mpr (.inr ⟨trusted, loaded, .inl (firstFails_client.mp first)⟩)

theorem connector_of_paired (paired : s.insecure = false → s.Paired)
    (failed : s.connector files host = .error fault) : fault ≠ .halfConfigured := by
  unfold connector at failed
  split at failed
  · rintro rfl
    have unnamed : s.Fails files host .serverName .halfConfigured :=
      fails_serverName.mpr (unverifying_error_iff.mp failed)
    cases (fails_halfConfigured.mp unnamed).1
  · rename_i secure
    exact verifying_of_paired (paired (Bool.not_eq_true _ ▸ secure)) failed

end TlsSettings

theorem append_ne_of_take {first rest other : String} {n : Nat} (long : n ≤ first.toList.length)
    (differs : first.toList.take n ≠ other.toList.take n) : first ++ rest ≠ other := by
  rintro rfl
  rw [String.toList_append, List.take_append_of_le_length long] at differs
  exact differs rfl

/-- The text of the fault is that of no other one: the second letter tells. -/
theorem TlsFault.message_ne {fault : TlsFault} (other : fault ≠ .halfConfigured) :
    fault.message ≠ "client certificate and key must be set together" := by
  cases fault with
  | halfConfigured => contradiction
  | caRejected =>
      show "invalid CA cert" ≠ _
      simp
  | pairRejected =>
      show "invalid client cert/key" ≠ _
      simp
  | certUnopened path error =>
      show "cannot open cert file " ++ path.quoted ++ ": " ++ error.text ≠ _
      rw [String.append_assoc, String.append_assoc]
      exact append_ne_of_take (n := 2) (by simp) (by simp)
  | certMalformed path =>
      show "invalid cert file " ++ path.quoted ≠ _
      exact append_ne_of_take (n := 2) (by simp) (by simp)
  | keyUnopened path error =>
      show "cannot open key file " ++ path.quoted ++ ": " ++ error.text ≠ _
      rw [String.append_assoc, String.append_assoc]
      exact append_ne_of_take (n := 2) (by simp) (by simp)
  | keyMalformed path =>
      show "invalid key file " ++ path.quoted ≠ _
      exact append_ne_of_take (n := 2) (by simp) (by simp)
  | keyAbsent path =>
      show "no private key found in " ++ path.quoted ≠ _
      exact append_ne_of_take (n := 2) (by simp) (by simp)
  | nameInvalid name =>
      show "invalid server name: " ++ name ≠ _
      exact append_ne_of_take (n := 2) (by simp) (by simp)

/-! ## Settings from a configuration -/

theorem SslConfig.validate_ok {c : SslConfig} (enabled : c.enable = true) :
    c.validate = .ok () ↔ c.tlsSettings.Paired := by
  unfold validate TlsSettings.Paired tlsSettings
  rw [enabled]
  cases c.clientCertPath <;> cases c.clientKeyPath <;> simp

theorem Config.validate_of_addr {config : Config}
    (given : ¬ Text.isBlankText config.backend.addr.toList) :
    config.validate = config.credentials.ssl.validate := by
  simp [validate, given]

theorem Config.ssl_of_validate {config : Config} (accepted : config.validate = .ok ()) :
    config.credentials.ssl.validate = .ok () := by
  unfold validate at accepted
  split at accepted
  · cases accepted
  · exact accepted

theorem TlsSettings.upgrader_tlsSettings {tls : TlsSettings} {files : FileSystem}
    {handshake : Handshake} {host detail : String} {socket : Socket}
    (failed : (tls.upgrader files handshake host socket).result = .error (.tlsSettings detail)) :
    ∃ fault, tls.connector files host = .error fault ∧ detail = fault.message := by
  unfold upgrader at failed
  dsimp only at failed
  split at failed
  · rename_i fault made
    simp only [TlsFault.error, Except.error.injEq, ConnectError.tlsSettings.injEq] at failed
    exact ⟨fault, made, failed.symm⟩
  · split at failed <;> cases failed

/-- An attempt that ends with a fault of the TLS settings has it from the connector. -/
theorem connect_tlsSettings {settings : ConnectionSettings} {network : Network}
    {files : FileSystem} {handshake : Handshake} {detail : String}
    (failed : (connect settings network (settings.tls.upgrader files handshake)).result =
      .error (.tlsSettings detail)) :
    settings.requireSsl = true ∧ ∃ fault : TlsFault,
      settings.tls.connector files (Address.hostOf settings.addr) = .error fault ∧
        detail = fault.message := by
  unfold connect at failed
  cases dialed : dial network settings.addr settings.connectTimeout with
  | failed e => simp [dialed, Attempt.unconnected] at failed
  | expired limited => simp [dialed, Attempt.unconnected] at failed
  | socket socket =>
      simp only [dialed] at failed
      by_cases required : settings.requireSsl
      · obtain ⟨trace, left, secured⟩ :=
          secure_secured required (settings.tls.upgrader files handshake) socket
        rcases secured.covered with accepted | declined | ⟨e, broken⟩
        · rw [(secured.accepted accepted).2] at failed
          exact ⟨required, TlsSettings.upgrader_tlsSettings failed⟩
        · rw [(secured.declined declined).2] at failed
          cases failed
        · rw [(secured.failed e broken).2] at failed
          cases failed
      · simp [ConnectionSettings.secure, required] at failed

theorem Config.connect_of_validate {config : Config} (accepted : config.validate = .ok ())
    (network : Network) (files : FileSystem) (handshake : Handshake) :
    let settings := config.connectionSettings
    (connect settings network (settings.tls.upgrader files handshake)).result ≠
      .error (.tlsSettings "client certificate and key must be set together") := by
  intro settings failed
  obtain ⟨required, fault, made, text⟩ := connect_tlsSettings failed
  have paired := (SslConfig.validate_ok required).mp (ssl_of_validate accepted)
  exact TlsFault.message_ne (TlsSettings.connector_of_paired (fun _ => paired) made) text.symm

theorem Config.validate_error_iff {config : Config} (enabled : config.credentials.ssl.enable = true)
    (given : ¬ Text.isBlankText config.backend.addr.toList) :
    (∃ e, config.validate = .error e) ↔ ¬ config.connectionSettings.tls.Paired := by
  rw [config.validate_of_addr given]
  refine Iff.trans ?_ (not_congr (SslConfig.validate_ok enabled))
  cases config.credentials.ssl.validate <;> simp

/-! ## Both ways to settings -/

open TlsSettings

/-- One of the two is set, and the other is not. -/
def SslConfig.Halved (c : SslConfig) : Prop := c.clientCertPath.isSome ≠ c.clientKeyPath.isSome

theorem clientIdentity_paired :
    (∀ config : Config, config.validate = .ok () → ∀ network files handshake,
      (connect config.connectionSettings network
        (config.connectionSettings.tls.upgrader files handshake)).result ≠
          .error (.tlsSettings "client certificate and key must be set together")) ∧
    (∀ changes : List Change,
      ((built changes).clientCert.isSome ↔ (built changes).clientKey.isSome) ∧
      IsLast Change.caCert? changes (built changes).caCert ∧
      IsLast Change.clientCert? changes (built changes).clientCert ∧
      IsLast Change.clientKey? changes (built changes).clientKey ∧
      IsLast Change.serverName? changes (built changes).serverName ∧
      ((built changes).insecure = true ↔ .insecure ∈ changes) ∧
      ∀ files host fault, (built changes).verifying files host = .error fault →
        fault.message ≠ "client certificate and key must be set together") ∧
    ∀ config : Config, config.credentials.ssl.enable = true →
      config.credentials.ssl.insecure = false → ¬ Text.isBlankText config.backend.addr.toList →
      ((∃ e, config.validate = .error e) ↔ config.credentials.ssl.Halved) ∧
      ∀ files trusted, config.connectionSettings.tls.trust files = .ok trusted → ∀ host,
        config.connectionSettings.tls.connector files host =
          config.connectionSettings.tls.verifying files host ∧
        (config.connectionSettings.tls.verifying files host = .error .halfConfigured ↔
          config.credentials.ssl.Halved) := by
  refine ⟨fun config accepted => config.connect_of_validate accepted, fun changes => ?_,
    fun config enabled secure given => ⟨config.validate_error_iff enabled given, ?_⟩⟩
  · have paired := built_paired changes
    refine ⟨by rw [paired], ?_, ?_, ?_, ?_, built_insecure changes, ?_⟩
    · exact isLast_built rfl (fun change s => by cases change <;> rfl) changes
    · exact isLast_built rfl (fun change s => by cases change <;> rfl) changes
    · exact isLast_built rfl (fun change s => by cases change <;> rfl) changes
    · exact isLast_built rfl (fun change s => by cases change <;> rfl) changes
    · intro files host fault failed
      exact TlsFault.message_ne (verifying_of_paired paired failed)
  · intro files trusted loaded host
    exact ⟨if_neg (by simp [Config.connectionSettings, SslConfig.tlsSettings, secure]),
      verifying_halfConfigured loaded host⟩

/-- A certificate without its key is refused with the configuration and, behind a bundle of
authorities that loads, by the connector. With a file for its key an attempt gets past that, and
fails only because the file has no key in it. -/
theorem clientIdentity_paired_mutual :
    let ssl : SslConfig := {
      enable := true
      caCertPath := some (.ofString "ca.pem")
      clientCertPath := some (.ofString "me.pem") }
    let paired : SslConfig := { ssl with clientKeyPath := some (.ofString "me.key") }
    let files : FileSystem := fun _ => .ok (.file [])
    let config : Config := { credentials := { ssl } }
    let whole : Config := { credentials := { ssl := paired } }
    let attempt := connect whole.connectionSettings .welcoming
      (whole.connectionSettings.tls.upgrader files fun _ socket => .ok socket)
    (∃ e, config.validate = .error e) ∧
      config.connectionSettings.tls.verifying files "db" = .error .halfConfigured ∧
      whole.validate = .ok () ∧
      attempt.result = .error (TlsFault.keyAbsent (.ofString "me.key")).error ∧
      attempt.result ≠
        .error (.tlsSettings "client certificate and key must be set together") := by
  intro ssl paired files config whole attempt
  have given : ¬ Text.isBlankText config.backend.addr.toList := by decide
  have halved : config.credentials.ssl.Halved := by simp [SslConfig.Halved, config, ssl]
  obtain ⟨refused, faulty⟩ := clientIdentity_paired.2.2 config rfl rfl given
  have empty : Pem.bundle [] = ⟨[], false⟩ := by decide
  have nothing (path : OsText) : certificates files path = .ok [] := by
    simp [certificates, Opened.bundle, empty, Pem.Bundle.certificates, files]
  have keyless (path : OsText) : privateKey files path = .error (.keyAbsent path) := by
    simp [privateKey, Opened.bundle, empty, Pem.Bundle.privateKey, files]
  have loaded (s : TlsSettings) (set : s.caCert = some (.ofString "ca.pem")) :
      s.trust files = .ok (.authorities []) := by
    rw [trust_of_set set, nothing]
    rfl
  have accepted : whole.validate = .ok () := by decide
  have dialed : dial .welcoming whole.connectionSettings.addr
      whole.connectionSettings.connectTimeout =
        Network.welcoming ⟨"127.0.0.1", 5432⟩ whole.connectionSettings.connectTimeout := by
    have target : Address.target whole.connectionSettings.addr = .ok ⟨"127.0.0.1", 5432⟩ := by
      decide
    rw [dial, target]
  have shown : whole.connectionSettings.tls.identity files =
      .error (.keyAbsent (.ofString "me.key")) := by
    rw [identity_of_set rfl rfl, nothing, keyless]
    rfl
  have made : whole.connectionSettings.tls.connector files whole.connectionSettings.host =
      .error (.keyAbsent (.ofString "me.key")) :=
    verifying_error_iff.mpr (.inr ⟨_, loaded _ rfl, .inl shown⟩)
  obtain ⟨socket, -, reached⟩ := connect_welcoming rfl dialed
    (whole.connectionSettings.tls.upgrader files fun _ socket => .ok socket)
  have ended : attempt.result = .error (TlsFault.keyAbsent (.ofString "me.key")).error := by
    rw [reached, upgrader, made]
  refine ⟨refused.mpr halved, ?_, accepted, ended, ?_⟩
  · exact (faulty files _ (loaded _ rfl) "db").2.mpr halved
  · exact clientIdentity_paired.1 whole accepted .welcoming files fun _ socket => .ok socket

end BackendLink
