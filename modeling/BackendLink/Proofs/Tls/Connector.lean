import BackendLink.Tls.Connector

/-!
# What a connector is made of

There is a connector exactly when each of its parts can be used. Of those that cannot, the first in
the order authorities, identity, name is the one reported. Where any certificate is accepted only
the name is looked at, so more is left out than the check of the backend (`dropsOnlyTrust_iff`).
-/

namespace BackendLink

/-! ## Parts checked in a row -/

section
variable {Fault Value Next : Type} {first : Except Fault Value}
  {rest : Value → Except Fault Next}

theorem bind_ok_iff {next : Next} :
    (first >>= rest) = .ok next ↔ ∃ value, first = .ok value ∧ rest value = .ok next := by
  cases first <;> simp [bind, Except.bind]

theorem bind_error_iff {fault : Fault} : (first >>= rest) = .error fault ↔
    first = .error fault ∨ ∃ value, first = .ok value ∧ rest value = .error fault := by
  cases first <;> simp [bind, Except.bind]

end

namespace TlsSettings

section
variable {s : TlsSettings} {files : FileSystem} {host : String} {connector : TlsConnector}
  {fault : TlsFault}

theorem verifying_ok_iff : s.verifying files host = .ok connector ↔
    s.trust files = .ok connector.trust ∧ s.identity files = .ok connector.identity ∧
      s.nameFor host = .ok connector.serverName := by
  obtain ⟨trust, identity, serverName⟩ := connector
  simp only [verifying, bind_ok_iff, Except.ok.injEq, TlsConnector.mk.injEq]
  constructor
  · rintro ⟨_, loaded, _, shown, _, named, rfl, rfl, rfl⟩
    exact ⟨loaded, shown, named⟩
  · rintro ⟨loaded, shown, named⟩
    exact ⟨_, loaded, _, shown, _, named, rfl, rfl, rfl⟩

theorem verifying_error_iff : s.verifying files host = .error fault ↔
    s.trust files = .error fault ∨ ∃ trusted, s.trust files = .ok trusted ∧
      (s.identity files = .error fault ∨ ∃ shown, s.identity files = .ok shown ∧
        s.nameFor host = .error fault) := by
  simp [verifying, bind_error_iff]

theorem unverifying_ok_iff : s.unverifying host = .ok connector ↔
    connector.trust = .anything ∧ connector.identity = none ∧
      s.nameFor host = .ok connector.serverName := by
  obtain ⟨trust, identity, serverName⟩ := connector
  simp only [unverifying, bind_ok_iff, Except.ok.injEq, TlsConnector.mk.injEq]
  constructor
  · rintro ⟨_, named, rfl, rfl, rfl⟩
    exact ⟨rfl, rfl, named⟩
  · rintro ⟨rfl, rfl, named⟩
    exact ⟨_, named, rfl, rfl, rfl⟩

theorem unverifying_error_iff :
    s.unverifying host = .error fault ↔ s.nameFor host = .error fault := by
  simp [unverifying, bind_error_iff]

theorem nameFor_of_connector (made : s.connector files host = .ok connector) :
    s.nameFor host = .ok connector.serverName := by
  unfold TlsSettings.connector at made
  split at made
  · exact (unverifying_ok_iff.mp made).2.2
  · exact (verifying_ok_iff.mp made).2.2

theorem identity_none_iff :
    s.identity files = .ok none ↔ s.clientCert = none ∧ s.clientKey = none := by
  unfold identity
  cases s.clientCert with
  | none => cases s.clientKey <;> simp
  | some cert =>
      cases s.clientKey with
      | none => simp
      | some key =>
          refine iff_of_false (fun hidden => ?_) (by simp)
          obtain ⟨chain, -, item, -, paired⟩ := by simpa only [bind_ok_iff] using hidden
          split at paired <;> cases paired

end

/-! ## Accepting any certificate -/

/-- No connector that checks the backend can be made, because of the client's own certificate or
key. Beside one of the two alone, a file that cannot be opened or is malformed and a key file
without a key, this counts a key that does not belong to its certificate. -/
def RefusesIdentity (s : TlsSettings) (files : FileSystem) (host : String) (fault : TlsFault) :
    Prop :=
  s.verifying files host = .error fault ∧ s.identity files = .error fault ∧
    ∃ trusted, s.trust files = .ok trusted

/-- To accept any certificate changes nothing but which backends are trusted. -/
structure DropsOnlyTrust (s : TlsSettings) (files : FileSystem) (host : String) : Prop where
  refused : ∀ fault, s.RefusesIdentity files host fault →
    ∃ other, s.unverifying host = .error other
  shown : ∀ strict lax, s.verifying files host = .ok strict → s.unverifying host = .ok lax →
    lax.identity = strict.identity ∧ lax.serverName = strict.serverName

variable {s : TlsSettings} {files : FileSystem} {host : String}

theorem DropsOnlyTrust.of_no_identity (certUnset : s.clientCert = none)
    (keyUnset : s.clientKey = none) : s.DropsOnlyTrust files host where
  refused := by
    rintro fault ⟨-, failed, -⟩
    rw [identity_none_iff.mpr ⟨certUnset, keyUnset⟩] at failed
    cases failed
  shown := by
    intro strict lax checked unchecked
    obtain ⟨-, shown, named⟩ := verifying_ok_iff.mp checked
    obtain ⟨-, hidden, same⟩ := unverifying_ok_iff.mp unchecked
    rw [identity_none_iff.mpr ⟨certUnset, keyUnset⟩] at shown
    rw [named] at same
    exact ⟨hidden.trans (Except.ok.inj shown), (Except.ok.inj same).symm⟩

theorem DropsOnlyTrust.of_untrusted {fault : TlsFault} (unloaded : s.trust files = .error fault) :
    s.DropsOnlyTrust files host where
  refused := by
    rintro other ⟨-, -, trusted, loaded⟩
    rw [unloaded] at loaded
    cases loaded
  shown := by
    intro strict lax checked
    rw [verifying_error_iff.mpr (.inl unloaded)] at checked
    cases checked

theorem DropsOnlyTrust.of_unnamed {fault : TlsFault} (unnamed : s.nameFor host = .error fault) :
    s.DropsOnlyTrust files host where
  refused := fun _ _ => ⟨fault, unverifying_error_iff.mpr unnamed⟩
  shown := by
    intro strict lax _ unchecked
    rw [unverifying_error_iff.mpr unnamed] at unchecked
    cases unchecked

/-- Where a name and the authorities can be used, a certificate or key that is set is either not
looked at or not shown. -/
theorem DropsOnlyTrust.identity_unset {trusted : Trust} {name : ServerName}
    (drops : s.DropsOnlyTrust files host) (loaded : s.trust files = .ok trusted)
    (named : s.nameFor host = .ok name) : s.clientCert = none ∧ s.clientKey = none := by
  have unchecked : s.unverifying host = .ok ⟨.anything, none, name⟩ :=
    unverifying_ok_iff.mpr ⟨rfl, rfl, named⟩
  suffices hidden : s.identity files = .ok none from identity_none_iff.mp hidden
  cases own : s.identity files with
  | error fault =>
      have failed : s.verifying files host = .error fault :=
        verifying_error_iff.mpr (.inr ⟨trusted, loaded, .inl own⟩)
      obtain ⟨other, refused⟩ := drops.refused fault ⟨failed, own, trusted, loaded⟩
      rw [unchecked] at refused
      cases refused
  | ok shown =>
      have checked : s.verifying files host = .ok ⟨trusted, shown, name⟩ :=
        verifying_ok_iff.mpr ⟨loaded, own, named⟩
      exact congrArg Except.ok (drops.shown _ _ checked unchecked).1.symm

theorem dropsOnlyTrust_iff (s : TlsSettings) (files : FileSystem) (host : String) :
    (s.DropsOnlyTrust files host ↔
      s.clientCert = none ∧ s.clientKey = none ∨
      (∃ fault, s.trust files = .error fault) ∨ ∃ fault, s.nameFor host = .error fault) ∧
    ∀ strict lax, s.verifying files host = .ok strict → s.unverifying host = .ok lax →
      lax.serverName = strict.serverName ∧ lax.identity = none := by
  refine ⟨⟨fun drops => ?_, ?_⟩, ?_⟩
  · cases loaded : s.trust files with
    | error fault => exact .inr (.inl ⟨fault, rfl⟩)
    | ok trusted =>
        cases named : s.nameFor host with
        | error fault => exact .inr (.inr ⟨fault, rfl⟩)
        | ok name => exact .inl (drops.identity_unset loaded named)
  · rintro (⟨certUnset, keyUnset⟩ | ⟨fault, unloaded⟩ | ⟨fault, unnamed⟩)
    · exact .of_no_identity certUnset keyUnset
    · exact .of_untrusted unloaded
    · exact .of_unnamed unnamed
  · intro strict lax checked unchecked
    obtain ⟨-, hidden, same⟩ := unverifying_ok_iff.mp unchecked
    rw [(verifying_ok_iff.mp checked).2.2] at same
    exact ⟨(Except.ok.inj same).symm, hidden⟩

/-- A certificate without its key keeps a client off every backend that it checks, and off none that
it does not. -/
theorem not_dropsOnlyTrust_half :
    let s : TlsSettings := { clientCert := some (.ofString "me.pem"), insecure := true }
    let files : FileSystem := fun _ => .error (.system 2)
    s.verifying files "localhost" = .error .halfConfigured ∧
      s.connector files "localhost" = .ok ⟨.anything, none, .host "localhost"⟩ ∧
      ¬ s.DropsOnlyTrust files "localhost" := by
  intro s files
  have read : ServerName.ofString? "localhost" = some (.host "localhost") := by decide
  have named : s.nameFor "localhost" = .ok (.host "localhost") := by
    rw [nameFor, show s.serverName.getD "localhost" = "localhost" from rfl, read]
  have unchecked : s.connector files "localhost" = .ok ⟨.anything, none, .host "localhost"⟩ :=
    unverifying_ok_iff.mpr ⟨rfl, rfl, named⟩
  have failed : s.verifying files "localhost" = .error .halfConfigured := rfl
  refine ⟨failed, unchecked, fun drops => ?_⟩
  obtain ⟨other, refused⟩ := drops.refused .halfConfigured ⟨failed, rfl, .publicAuthorities, rfl⟩
  cases unchecked.symm.trans refused

end TlsSettings
end BackendLink
