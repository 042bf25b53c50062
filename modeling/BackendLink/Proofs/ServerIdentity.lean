import BackendLink.Proofs.Address
import BackendLink.Proofs.Connection
import BackendLink.Proofs.Tls.Connector

/-!
# The name that a certificate is checked against

A dial cuts an address at its last colon, whatever stands in front of it. The host that goes to the
upgrader is cut off only where that colon is the first one too, so the two are the same exactly for
hosts without colons (`checksDialed_iff`).
-/

namespace BackendLink
open Wire Transport

namespace Address

theorem lookedUp_of_bare {host : List Char} (bare : host.head? ≠ some '[') (port : List Char) :
    lookedUp host port = host := by
  unfold lookedUp
  split
  · exact absurd rfl bare
  · rfl

theorem target_of_port {host port : String} {n : Nat} (bare : host.toList.head? ≠ some '[')
    (within : n ≤ 65535) (written : Text.Writes port.toList n) :
    target (host ++ ":" ++ port) = .ok ⟨host, n⟩ := by
  have read : port? port.toList = some n := Text.unsigned?_eq_some_iff.mpr ⟨within, written⟩
  rw [target, IsPort.cut ⟨n, within, written⟩]
  simp only [read, lookedUp_of_bare bare, String.ofList_toList]

theorem hostOf_of_port {host port : String} (bare : host.toList.head? ≠ some '[')
    (read : IsPort port) : hostOf (host ++ ":" ++ port) =
      if ':' ∈ host.toList then host ++ ":" ++ port else host := by
  have unclosed : ¬ Bracketed (host ++ ":" ++ port) := by
    rintro ⟨rest, written, -⟩
    have first := congrArg (fun text : String => text.toList.head?) written
    cases chars : host.toList with
    | nil => simp [chars] at first
    | cons c others => exact bare (by simpa [chars] using first)
  split
  · rename_i colon
    obtain ⟨front, middle, parts⟩ := List.append_of_mem colon
    exact hostOf_portless unclosed (.colons _ _ port (by rw [← eq_of_colon parts]))
  · rename_i only
    exact hostOf_ported unclosed ⟨port, rfl, only, read⟩

end Address

namespace ConnectionSettings

/-- Each upgrade is for the host that the dial resolves, and a connector for it checks that name
unless another one is set. -/
structure ChecksDialed (settings : ConnectionSettings) (target : Address.Target) : Prop where
  dialed : ∀ network, dial network settings.addr settings.connectTimeout =
    network target settings.connectTimeout
  handed : ∀ network upgrader, ∀ use ∈ (connect settings network upgrader).upgrades,
    use.1 = target.host
  checked : settings.tls.serverName = none → ∀ files connector,
    settings.tls.connector files settings.host = .ok connector →
      ServerName.ofString? target.host = some connector.serverName

variable {settings : ConnectionSettings}

theorem upgrades_host (settings : ConnectionSettings) (network : Network) (upgrader : Upgrader) :
    ∀ use ∈ (connect settings network upgrader).upgrades, use.1 = settings.host := by
  unfold connect
  cases dial network settings.addr settings.connectTimeout with
  | failed e => simp [Attempt.unconnected]
  | expired limited => simp [Attempt.unconnected]
  | socket socket =>
      dsimp only
      by_cases required : settings.requireSsl
      · obtain ⟨trace, left, secured⟩ := secure_secured required upgrader socket
        rcases secured.covered with accepted | declined | ⟨e, broken⟩
        · simp [(secured.accepted accepted).1, host]
        · simp [(secured.declined declined).1]
        · simp [(secured.failed e broken).1]
      · simp [secure, required]

theorem ChecksDialed.host_eq {target : Address.Target} (required : settings.requireSsl)
    (checks : settings.ChecksDialed target) : settings.host = target.host := by
  let upgrader : Upgrader := fun _ socket => ⟨.ok (.encrypted socket), []⟩
  obtain ⟨socket, handed, -⟩ := connect_welcoming required (checks.dialed .welcoming) upgrader
  exact checks.handed .welcoming upgrader _ (handed ▸ List.mem_singleton_self _)

theorem checksDialed_of_host_eq {target : Address.Target}
    (dialed : Address.target settings.addr = .ok target) (same : settings.host = target.host) :
    settings.ChecksDialed target where
  dialed := by
    intro network
    simp only [dial, dialed]
  handed := by
    intro network upgrader use member
    rw [upgrades_host settings network upgrader use member, same]
  checked := by
    intro unset files connector made
    have named := TlsSettings.nameFor_of_connector made
    rw [TlsSettings.nameFor, unset, Option.getD_none, same] at named
    split at named
    · rename_i name read
      rw [read, Except.ok.inj named]
    · cases named

theorem checksDialed_iff (host : String) (port : UInt16) (required : settings.requireSsl)
    (bare : host.toList.head? ≠ some '[')
    (written : settings.addr = host ++ ":" ++ toString port.toNat) :
    (settings.ChecksDialed ⟨host, port.toNat⟩ ↔ ':' ∉ host.toList) ∧
      Address.target settings.addr = .ok ⟨host, port.toNat⟩ ∧
      settings.host = if ':' ∈ host.toList then settings.addr else host := by
  have dialed : Address.target settings.addr = .ok ⟨host, port.toNat⟩ := by
    rw [written]
    exact Address.target_of_port bare (Nat.le_of_lt_succ port.toNat_lt) ⟨[], 0, .inl rfl, by simp⟩
  have named : settings.host = if ':' ∈ host.toList then settings.addr else host := by
    rw [ConnectionSettings.host, written]
    exact Address.hostOf_of_port bare (Address.isPort_toString port)
  refine ⟨⟨fun checks colon => ?_, fun only => ?_⟩, dialed, named⟩
  · have same : settings.addr = host := by
      rw [if_pos colon] at named
      exact named.symm.trans (checks.host_eq required)
    have length := congrArg (fun text : String => text.toList.length) (written ▸ same)
    simp at length
  · exact checksDialed_of_host_eq dialed (by rw [named, if_neg only])

theorem checksDialed_greatest :
    let settings : ConnectionSettings := { addr := "größe.example:65535", requireSsl := true }
    settings.requireSsl ∧ "größe.example".toList.head? ≠ some '[' ∧
      settings.addr = "größe.example" ++ ":" ++ toString (65535 : UInt16).toNat ∧
      settings.ChecksDialed ⟨"größe.example", 65535⟩ := by
  intro settings
  have bare : "größe.example".toList.head? ≠ some '[' := by decide
  have written : settings.addr = "größe.example" ++ ":" ++ toString (65535 : UInt16).toNat := by
    decide
  exact ⟨rfl, bare, written,
    (checksDialed_iff "größe.example" 65535 rfl bare written).1.mpr (by decide)⟩

/-- With the port behind it, a long address reads as another one. -/
theorem not_checksDialed_long :
    let settings : ConnectionSettings := { addr := "::1:5432", requireSsl := true }
    Address.target settings.addr = .ok ⟨"::1", 5432⟩ ∧
      ServerName.ofString? "::1" = some (.address (.long [0, 0, 0, 0, 0, 0, 0, 1])) ∧
      settings.host = "::1:5432" ∧
      ServerName.ofString? settings.host =
        some (.address (.long [0, 0, 0, 0, 0, 0, 1, 0x5432])) ∧
      ¬ settings.ChecksDialed ⟨"::1", 5432⟩ := by
  intro settings
  have named : settings.host = "::1:5432" := by decide
  refine ⟨by decide, by decide, named, by rw [named]; decide, fun checks => ?_⟩
  have same : "::1:5432" = "::1" := named.symm.trans (checks.host_eq rfl)
  exact absurd same (by decide)

end ConnectionSettings
end BackendLink
