import OpticsHub.Agent.AgentGateway
import OpticsHub.Releases.ReleaseCatalog

/-!
# Releases whose Agents can connect

The catalogue and the gateway each keep bounds of their own for the protocols that the Hub
speaks. The catalogue still takes the releases from before protocols were negotiated, whose
protocol is zero; the gateway takes no such Agent, as zero counts as no protocol at all.
-/
namespace OpticsHub

open Script Async Program

namespace ReleaseCatalogService

open AgentGateway

/-- The number of a protocol as an Agent declares it. -/
def declaredProtocol (protocol : ℤ) : Value := .number (.finite (Decimal.ofInt protocol))

/-- A release that is not blocked has a protocol within the bounds of the catalogue. -/
theorem protocol_of_unblocked {release : AgentRelease} (unblocked : blockedReason release = none) :
    supportedProtocolMin ≤ release.releaseProtocol ∧
      release.releaseProtocol ≤ supportedProtocolCurrent := by
  simp only [blockedReason] at unblocked
  split at unblocked
  · cases unblocked
  · cases unblocked
  · split at unblocked
    · cases unblocked
    · split at unblocked
      · cases unblocked
      · split at unblocked
        · cases unblocked
        · omega

/-- Whoever is told that a version can be installed is told by a release that is not blocked. -/
theorem unblocked_of_assertInstallable {catalogue : Hub → Text → Option AgentRelease}
    {version : Text} {hub after : Hub} {release : AgentRelease}
    (installable : (assertInstallable catalogue version).run hub = (.ok release, after)) :
    catalogue hub version = some release ∧ blockedReason release = none := by
  have held : wp (assertInstallable catalogue version)
      (fun found _ => found = release →
        catalogue hub version = some release ∧ blockedReason release = none)
      (fun _ _ => True) hub := by
    simp only [assertInstallable, wp_bind, wp_look, wp_orThrow]
    refine ⟨fun found here => ?_, fun _ => trivial⟩
    cases reason : blockedReason found with
    | some reason => trivial
    | none =>
      rintro rfl
      exact ⟨here, reason⟩
  rw [wp_iff_run, installable] at held
  exact held rfl

/-- Of the protocols within the bounds of the catalogue, the gateway takes all but zero. -/
theorem protocolGate_declared {protocol : ℤ} (least : supportedProtocolMin ≤ protocol)
    (most : protocol ≤ supportedProtocolCurrent) :
    protocolGate (declaredProtocol protocol) = .ok none ↔ protocol ≠ 0 := by
  have cases : protocol = 0 ∨ protocol = 1 := by
    simp only [supportedProtocolMin, supportedProtocolCurrent] at least most
    omega
  rcases cases with rfl | rfl
  · decide +kernel
  · decide +kernel

/-- An Agent of a release that can be installed passes the gate of the gateway exactly if the
protocol of the release is not zero, and is disconnected otherwise. -/
theorem installable_connects_iff {catalogue : Hub → Text → Option AgentRelease} {version : Text}
    {hub after : Hub} {release : AgentRelease}
    (installable : (assertInstallable catalogue version).run hub = (.ok release, after))
    {members : Members Value}
    (declares : Members.own members "protocolVersion" =
      some (declaredProtocol release.releaseProtocol)) :
    (protocolGate ((Members.own members "protocolVersion").getD .undefined) = .ok none ↔
        release.releaseProtocol ≠ 0) ∧
      (release.releaseProtocol = 0 →
        ((Members.own members "agentUuid").getD .undefined).toText.isSome = true →
        ∀ platform client hub, (handleValidation platform client (.object members)).run hub =
          (.ok (), refuse client (.deprecatedProtocolVersion minimumProtocolVersion
            maximumProtocolVersion) hub)) := by
  obtain ⟨least, most⟩ := protocol_of_unblocked (unblocked_of_assertInstallable installable).2
  rw [declares]
  refine ⟨protocolGate_declared least most, fun zero readable platform client hub => ?_⟩
  obtain ⟨text, read⟩ := Option.isSome_iff_exists.mp readable
  have refused : protocolGate (declaredProtocol 0) = .ok (some (.deprecatedProtocolVersion
      minimumProtocolVersion maximumProtocolVersion)) := by decide +kernel
  rw [zero] at declares
  rw [handleValidation]
  simp only [packetMembers, orThrow, pure_bind', declares, Option.getD_some, refused, fromExcept,
    read]
  rfl

/-- A release with a protocol, for every version. -/
def releasedWith (protocol : ℤ) (_ : Hub) (version : Text) : Option AgentRelease :=
  some { releaseVersion := version, releaseProtocol := protocol }

/-- The packet of a new Agent with a protocol. -/
def registrationWith (protocol : ℤ) : Members Value :=
  [("agentUuid", .null), ("agentVersion", .string "0.5.0"),
    ("protocolVersion", declaredProtocol protocol)]

theorem installable_connects_first :
    protocolGate ((Members.own (registrationWith 1) "protocolVersion").getD .undefined) =
      .ok none :=
  (@installable_connects_iff (releasedWith 1) "0.5.0" { now := 0 } _ _ rfl (registrationWith 1)
    rfl).1.mpr (by decide)

/-- A release from before protocols were negotiated can be installed, and its Agent is sent
away. -/
theorem not_installable_connects_unnegotiated :
    ¬ ∀ catalogue version hub release after members,
      (assertInstallable catalogue version).run hub = (.ok release, after) →
      Members.own members "protocolVersion" = some (declaredProtocol release.releaseProtocol) →
      protocolGate ((Members.own members "protocolVersion").getD .undefined) = .ok none := by
  intro connects
  have passes := connects (releasedWith 0) "0.5.0" { now := 0 } _ _ (registrationWith 0) rfl rfl
  revert passes
  decide +kernel

end ReleaseCatalogService

end OpticsHub
