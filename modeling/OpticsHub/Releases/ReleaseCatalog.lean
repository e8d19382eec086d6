import OpticsHub.Hub.State

/-!
# The catalogue of Agent releases

The catalogue holds what is known of each release. A release is not to be installed when
an operator or its own metadata block it, when it has been withdrawn, or when its protocol
is not one of those that the Hub speaks. The reason is the message that a user sees.
-/
namespace OpticsHub

open Script Async Program

namespace ReleaseCatalogService

/-- A text as part of a message, unit by unit. -/
def shown (text : Text) : String := String.ofList (text.map fun unit => Char.ofNat unit.toNat)

/-- A row of `agent_releases`, as far as it decides about an installation. -/
structure AgentRelease where
  releaseVersion : Text
  releaseProtocol : ℤ
  releaseYankedAt : Option ℤ := none
  releaseBlocked : Option Text := none
  releaseManualBlock : Option Text := none

def supportedProtocolMin : ℤ := 0
def supportedProtocolCurrent : ℤ := 1

/-- Why a release is not to be installed. An empty block is none. -/
def blockedReason (release : AgentRelease) : Option String :=
  match release.releaseManualBlock, release.releaseBlocked with
  | some (unit :: units), _ => some (shown (unit :: units))
  | _, some (unit :: units) => some (shown (unit :: units))
  | _, _ =>
    if release.releaseYankedAt.isSome then some "이 버전은 회수되었습니다."
    else if release.releaseProtocol < supportedProtocolMin then
      some ("이 버전의 프로토콜(v" ++ toString release.releaseProtocol ++
        ")은 더 이상 지원되지 않습니다.")
    else if supportedProtocolCurrent < release.releaseProtocol then
      some ("이 버전은 현재 동작중인 Hub보다 최신 프로토콜(v" ++ toString release.releaseProtocol ++
        ")을 요구합니다.")
    else none

/-- The last check before an update, by the row that the refreshed catalogue has for the
version. -/
def assertInstallable (release : Hub → Text → Option AgentRelease) (version : Text) :
    HubProgram AgentRelease := do
  let found ← look fun hub => release hub version
  let found ← orThrow found (.serviceUnavailable ("Unknown agent release: " ++ shown version))
  match blockedReason found with
  | some reason => throw (.serviceUnavailable reason)
  | none => pure found

end ReleaseCatalogService

end OpticsHub
