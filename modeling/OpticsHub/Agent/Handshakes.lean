import OpticsHub.Agent.ConsoleGateway
import OpticsHub.Script.PercentEncoding

/-!
# The handshake of a console

A console presents the token of its user in a cookie when it connects. The header is text of the
console: it is split into cookies, the first one of the name is decoded, and the library verifies
what comes out. A socket without a token, or with one that is not verified, is disconnected. The
cookie is decoded before the part of the handler that catches what is thrown.
-/
namespace OpticsHub

open Script

namespace ConsoleGateway

open AgentGateway

/-! ## Connecting -/

/-- A socket of a console. -/
structure ConsoleSocket where
  connected : Bool := true
  /-- `client.data.userIndex` -/
  userIndex : Value := .undefined

/-- `client.disconnect(true)` -/
def ConsoleSocket.disconnect (client : ConsoleSocket) : ConsoleSocket :=
  { client with connected := false }

def semicolon : CodeUnit := 0x3B

/-- The name of a cookie and the sign before its value. -/
def cookieStart (name : Text) : Text := name ++ [0x3D]

/-- What the first cookie of a name has as its value, before that is decoded. -/
def findCookie (cookieHeader name : Text) : Option Text :=
  (((cookieHeader.splitOn semicolon).map Text.trim).find? (cookieStart name).isPrefixOf).map
    (List.drop (name.length + 1))

/-- The value of a cookie. Text that cannot be decoded throws. -/
def readCookie (cookieHeader : Option Text) (name : Text) : Except Failure (Option Text) :=
  match cookieHeader with
  | none | some [] => .ok none
  | some (unit :: units) =>
    match findCookie (unit :: units) name with
    | none => .ok none
    | some value =>
      match decodeURIComponent value with
      | none => .error .internal
      | some decoded => .ok (some decoded)

def accessTokenName : Text := "accessToken"

section Handshake

variable (verifyAsync : Text → Option Value) (cookieHeader : Option Text)

/-- Verify the token of a socket that connects. The parameter is the payload that the library
returns for a token, unless it throws. -/
def handleConnection (client : ConsoleSocket) : Except Failure Unit × ConsoleSocket :=
  match readCookie cookieHeader accessTokenName with
  | .error failure => (.error failure, client)
  | .ok none | .ok (some []) => (.ok (), client.disconnect)
  | .ok (some (unit :: units)) =>
    match (verifyAsync (unit :: units)).bind packetMembers with
    | none => (.ok (), client.disconnect)
    | some payload => (.ok (), { client with userIndex := member payload Auth.userIndexClaim })

/-! ## What becomes of the socket -/

/-- The first access token of the header, before it is decoded. -/
def accessCookie : Option Text := cookieHeader.bind fun header => findCookie header accessTokenName

/-- The first access token of the header decodes to one that the library verifies. -/
def Verifies : Prop :=
  ∃ cookie token payload, accessCookie cookieHeader = some cookie ∧ PercentEncodes cookie token ∧
    verifyAsync token = some payload

/-- The handler completes, and a socket without a verified token is disconnected and has no
user. -/
def FailsClosed : Prop :=
  (handleConnection verifyAsync cookieHeader {}).1 = .ok () ∧
    (¬ Verifies verifyAsync cookieHeader →
      (handleConnection verifyAsync cookieHeader {}).2 = { connected := false })

variable {verifyAsync cookieHeader}

/-- A header without cookies has no access token. -/
theorem readCookie_none (absent : accessCookie cookieHeader = none) :
    readCookie cookieHeader accessTokenName = .ok none := by
  unfold readCookie
  split
  · rfl
  · rfl
  · rename_i unit units
    have missing : findCookie (unit :: units) accessTokenName = none := absent
    rw [missing]

/-- The first access token is decoded, or that throws. -/
theorem readCookie_some {cookie : Text} (found : accessCookie cookieHeader = some cookie) :
    readCookie cookieHeader accessTokenName =
      match decodeURIComponent cookie with
      | none => .error .internal
      | some decoded => .ok (some decoded) := by
  unfold readCookie
  split
  · cases found
  · cases found
  · rename_i unit units
    have present : findCookie (unit :: units) accessTokenName = some cookie := found
    rw [present]

theorem handleConnection_throws {cookie : Text} (found : accessCookie cookieHeader = some cookie)
    (malformed : decodeURIComponent cookie = none) (client : ConsoleSocket) :
    handleConnection verifyAsync cookieHeader client = (.error .internal, client) := by
  rw [handleConnection, readCookie_some found, malformed]

theorem handleConnection_none (absent : accessCookie cookieHeader = none)
    (client : ConsoleSocket) :
    handleConnection verifyAsync cookieHeader client = (.ok (), client.disconnect) := by
  rw [handleConnection, readCookie_none absent]

/-- A token that is not verified leaves the socket disconnected. -/
theorem handleConnection_decoded {cookie token : Text}
    (found : accessCookie cookieHeader = some cookie)
    (decoded : decodeURIComponent cookie = some token) (client : ConsoleSocket) :
    (handleConnection verifyAsync cookieHeader client).1 = .ok () ∧
      (verifyAsync token = none →
        (handleConnection verifyAsync cookieHeader client).2 = client.disconnect) := by
  rw [handleConnection, readCookie_some found, decoded]
  cases token with
  | nil => exact ⟨rfl, fun _ => rfl⟩
  | cons unit units =>
    dsimp only
    split
    · exact ⟨rfl, fun _ => rfl⟩
    · rename_i payload verified
      refine ⟨rfl, fun unverified => ?_⟩
      rw [unverified] at verified
      cases verified

/-- The handshake fails closed exactly if the first access token of the header, where there is
one, percent-encodes a text. -/
theorem failsClosed_iff :
    FailsClosed verifyAsync cookieHeader ↔
      ∀ cookie, accessCookie cookieHeader = some cookie → ∃ token, PercentEncodes cookie token := by
  constructor
  · rintro ⟨completes, -⟩ cookie found
    cases decoded : decodeURIComponent cookie with
    | none =>
      rw [handleConnection_throws found decoded] at completes
      cases completes
    | some token => exact ⟨token, decodeURIComponent_iff.mp decoded⟩
  · intro encoded
    cases found : accessCookie cookieHeader with
    | none =>
      rw [FailsClosed, handleConnection_none found]
      exact ⟨rfl, fun _ => rfl⟩
    | some cookie =>
      obtain ⟨token, encodes⟩ := encoded cookie found
      have decoded := decodeURIComponent_iff.mpr encodes
      obtain ⟨completes, closes⟩ := @handleConnection_decoded verifyAsync _ _ _ found decoded {}
      refine ⟨completes, fun unverified => closes ?_⟩
      by_contra some
      obtain ⟨payload, verified⟩ := Option.ne_none_iff_exists'.mp some
      exact unverified ⟨cookie, token, payload, found, encodes, verified⟩

end Handshake

def malformedHeader : Option Text := some "theme=dark; accessToken=100%"

/-- A percent sign without digits throws, and the socket stays connected. -/
theorem not_failsClosed_malformed :
    handleConnection (fun _ => none) malformedHeader {} =
        (.error .internal, { connected := true }) ∧
      ¬ FailsClosed (fun _ => none) malformedHeader := by
  have throws := @handleConnection_throws (fun _ => none) malformedHeader "100%" (by decide)
    (by decide) {}
  refine ⟨throws, fun closed => ?_⟩
  have completes := closed.1
  rw [throws] at completes
  cases completes

end ConsoleGateway

end OpticsHub
