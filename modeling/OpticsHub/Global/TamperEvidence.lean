import OpticsHub.Global.SigningMaterial

/-!
# When a changed packet is noticed

A packet keeps its signature while someone changes its event, its envelope or its
body. With an injective HMAC the verifier computes the same digest exactly when
it sees the same material, and the material determines the event, the timestamp,
the nonce and the body up to members named `__proto__`. So a change is noticed
unless it is confined to such members, which the canonical text never shows. A
packet whose envelope cannot be read is refused before any digest is compared,
and then the reason given is not an invalid signature, whatever was changed.
-/
namespace OpticsHub

open Script

namespace Hash

/-- A message as its signer sends it. -/
structure Message where
  event : Text
  payload : JsonObject
  timestamp : Number
  nonce : Text

section Evidence

variable (mac : Mac) (secret : Text) (message : Message) (event : Text) (packet : JsonObject)

/-- The packet carries the signature the signer produced for the message. -/
def CarriesSignature : Prop :=
  Members.own packet.members signatureField =
    Members.own (sign mac message.event message.payload.members (some secret)
      message.timestamp message.nonce) signatureField

/-- The packet is the message: same event, timestamp and nonce, and the same body as
a JSON value. -/
def Unchanged : Prop :=
  event = message.event ∧
  Members.own packet.members timestampField = some (.number message.timestamp) ∧
  Members.own packet.members nonceField = some (.string message.nonce) ∧
  Value.Equivalent (stripEnvelope (.object packet.members))
    (stripEnvelope (.object message.payload.members))

/-- The packet is the message once the members named `__proto__` are left out of
both bodies. -/
def UnchangedWithoutProto : Prop :=
  event = message.event ∧
  Members.own packet.members timestampField = some (.number message.timestamp) ∧
  Members.own packet.members nonceField = some (.string message.nonce) ∧
  Value.Equivalent (withoutProto (stripEnvelope (.object packet.members)))
    (withoutProto (stripEnvelope (.object message.payload.members)))

/-- A finite timestamp and a nonce that is not empty. -/
def EnvelopeComplete : Prop :=
  ∃ timestamp nonce,
    Members.own packet.members timestampField = some (.number (.finite timestamp)) ∧
    Members.own packet.members nonceField = some (.string nonce) ∧ nonce ≠ []

/-- A packet that carries the signature of a message, and is not reported to have an
invalid one, is that message. -/
def TamperEvident (options : VerifyOptions) (guard : Option ReplayGuard) : Prop :=
  CarriesSignature mac secret message packet →
    (verify mac event (.object packet.members) (some secret) options guard).1 ≠
      .failed .invalidSignature →
    Unchanged message event packet

end Evidence

section Verification

variable {mac : Mac} {secret : Text} {message : Message} {event : Text} {packet : JsonObject}

/-- The signature in a signed payload is the digest of the payload. -/
theorem own_sign (present : secret ≠ []) :
    Members.own (sign mac message.event message.payload.members (some secret)
        message.timestamp message.nonce) signatureField =
      some (.string (digest mac message.event message.timestamp message.nonce
        (.object message.payload.members) secret)) := by
  cases secret with
  | nil => exact absurd rfl present
  | cons unit units => exact Members.own_define _ _ _

/-- With the signature in place, the envelope can be read when the other two parts
are there. -/
theorem readEnvelope_of_complete (present : secret ≠ [])
    (nonempty : ∀ secret material, mac secret material ≠ [])
    (carries : CarriesSignature mac secret message packet)
    (complete : EnvelopeComplete packet) :
    ∃ timestamp nonce,
      Members.own packet.members timestampField = some (.number (.finite timestamp)) ∧
      Members.own packet.members nonceField = some (.string nonce) ∧
      readEnvelope packet.members =
        .ok ⟨digest mac message.event message.timestamp message.nonce
          (.object message.payload.members) secret, timestamp, nonce⟩ := by
  obtain ⟨timestamp, nonce, hasTimestamp, hasNonce, some⟩ := complete
  rw [CarriesSignature, own_sign present] at carries
  refine ⟨timestamp, nonce, hasTimestamp, hasNonce, readEnvelope_eq_ok_iff.mpr
    ⟨carries, ?_, ?_, hasTimestamp, hasNonce, some⟩⟩
  · rw [digest, Ne, hexText_eq_nil]
    exact nonempty _ _
  · exact List.all_eq_true.mpr (hexText_isHexDigit _)

theorem complete_of_readEnvelope {envelope : Envelope}
    (read : readEnvelope packet.members = .ok envelope) : EnvelopeComplete packet := by
  obtain ⟨-, -, -, hasTimestamp, hasNonce, some⟩ := readEnvelope_eq_ok_iff.mp read
  exact ⟨envelope.timestamp, envelope.nonce, hasTimestamp, hasNonce, some⟩

/-- Two materials are equal exactly when the packets agree but for the members the
canonical text loses. -/
theorem signingMaterial_eq_iff (eventLine : CodeUnit.newline ∉ message.event)
    (nonceLine : CodeUnit.newline ∉ message.nonce) (timestamp : Number) (nonce : Text) :
    signingMaterial message.event message.timestamp message.nonce
        (.object message.payload.members) =
      signingMaterial event timestamp nonce (.object packet.members) ↔
    event = message.event ∧ timestamp = message.timestamp ∧ nonce = message.nonce ∧
      Value.Equivalent (withoutProto (stripEnvelope (.object packet.members)))
        (withoutProto (stripEnvelope (.object message.payload.members))) := by
  have bodies := canonicalize_eq_iff (isJson_stripEnvelope packet)
    (isJson_stripEnvelope message.payload)
  constructor
  · intro same
    obtain ⟨events, timestamps, nonces, texts⟩ :=
      signingMaterial_injective eventLine nonceLine same
    exact ⟨events.symm, timestamps.symm, nonces.symm, bodies.mp texts.symm⟩
  · rintro ⟨rfl, rfl, rfl, equivalent⟩
    unfold signingMaterial
    rw [bodies.mpr equivalent]

/-- For a packet with the signature of a message and a complete envelope, the
verifier finds the signature valid exactly when the change, if there is one, is
confined to members named `__proto__`. -/
theorem verify_ne_invalidSignature_iff (present : secret ≠ [])
    (nonempty : ∀ secret material, mac secret material ≠ [])
    (injective : ∀ secret secret' material material',
      mac secret material = mac secret' material' → secret = secret' ∧ material = material')
    (eventLine : CodeUnit.newline ∉ message.event)
    (nonceLine : CodeUnit.newline ∉ message.nonce)
    (carries : CarriesSignature mac secret message packet)
    (complete : EnvelopeComplete packet) (options : VerifyOptions)
    (guard : Option ReplayGuard) :
    (verify mac event (.object packet.members) (some secret) options guard).1 ≠
        .failed .invalidSignature ↔ UnchangedWithoutProto message event packet := by
  obtain ⟨timestamp, nonce, hasTimestamp, hasNonce, read⟩ :=
    readEnvelope_of_complete present nonempty carries complete
  have same : signed mac event packet.members secret
        ⟨digest mac message.event message.timestamp message.nonce
          (.object message.payload.members) secret, timestamp, nonce⟩ = true ↔
      signingMaterial message.event message.timestamp message.nonce
          (.object message.payload.members) =
        signingMaterial event (.finite timestamp) nonce (.object packet.members) := by
    unfold signed digest
    rw [equalsInConstantTime_hexText]
    constructor
    · exact fun ⟨bytes, _⟩ => (injective _ _ _ _ bytes).2
    · exact fun material => ⟨by rw [material], nonempty _ _⟩
  have accepted : (verify mac event (.object packet.members) (some secret) options guard).1 ≠
        .failed .invalidSignature ↔
      signed mac event packet.members secret
        ⟨digest mac message.event message.timestamp message.nonce
          (.object message.payload.members) secret, timestamp, nonce⟩ = true := by
    rw [Ne, verify_invalidSignature_iff mac event _ present]
    constructor
    · intro none
      by_contra invalid
      exact none ⟨_, read, Bool.eq_false_iff.mpr invalid⟩
    · rintro valid ⟨envelope, read', invalid⟩
      rw [read, Except.ok.injEq] at read'
      rw [← read', valid] at invalid
      exact absurd invalid (by decide)
  rw [accepted, same, signingMaterial_eq_iff eventLine nonceLine]
  unfold UnchangedWithoutProto
  rw [hasTimestamp, hasNonce]
  simp only [Option.some.injEq, Value.number.injEq, Value.string.injEq]

/-- Without a complete envelope no signature is compared. -/
theorem verify_ne_invalidSignature_of_incomplete (present : secret ≠ [])
    (incomplete : ¬ EnvelopeComplete packet) (options : VerifyOptions)
    (guard : Option ReplayGuard) :
    (verify mac event (.object packet.members) (some secret) options guard).1 ≠
      .failed .invalidSignature := by
  rw [Ne, verify_invalidSignature_iff mac event _ present]
  rintro ⟨envelope, read, -⟩
  exact incomplete (complete_of_readEnvelope read)

end Verification

/-! ## An HMAC for concrete packets -/

/-- Three bytes a unit, so that a zero byte ends a text. -/
def unitBytes : Text → List UInt8
  | [] => []
  | unit :: rest =>
    1 :: UInt8.ofNat (unit.toNat / 256) :: UInt8.ofNat (unit.toNat % 256) :: unitBytes rest

theorem unitBytes_append_cancel {text text' : Text} {rest rest' : List UInt8}
    (same : unitBytes text ++ 0 :: rest = unitBytes text' ++ 0 :: rest') :
    text = text' ∧ rest = rest' := by
  induction text generalizing text' with
  | nil =>
    cases text' with
    | nil => exact ⟨rfl, (List.cons.inj same).2⟩
    | cons unit' text' => exact absurd (List.cons.inj same).1 (by decide)
  | cons unit text ih =>
    cases text' with
    | nil => exact absurd (List.cons.inj same).1 (by decide)
    | cons unit' text' =>
      simp only [unitBytes, List.cons_append, List.cons.injEq, true_and] at same
      obtain ⟨high, low, tails⟩ := same
      obtain ⟨texts, rests⟩ := ih tails
      have inside := unit.toNat_lt
      have inside' := unit'.toNat_lt
      have highs := congrArg UInt8.toNat high
      have lows := congrArg UInt8.toNat low
      rw [UInt8.toNat_ofNat_of_lt' (by simp [UInt8.size]; omega),
        UInt8.toNat_ofNat_of_lt' (by simp [UInt8.size]; omega)] at highs lows
      have units : unit = unit' := UInt16.toNat_inj.mp (by omega)
      exact ⟨by rw [units, texts], rests⟩

/-- The secret of the repository's fixed vector. -/
def fixedSecret : Text := List.replicate 64 0x61

/-- The message of the fixed vector. -/
def fixedMessage : Message where
  event := "service-status"
  payload := {
    members := [("serviceIndex", .number (.finite ⟨7, 0, by decide⟩)), ("status", .string "running"),
      ("nested", .object [
        ("z", .array [.number (.finite ⟨3, 0, by decide⟩), .number (.finite ⟨1, 0, by decide⟩),
          .number (.finite ⟨2, 0, by decide⟩)]),
        ("a", .null)])]
    json := by decide }
  timestamp := .finite ⟨1756, 9, by decide⟩
  nonce := "fixednonce"

/-- The signed text of the fixed vector. -/
def fixedMaterial : Text :=
  signingMaterial fixedMessage.event fixedMessage.timestamp fixedMessage.nonce
    (.object fixedMessage.payload.members)

/-- The digest of the fixed vector. -/
def fixedDigest : List UInt8 :=
  bytesOfHex "87c3b0072ca0e67142ac489bb6c04043d1ff5bd86d79f2e4b42f833617e436ef"

/-- HMAC-SHA256 on the fixed vector, and an injective encoding elsewhere. -/
def fixedMac : Mac := fun secret material =>
  if secret = fixedSecret ∧ material = fixedMaterial then fixedDigest
  else unitBytes secret ++ 0 :: (unitBytes material ++ [0])

theorem encoding_ne_fixedDigest (secret : Text) (rest : List UInt8) :
    unitBytes secret ++ 0 :: rest ≠ fixedDigest := by
  have first : fixedDigest.head? = some 0x87 := by decide
  intro same
  rw [← same] at first
  cases secret <;> simp [unitBytes] at first

theorem fixedMac_ne_nil (secret material : Text) : fixedMac secret material ≠ [] := by
  unfold fixedMac
  split
  · decide
  · simp

theorem fixedMac_injective (secret secret' material material' : Text)
    (same : fixedMac secret material = fixedMac secret' material') :
    secret = secret' ∧ material = material' := by
  unfold fixedMac at same
  split at same <;> split at same
  · rename_i fixed fixed'
    exact ⟨fixed.1.trans fixed'.1.symm, fixed.2.trans fixed'.2.symm⟩
  · exact absurd same.symm (encoding_ne_fixedDigest _ _)
  · exact absurd same (encoding_ne_fixedDigest _ _)
  · obtain ⟨secrets, rests⟩ := unitBytes_append_cancel same
    exact ⟨secrets, (unitBytes_append_cancel rests).1⟩

example : fixedMaterial = Text.ofString ("v1\nservice-status\n1756000000000\nfixednonce\n" ++
    "\x7b\"nested\":\x7b\"a\":null,\"z\":[3,1,2]\x7d,\"serviceIndex\":7," ++
    "\"status\":\"running\"\x7d") := by decide

/-! ## Tamper evidence -/

/-- The signature gives a change away exactly when the packet is the message, or its
envelope is complete and it differs from the message outside the members named
`__proto__`. -/
theorem tamper_evident_iff (mac : Mac) (secret : Text) (message : Message) (event : Text)
    (packet : JsonObject) (present : secret ≠ [])
    (nonempty : ∀ secret material, mac secret material ≠ [])
    (injective : ∀ secret secret' material material',
      mac secret material = mac secret' material' → secret = secret' ∧ material = material')
    (eventLine : CodeUnit.newline ∉ message.event)
    (nonceLine : CodeUnit.newline ∉ message.nonce)
    (options : VerifyOptions) (guard : Option ReplayGuard) :
    TamperEvident mac secret message event packet options guard ↔
      (CarriesSignature mac secret message packet →
        Unchanged message event packet ∨
          EnvelopeComplete packet ∧ ¬ UnchangedWithoutProto message event packet) := by
  constructor
  · intro evident carries
    by_cases complete : EnvelopeComplete packet
    · by_cases outside : UnchangedWithoutProto message event packet
      · exact .inl (evident carries ((verify_ne_invalidSignature_iff present nonempty injective
          eventLine nonceLine carries complete options guard).mpr outside))
      · exact .inr ⟨complete, outside⟩
    · exact .inl (evident carries
        (verify_ne_invalidSignature_of_incomplete present complete options guard))
  · intro condition carries valid
    rcases condition carries with same | ⟨complete, outside⟩
    · exact same
    · exact absurd ((verify_ne_invalidSignature_iff present nonempty injective
        eventLine nonceLine carries complete options guard).mp valid) outside

/-- The signed packet of the fixed vector. -/
def fixedPacket : JsonObject where
  members := sign fixedMac fixedMessage.event fixedMessage.payload.members (some fixedSecret)
    fixedMessage.timestamp fixedMessage.nonce
  json := by decide

theorem tamper_evident_fixedPacket :
    TamperEvident fixedMac fixedSecret fixedMessage "service-status" fixedPacket
        { now := 1756000000000 } none ↔
      (CarriesSignature fixedMac fixedSecret fixedMessage fixedPacket →
        Unchanged fixedMessage "service-status" fixedPacket ∨
          EnvelopeComplete fixedPacket ∧
            ¬ UnchangedWithoutProto fixedMessage "service-status" fixedPacket) :=
  tamper_evident_iff fixedMac fixedSecret fixedMessage "service-status" fixedPacket (by decide)
    fixedMac_ne_nil fixedMac_injective (by decide) (by decide) { now := 1756000000000 } none

/-- The signed packet with one more member, which the canonical text does not show. -/
def pollutedPacket : JsonObject where
  members := Members.define fixedPacket.members protoKey (.object [("admin", .boolean true)])
  json := by decide

/-- A member `__proto__` added to a signed packet goes unnoticed. -/
theorem not_tamper_evident_pollutedPacket :
    ¬ TamperEvident fixedMac fixedSecret fixedMessage "service-status" pollutedPacket
      { now := 1756000000000 } none := by
  intro evident
  have carries : CarriesSignature fixedMac fixedSecret fixedMessage pollutedPacket := rfl
  have complete : EnvelopeComplete pollutedPacket := ⟨_, _, rfl, rfl, by decide⟩
  have outside : UnchangedWithoutProto fixedMessage "service-status" pollutedPacket :=
    ⟨rfl, rfl, rfl, rfl⟩
  obtain ⟨-, -, -, bodies⟩ := evident carries
    ((verify_ne_invalidSignature_iff (by decide) fixedMac_ne_nil fixedMac_injective (by decide)
      (by decide) carries complete _ _).mpr outside)
  have members := Value.object.inj bodies
  exact absurd (congrArg List.length members) (by decide)

end Hash

end OpticsHub
