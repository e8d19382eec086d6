import OpticsHub.Script.Json
import Mathlib.Algebra.Order.AbsoluteValue.Basic

/-!
# Signing and verifying socket payloads

The Hub and an Agent share a signing secret and attach to every event a
timestamp, a nonce and an HMAC over the event name, both of them and the
canonical text of the body. The canonical text sorts the keys of every object by
rebuilding it key by key, and the rebuilding assigns to a fresh plain object, so
a member named `__proto__` is taken by the inherited setter and leaves no trace.
For a JSON value the canonical text is otherwise faithful: it determines the
value up to the order of its members once those members are set aside.

The HMAC is a parameter. Dates enter through their `toJSON` and a value is a
tree, so the check for circular references has nothing to find here.
-/
namespace OpticsHub

open Script

/-- HMAC-SHA256 as bytes, from the secret and the signed text. -/
abbrev Mac := Text → Text → List UInt8

namespace Hash

def signatureSchemeVersion : ℕ := 1

def signatureField : Text := "_sig"
def timestampField : Text := "_ts"
def nonceField : Text := "_nonce"

def envelopeFields : List Text := [signatureField, timestampField, nonceField]

/-- Five minutes. -/
def defaultMaxClockSkewMs : ℤ := 5 * 60 * 1000

inductive VerifyFailure where
  | noSecret
  | missingSignature
  | malformedSignature
  | missingTimestamp
  | missingNonce
  | expired
  | replayed
  | invalidSignature
  deriving DecidableEq, Repr

inductive VerifyResult where
  | ok
  | failed (reason : VerifyFailure)
  deriving DecidableEq, Repr

/-! ## The canonical text -/

mutual

/-- The value with `toJSON` applied and every object rebuilt in the order of its
sorted keys. A member is normalized before the keys are sorted instead of after,
which changes nothing: the sort looks at keys only. -/
def normalize : Value → Value
  | .array elements => .array (normalizeElements elements)
  | .object members =>
    .object ((Members.sortByKey (normalizeMembers members)).foldl
      (fun sorted entry => Members.assign sorted entry.1 entry.2) [])
  | .date (some iso) => .string iso
  | .date none => .null
  | .undefined => .undefined
  | .null => .null
  | .boolean value => .boolean value
  | .number value => .number value
  | .string text => .string text

def normalizeElements : List Value → List Value
  | [] => []
  | element :: rest => normalize element :: normalizeElements rest

/-- A member whose value is undefined is skipped. -/
def normalizeMembers : Members Value → Members Value
  | [] => []
  | (_, .undefined) :: rest => normalizeMembers rest
  | (key, value) :: rest => (key, normalize value) :: normalizeMembers rest

end

def canonicalize (value : Value) : Text := (stringify (normalize value)).getD "null"

/-- The payload without the signature fields. Spreading copies the members in the
order of enumeration and defines them, so no setter runs here. -/
def stripEnvelope : Value → Value
  | .object members => .object (envelopeFields.foldl Members.erase (Members.enumerate members))
  | payload => payload

def signingMaterial (event : Text) (timestamp : Number) (nonce : Text) (payload : Value) : Text :=
  (Text.ofString "v" ++ decimalText signatureSchemeVersion) ++ CodeUnit.newline ::
    (event ++ CodeUnit.newline :: (timestamp.text ++ CodeUnit.newline ::
      (nonce ++ CodeUnit.newline :: canonicalize (stripEnvelope payload))))

/-! ## The replay guard -/

/-- The nonces seen, with their timestamps, in the order they were recorded. -/
structure ReplayGuard where
  windowMs : ℤ := defaultMaxClockSkewMs
  seen : List (Text × Decimal) := []

namespace ReplayGuard

/-- Whether two timestamps are more than the window apart. -/
def apart (windowMs : ℤ) (now timestamp : ℚ) : Prop := (windowMs : ℚ) < |now - timestamp|

instance (windowMs : ℤ) (now timestamp : ℚ) : Decidable (apart windowMs now timestamp) :=
  inferInstanceAs (Decidable (_ < _))

/-- Forget what lies outside the window around `now`. -/
def prune (guard : ReplayGuard) (now : Decimal) : ReplayGuard :=
  { guard with
    seen := guard.seen.filter fun entry =>
      decide (¬ apart guard.windowMs now.toRat entry.2.toRat) }

/-- Record a nonce: true when it is new. The window is taken around the timestamp
of the packet at hand. -/
def remember (guard : ReplayGuard) (nonce : Text) (timestamp : Decimal) : Bool × ReplayGuard :=
  let guard := guard.prune timestamp
  if (guard.seen.map Prod.fst).contains nonce then (false, guard)
  else (true, { guard with seen := guard.seen ++ [(nonce, timestamp)] })

end ReplayGuard

section Signatures

variable (mac : Mac)

/-- The HMAC of the signed text in lower-case hexadecimal. -/
def digest (event : Text) (timestamp : Number) (nonce : Text) (payload : Value)
    (secret : Text) : Text :=
  hexText (mac secret (signingMaterial event timestamp nonce payload))

/-- Attach the envelope to a payload. An absent or empty secret signs nothing. -/
def sign (event : Text) (payload : Members Value) (secret : Option Text) (timestamp : Number)
    (nonce : Text) : Members Value :=
  match secret with
  | none | some [] => payload
  | some secret =>
    let copied := Members.enumerate payload
    let stamped := Members.define copied timestampField (.number timestamp)
    let marked := Members.define stamped nonceField (.string nonce)
    Members.define marked signatureField
      (.string (digest mac event timestamp nonce (.object payload) secret))

/-- Compare two hexadecimal texts by the bytes they decode to. -/
def equalsInConstantTime (left right : Text) : Bool :=
  let leftBuffer := bytesOfHex (left.map CodeUnit.lower)
  let rightBuffer := bytesOfHex (right.map CodeUnit.lower)
  if leftBuffer.length ≠ rightBuffer.length ∨ leftBuffer.length = 0 then false
  else decide (leftBuffer = rightBuffer)

/-- The envelope of a payload that carries one. -/
structure Envelope where
  signature : Text
  timestamp : Decimal
  nonce : Text

/-- Read the envelope, in the order in which the verifier checks it. -/
def readEnvelope (payload : Members Value) : Except VerifyFailure Envelope :=
  match Members.own payload signatureField with
  | some (.string (unit :: units)) =>
    match Members.own payload timestampField with
    | some (.number (.finite timestamp)) =>
      match Members.own payload nonceField with
      | some (.string (first :: rest)) =>
        if (unit :: units).all CodeUnit.isHexDigit then
          .ok ⟨unit :: units, timestamp, first :: rest⟩
        else .error .malformedSignature
      | _ => .error .missingNonce
    | _ => .error .missingTimestamp
  | _ => .error .missingSignature

/-- The options of a verification and the clock it reads, in milliseconds. A skew of zero
or less turns the check of the time off. -/
structure VerifyOptions where
  maxClockSkewMs : ℤ := defaultMaxClockSkewMs
  now : ℚ

/-- Whether a timestamp lies outside the allowed skew of the clock. -/
def VerifyOptions.stale (options : VerifyOptions) (timestamp : Decimal) : Prop :=
  0 < options.maxClockSkewMs ∧
    (options.maxClockSkewMs : ℚ) < |options.now - timestamp.toRat|

instance (options : VerifyOptions) (timestamp : Decimal) :
    Decidable (options.stale timestamp) :=
  inferInstanceAs (Decidable (_ ∧ _))

/-- Whether a payload carries a signature made with this secret for this event. -/
def signed (event : Text) (payload : Members Value) (secret : Text) (envelope : Envelope) : Bool :=
  equalsInConstantTime envelope.signature
    (digest mac event (.finite envelope.timestamp) envelope.nonce (.object payload) secret)

/-- The checks of a packet whose signature is valid: its time, then its nonce. -/
def judge (envelope : Envelope) (options : VerifyOptions) (guard : Option ReplayGuard) :
    VerifyResult × Option ReplayGuard :=
  if options.stale envelope.timestamp then (.failed .expired, guard)
  else match guard with
    | none => (.ok, none)
    | some guard =>
      match guard.remember envelope.nonce envelope.timestamp with
      | (true, guard) => (.ok, some guard)
      | (false, guard) => (.failed .replayed, some guard)

/-- Verify a payload. The signature is compared first, and the nonce is recorded
last, so that only a packet with a valid signature reaches the guard. -/
def verify (event : Text) (payload : Value) (secret : Option Text) (options : VerifyOptions)
    (guard : Option ReplayGuard) : VerifyResult × Option ReplayGuard :=
  match secret, payload with
  | none, _ | some [], _ => (.failed .noSecret, guard)
  | some secret, .object members =>
    match readEnvelope members with
    | .error reason => (.failed reason, guard)
    | .ok envelope =>
      if signed mac event members secret envelope then judge envelope options guard
      else (.failed .invalidSignature, guard)
  | some _, _ => (.failed .missingSignature, guard)

end Signatures

/-! ## What the verifier reports -/

/-- The envelope is read exactly when every part is there and well formed. -/
theorem readEnvelope_eq_ok_iff {payload : Members Value} {envelope : Envelope} :
    readEnvelope payload = .ok envelope ↔
      Members.own payload signatureField = some (.string envelope.signature) ∧
      envelope.signature ≠ [] ∧ envelope.signature.all CodeUnit.isHexDigit = true ∧
      Members.own payload timestampField = some (.number (.finite envelope.timestamp)) ∧
      Members.own payload nonceField = some (.string envelope.nonce) ∧
      envelope.nonce ≠ [] := by
  constructor
  · intro read
    unfold readEnvelope at read
    split at read
    · split at read
      · split at read
        · split at read
          · cases read
            simp_all
          · simp at read
        · simp at read
      · simp at read
    · simp at read
  · obtain ⟨signature, timestamp, nonce⟩ := envelope
    rintro ⟨hasSignature, some, hex, hasTimestamp, hasNonce, some'⟩
    obtain ⟨unit, units, rfl⟩ := List.exists_cons_of_ne_nil some
    obtain ⟨first, rest, rfl⟩ := List.exists_cons_of_ne_nil some'
    simp only [readEnvelope, hasSignature, hasTimestamp, hasNonce, hex, if_true]

/-- A payload without a readable envelope is refused for what the envelope lacks. -/
theorem readEnvelope_refusal {payload : Members Value} {reason : VerifyFailure}
    (read : readEnvelope payload = .error reason) :
    reason ∈ [VerifyFailure.missingSignature, .missingTimestamp, .missingNonce,
      .malformedSignature] := by
  unfold readEnvelope at read
  split at read
  · split at read
    · split at read
      · split at read <;> cases read
        decide
      · cases read
        decide
    · cases read
      decide
  · cases read
    decide

/-- The checks after the signature accept the packet, or report its time or its nonce. -/
theorem judge_verdict (envelope : Envelope) (options : VerifyOptions)
    (guard : Option ReplayGuard) :
    (judge envelope options guard).1 ∈
      [VerifyResult.ok, .failed .expired, .failed .replayed] := by
  unfold judge
  split
  · simp
  · split
    · simp
    · split <;> simp

/-- The checks after the signature never report it invalid. -/
theorem judge_ne_invalidSignature (envelope : Envelope) (options : VerifyOptions)
    (guard : Option ReplayGuard) :
    (judge envelope options guard).1 ≠ .failed .invalidSignature :=
  ne_of_mem_of_not_mem (judge_verdict envelope options guard) (by decide)

/-- With a secret, an object is judged by its envelope. -/
theorem verify_object (mac : Mac) (event : Text) (payload : Members Value) {secret : Text}
    (present : secret ≠ []) (options : VerifyOptions) (guard : Option ReplayGuard) :
    verify mac event (.object payload) (some secret) options guard =
      match readEnvelope payload with
      | .error reason => (.failed reason, guard)
      | .ok envelope =>
        if signed mac event payload secret envelope then judge envelope options guard
        else (.failed .invalidSignature, guard) := by
  cases secret with
  | nil => exact absurd rfl present
  | cons unit units => rfl

/-- The verifier reports an invalid signature exactly when the envelope can be read
and the signature in it is not the one it computes. -/
theorem verify_invalidSignature_iff (mac : Mac) (event : Text) (payload : Members Value)
    {secret : Text} (present : secret ≠ []) (options : VerifyOptions)
    (guard : Option ReplayGuard) :
    (verify mac event (.object payload) (some secret) options guard).1 =
        .failed .invalidSignature ↔
      ∃ envelope, readEnvelope payload = .ok envelope ∧
        signed mac event payload secret envelope = false := by
  rw [verify_object mac event payload present]
  cases read : readEnvelope payload with
  | error reason => simpa using ne_of_mem_of_not_mem (readEnvelope_refusal read) (by decide)
  | ok envelope =>
    cases valid : signed mac event payload secret envelope with
    | false => simp [valid]
    | true => simpa [valid] using judge_ne_invalidSignature envelope options guard

/-- With a secret, no object is refused for want of one. -/
theorem verify_ne_noSecret (mac : Mac) (event : Text) (payload : Members Value) {secret : Text}
    (present : secret ≠ []) (options : VerifyOptions) (guard : Option ReplayGuard) :
    (verify mac event (.object payload) (some secret) options guard).1 ≠ .failed .noSecret := by
  rw [verify_object mac event payload present]
  cases read : readEnvelope payload with
  | error reason => simpa using ne_of_mem_of_not_mem (readEnvelope_refusal read) (by decide)
  | ok envelope =>
    dsimp only
    split
    · exact ne_of_mem_of_not_mem (judge_verdict envelope options guard) (by decide)
    · simp

/-- Two hexadecimal renderings compare equal exactly when they render the same
bytes, of which there is at least one. -/
theorem equalsInConstantTime_hexText (left right : List UInt8) :
    equalsInConstantTime (hexText left) (hexText right) = true ↔ left = right ∧ left ≠ [] := by
  unfold equalsInConstantTime
  rw [lower_hexText, lower_hexText, bytesOfHex_hexText, bytesOfHex_hexText]
  dsimp only
  constructor
  · intro equal
    split_ifs at equal with mismatch
    rw [decide_eq_true_iff] at equal
    exact ⟨equal, fun empty => mismatch (.inr (by rw [empty, List.length_nil]))⟩
  · rintro ⟨rfl, some⟩
    rw [if_neg (by simpa using some)]
    exact decide_eq_true rfl

end Hash

end OpticsHub
