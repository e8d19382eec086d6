import OpticsHub.Global.TamperEvidence
import OpticsHub.Machine.Run

/-!
# One replay guard over many packets

A guard remembers the nonces of the packets it admitted and forgets those whose
timestamps are further than the window from the packet at hand. What makes a
forgotten nonce harmless is the clock: an old enough packet is refused as
expired. The two agree only when the packet at hand is dated near the clock. A
packet dated ahead of the clock, by less than the allowed skew, moves the window
ahead with it and forgets nonces whose packets the clock still admits.

A run is a list of deliveries to one guard. Along a run in which no delivery
forgets a nonce that the clock would still judge, every admitted packet is
remembered for as long as it could be admitted again, so none is admitted twice.
-/
namespace OpticsHub

open Script Machine

namespace Hash

/-- One call of the verifier with the default options: the packet, the secret it is
checked with and the clock. -/
structure Delivery where
  event : Text
  payload : Value
  secret : Option Text
  now : ℤ

/-- The same packet under the same secret, whenever it was delivered. -/
def Delivery.SamePacket (first second : Delivery) : Prop :=
  first.event = second.event ∧ first.payload = second.payload ∧ first.secret = second.secret

section Authentic

variable (mac : Mac)

/-- The envelope of a packet whose signature is valid under the secret. -/
def authentic (event : Text) (payload : Value) (secret : Option Text) : Option Envelope :=
  match secret, payload with
  | none, _ | some [], _ => none
  | some secret, .object members =>
    match readEnvelope members with
    | .error _ => none
    | .ok envelope => if signed mac event members secret envelope then some envelope else none
  | some _, _ => none

theorem authentic_object (event : Text) (payload : Members Value) {secret : Text}
    (present : secret ≠ []) :
    authentic mac event (.object payload) (some secret) =
      match readEnvelope payload with
      | .error _ => none
      | .ok envelope =>
        if signed mac event payload secret envelope then some envelope else none := by
  cases secret with
  | nil => exact absurd rfl present
  | cons unit units => rfl

/-- Either the signature is valid and the packet is judged by its time and nonce, or
the packet is refused and the guard stays as it was. -/
theorem verify_cases (event : Text) (payload : Value) (secret : Option Text) :
    (∃ envelope, authentic mac event payload secret = some envelope ∧
      ∀ options guard, verify mac event payload secret options guard =
        judge envelope options guard) ∨
    (authentic mac event payload secret = none ∧
      ∃ reason ∉ [VerifyFailure.expired, .replayed], ∀ options guard,
        verify mac event payload secret options guard = (.failed reason, guard)) := by
  rcases secret with _ | _ | ⟨unit, units⟩
  · exact .inr ⟨rfl, .noSecret, by decide, fun _ _ => rfl⟩
  · exact .inr ⟨rfl, .noSecret, by decide, fun _ _ => rfl⟩
  cases payload with
  | object members =>
    have present : unit :: units ≠ [] := by simp
    simp only [authentic_object mac event members present, verify_object mac event members present]
    cases read : readEnvelope members with
    | error reason =>
      have other := readEnvelope_refusal read
      clear read
      exact .inr ⟨rfl, reason, by revert reason; decide, fun _ _ => rfl⟩
    | ok envelope =>
      by_cases valid : signed mac event members (unit :: units) envelope = true
      · exact .inl ⟨envelope, if_pos valid, fun _ _ => if_pos valid⟩
      · exact .inr ⟨if_neg valid, .invalidSignature, by decide, fun _ _ => if_neg valid⟩
  | _ => exact .inr ⟨rfl, .missingSignature, by decide, fun _ _ => rfl⟩

end Authentic

/-! ## Recording a nonce -/

namespace ReplayGuard

variable {guard : ReplayGuard} {nonce : Text} {timestamp : Decimal}

theorem mem_prune {entry : Text × Decimal} :
    entry ∈ (guard.prune timestamp).seen ↔
      entry ∈ guard.seen ∧ ¬ apart guard.windowMs timestamp.toRat entry.2.toRat := by
  simp [prune]

/-- A new nonce joins what the window kept. -/
theorem remember_of_fresh (fresh : nonce ∉ (guard.prune timestamp).seen.map Prod.fst) :
    guard.remember nonce timestamp =
      (true, { guard with seen := (guard.prune timestamp).seen ++ [(nonce, timestamp)] }) := by
  rw [remember, if_neg (by rwa [List.contains_iff_mem])]
  rfl

/-- A nonce that is still there is refused. -/
theorem remember_of_seen (seen : nonce ∈ (guard.prune timestamp).seen.map Prod.fst) :
    guard.remember nonce timestamp = (false, guard.prune timestamp) := by
  rw [remember, if_pos (by rwa [List.contains_iff_mem])]

end ReplayGuard

/-- With a guard, a valid packet is admitted exactly when the clock admits its
timestamp and the window does not hold its nonce. -/
theorem judge_eq (envelope : Envelope) (options : VerifyOptions) (guard : ReplayGuard) :
    judge envelope options (some guard) =
      if options.stale envelope.timestamp then (.failed .expired, some guard)
      else if envelope.nonce ∈ (guard.prune envelope.timestamp).seen.map Prod.fst then
        (.failed .replayed, some (guard.prune envelope.timestamp))
      else (.ok, some { guard with
        seen := (guard.prune envelope.timestamp).seen ++
          [(envelope.nonce, envelope.timestamp)] }) := by
  unfold judge
  split
  · rfl
  · by_cases seen : envelope.nonce ∈ (guard.prune envelope.timestamp).seen.map Prod.fst
    · simp only [ReplayGuard.remember_of_seen seen, if_pos seen]
    · simp only [ReplayGuard.remember_of_fresh seen, if_neg seen]

/-- A timestamp the clock admits at two moments is admitted between them. -/
theorem not_stale_between {timestamp : Decimal} {first middle last : ℤ} (before : first ≤ middle)
    (after : middle ≤ last) (early : ¬ VerifyOptions.stale { now := first } timestamp)
    (late : ¬ VerifyOptions.stale { now := last } timestamp) :
    ¬ VerifyOptions.stale { now := middle } timestamp := by
  have positive : 0 < defaultMaxClockSkewMs := by decide
  simp only [VerifyOptions.stale, positive, true_and, not_lt, abs_le] at early late ⊢
  have before' : (first : ℚ) ≤ middle := by exact_mod_cast before
  have after' : (middle : ℚ) ≤ last := by exact_mod_cast after
  constructor <;> linarith [early.1, early.2, late.1, late.2]

/-! ## Runs -/

section Runs

variable (mac : Mac)

/-- Verify a delivery against the guard that all deliveries share. -/
def deliver : Transition ReplayGuard Delivery VerifyResult := fun guard delivery =>
  let outcome := verify mac delivery.event delivery.payload delivery.secret
    { now := delivery.now } (some guard)
  (outcome.1, outcome.2.getD guard)

/-- With a guard, the verifier returns a guard. -/
theorem verify_guarded (mac : Mac) (event : Text) (payload : Value) (secret : Option Text)
    (options : VerifyOptions) (guard : ReplayGuard) :
    (verify mac event payload secret options (some guard)).2 =
      some ((verify mac event payload secret options (some guard)).2.getD guard) := by
  rcases verify_cases mac event payload secret with ⟨envelope, -, judged⟩ | ⟨-, reason, -, refused⟩
  · rw [judged, judge_eq]
    split
    · rfl
    · split <;> rfl
  · rw [refused]
    rfl

/-- If the delivery passes the signature and the clock, then its window keeps every
nonce whose timestamp the clock still admits. -/
def SparesLive (guard : ReplayGuard) (delivery : Delivery) : Prop :=
  ∀ envelope, authentic mac delivery.event delivery.payload delivery.secret = some envelope →
    ¬ VerifyOptions.stale { now := delivery.now } envelope.timestamp →
    ∀ entry ∈ guard.seen, ¬ VerifyOptions.stale { now := delivery.now } entry.2 →
      ¬ ReplayGuard.apart guard.windowMs envelope.timestamp.toRat entry.2.toRat

/-- No packet is accepted twice. -/
def AcceptedOnce (events : List (Delivery × VerifyResult)) : Prop :=
  events.Pairwise fun earlier later =>
    earlier.1.SamePacket later.1 → earlier.2 = .ok → later.2 ≠ .ok

/-- Every accepted packet is remembered while the clock, which is not behind any of
the events, still admits it. -/
def Remembered (past : List (Delivery × VerifyResult)) (guard : ReplayGuard) : Prop :=
  ∀ event ∈ past, event.2 = .ok →
    ∃ envelope, authentic mac event.1.event event.1.payload event.1.secret = some envelope ∧
      ¬ VerifyOptions.stale { now := event.1.now } envelope.timestamp ∧
      ∀ now, (∀ earlier ∈ past, earlier.1.now ≤ now) →
        ¬ VerifyOptions.stale { now := now } envelope.timestamp →
        (envelope.nonce, envelope.timestamp) ∈ guard.seen

variable {mac : Mac} {guard : ReplayGuard} {delivery : Delivery}

/-- An accepted delivery is valid, timely and new, and is recorded. -/
theorem deliver_ok (accepted : (deliver mac guard delivery).1 = .ok) :
    ∃ envelope, authentic mac delivery.event delivery.payload delivery.secret = some envelope ∧
      ¬ VerifyOptions.stale { now := delivery.now } envelope.timestamp ∧
      envelope.nonce ∉ (guard.prune envelope.timestamp).seen.map Prod.fst ∧
      (envelope.nonce, envelope.timestamp) ∈ (deliver mac guard delivery).2.seen := by
  unfold deliver at accepted ⊢
  dsimp only at accepted ⊢
  rcases verify_cases mac delivery.event delivery.payload delivery.secret with
    ⟨envelope, valid, judged⟩ | ⟨-, reason, -, refused⟩
  · rw [judged, judge_eq] at accepted ⊢
    refine ⟨envelope, valid, ?_⟩
    by_cases timely : VerifyOptions.stale { now := delivery.now } envelope.timestamp
    · simp [timely] at accepted
    by_cases seen : envelope.nonce ∈ (guard.prune envelope.timestamp).seen.map Prod.fst
    · simp [timely, seen] at accepted
    · rw [if_neg timely, if_neg seen]
      exact ⟨timely, seen, List.mem_append_right _ (List.mem_singleton_self _)⟩
  · simp [refused] at accepted

/-- A delivery that is valid and timely is accepted or refused as a replay. -/
theorem deliver_of_timely {envelope : Envelope}
    (valid : authentic mac delivery.event delivery.payload delivery.secret = some envelope)
    (timely : ¬ VerifyOptions.stale { now := delivery.now } envelope.timestamp) :
    (deliver mac guard delivery).1 = .ok ∨
      (deliver mac guard delivery).1 = .failed .replayed := by
  rcases verify_cases mac delivery.event delivery.payload delivery.secret with
    ⟨envelope', valid', judged⟩ | ⟨invalid, -⟩
  · obtain rfl : envelope = envelope' := Option.some.inj (valid.symm.trans valid')
    rw [deliver, judged, judge_eq, if_neg timely]
    split
    · exact .inr rfl
    · exact .inl rfl
  · rw [valid] at invalid
    cases invalid

/-- A delivery keeps a nonce unless it is valid, timely and dated further than the window
from it. -/
theorem deliver_keeps_near {entry : Text × Decimal} (seen : entry ∈ guard.seen)
    (near : ∀ envelope,
      authentic mac delivery.event delivery.payload delivery.secret = some envelope →
      ¬ VerifyOptions.stale { now := delivery.now } envelope.timestamp →
      ¬ ReplayGuard.apart guard.windowMs envelope.timestamp.toRat entry.2.toRat) :
    entry ∈ (deliver mac guard delivery).2.seen := by
  rw [deliver]
  rcases verify_cases mac delivery.event delivery.payload delivery.secret with
    ⟨envelope, valid, judged⟩ | ⟨-, reason, -, refused⟩
  · rw [judged, judge_eq]
    split
    · exact seen
    · rename_i timely
      have kept : entry ∈ (guard.prune envelope.timestamp).seen :=
        ReplayGuard.mem_prune.mpr ⟨seen, near envelope valid timely⟩
      split
      · exact kept
      · exact List.mem_append_left _ kept
  · rw [refused]
    exact seen

/-- A delivery keeps every nonce the clock still admits, when it spares them. -/
theorem deliver_keeps (spares : SparesLive mac guard delivery) {entry : Text × Decimal}
    (seen : entry ∈ guard.seen) (live : ¬ VerifyOptions.stale { now := delivery.now } entry.2) :
    entry ∈ (deliver mac guard delivery).2.seen :=
  deliver_keeps_near seen fun envelope valid timely => spares envelope valid timely entry seen live

/-- The width of the window does not change. -/
theorem deliver_windowMs : (deliver mac guard delivery).2.windowMs = guard.windowMs := by
  rw [deliver]
  rcases verify_cases mac delivery.event delivery.payload delivery.secret with
    ⟨envelope, -, judged⟩ | ⟨-, reason, -, refused⟩
  · rw [judged, judge_eq]
    split
    · rfl
    · split <;> rfl
  · rw [refused]
    rfl

theorem Remembered.deliver {past : List (Delivery × VerifyResult)}
    (remembered : Remembered mac past guard)
    (clock : ∀ event ∈ past, event.1.now ≤ delivery.now)
    (spares : SparesLive mac guard delivery) :
    Remembered mac (past ++ [(delivery, (deliver mac guard delivery).1)])
      (deliver mac guard delivery).2 := by
  intro event inside accepted
  rcases List.mem_append.mp inside with before | last
  · obtain ⟨envelope, valid, timely, recorded⟩ := remembered event before accepted
    refine ⟨envelope, valid, timely, fun now later live => ?_⟩
    have reached : delivery.now ≤ now :=
      later _ (List.mem_append_right _ (List.mem_singleton_self _))
    have live' := not_stale_between (clock event before) reached timely live
    exact deliver_keeps spares (recorded delivery.now clock live') live'
  · rw [List.mem_singleton] at last
    subst last
    obtain ⟨envelope, valid, timely, -, recorded⟩ := deliver_ok accepted
    exact ⟨envelope, valid, timely, fun _ _ _ => recorded⟩

/-- A packet accepted before, and still remembered, is not accepted again. -/
theorem Remembered.refuses {past : List (Delivery × VerifyResult)}
    (remembered : Remembered mac past guard)
    (clock : ∀ event ∈ past, event.1.now ≤ delivery.now)
    (spares : SparesLive mac guard delivery) {event : Delivery × VerifyResult}
    (before : event ∈ past) (same : event.1.SamePacket delivery) (accepted : event.2 = .ok) :
    (Hash.deliver mac guard delivery).1 ≠ .ok := by
  intro again
  obtain ⟨envelope, valid, -, recorded⟩ := remembered event before accepted
  obtain ⟨envelope', valid', timely, fresh, -⟩ := deliver_ok again
  obtain ⟨events, payloads, secrets⟩ := same
  rw [events, payloads, secrets, valid', Option.some.injEq] at valid
  subst valid
  have seen := recorded delivery.now clock timely
  have kept := ReplayGuard.mem_prune.mpr ⟨seen, spares _ valid' timely _ seen timely⟩
  exact fresh (List.mem_map_of_mem kept)

/-- Along a run with a clock that does not go back, in which no delivery forgets a
nonce the clock still admits, no packet is accepted twice. -/
theorem accepted_once_of_spares_live (mac : Mac) (deliveries : List Delivery)
    (clock : deliveries.Pairwise fun earlier later => earlier.now ≤ later.now)
    (spares : Each (deliver mac) (SparesLive mac) {} deliveries) :
    AcceptedOnce (trace (deliver mac) {} deliveries) := by
  have steps := Along.and
    (Along.of_pairwise (deliver mac) [] {} (fun earlier later => earlier.now ≤ later.now) clock)
    spares
  refine Along.pairwise_trace (Remembered mac) ?_ ?_ steps ?_
  · exact fun past guard delivery remembered met => remembered.deliver met.1 met.2
  · exact fun past guard delivery remembered met event before =>
      remembered.refuses met.1 met.2 before
  · exact fun event inside => absurd inside List.not_mem_nil

end Runs

/-- The packet of the fixed vector, delivered at a time. -/
def fixedDelivery (now : ℤ) : Delivery where
  event := "service-status"
  payload := .object fixedPacket.members
  secret := some fixedSecret
  now := now

theorem samePacket_fixedDelivery (first second : ℤ) :
    (fixedDelivery first).SamePacket (fixedDelivery second) :=
  ⟨rfl, rfl, rfl⟩

/-- The packet of the fixed vector delivered twice, a minute apart. -/
def repeatedRun : List Delivery :=
  [fixedDelivery 1756000000000, fixedDelivery 1756000060000]

theorem accepted_once_repeatedRun : AcceptedOnce (trace (deliver fixedMac) {} repeatedRun) := by
  have recorded : (deliver fixedMac {} (fixedDelivery 1756000000000)).2.seen =
      [(Text.ofString "fixednonce", ⟨1756, 9, by decide⟩)] := by decide +kernel
  have dated : (authentic fixedMac "service-status" (.object fixedPacket.members)
      (some fixedSecret)).map Envelope.timestamp = some ⟨1756, 9, by decide⟩ := by decide +kernel
  refine accepted_once_of_spares_live fixedMac repeatedRun (by decide) ⟨?_, ?_, trivial⟩
  · exact fun _ _ _ entry inside => absurd inside List.not_mem_nil
  · intro envelope valid _ entry inside _
    rw [recorded, List.mem_singleton] at inside
    have same : some envelope.timestamp = some ⟨1756, 9, by decide⟩ :=
      (congrArg (Option.map Envelope.timestamp) valid).symm.trans dated
    rw [Option.some.injEq] at same
    subst inside
    rw [same]
    decide +kernel

/-- Another packet under the same secret, dated four minutes ahead of the clock at
which it is delivered. -/
def aheadDelivery : Delivery where
  event := "service-log"
  payload := .object (sign fixedMac "service-log" [] (some fixedSecret)
    (.finite ⟨175600048, 4, by decide⟩) "ahead")
  secret := some fixedSecret
  now := 1756000240000

/-- A packet four minutes old, one dated four minutes ahead, and the first again, all
delivered at one moment. -/
def forgetfulRun : List Delivery :=
  [fixedDelivery 1756000240000, aheadDelivery, fixedDelivery 1756000240000]

/-- The packet dated ahead makes the guard forget the first one, which the clock
still admits. -/
theorem not_accepted_once_forgetfulRun :
    (forgetfulRun.Pairwise fun earlier later => earlier.now ≤ later.now) ∧
      ¬ AcceptedOnce (trace (deliver fixedMac) {} forgetfulRun) := by
  refine ⟨by decide, fun once => ?_⟩
  have results : (trace (deliver fixedMac) {} forgetfulRun).map Prod.snd = [.ok, .ok, .ok] := by
    decide +kernel
  simp only [forgetfulRun, trace, List.map_cons, List.cons.injEq] at once results
  obtain ⟨first, -⟩ := List.pairwise_cons.mp once
  exact first _ (.tail _ (.head _)) (samePacket_fixedDelivery _ _) results.1 results.2.2.1

end Hash

end OpticsHub
