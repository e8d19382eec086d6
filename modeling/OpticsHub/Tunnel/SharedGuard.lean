import OpticsHub.Tunnel.SigningSecrets

/-!
# One replay guard for the lines of all Agents

The lines of all Agents go through one guard. It knows a line by its nonce alone, and each line
makes it forget what is dated too far from that line. So the lines of one Agent may be refused
because another has used the nonce, and a line may be accepted again because another Agent has made
the guard forget it. The verdicts on the lines of an Agent are those it would have alone exactly
if, at each line that comes to the guard, all lines together leave its nonce remembered just when
those of the Agent do.
-/
namespace OpticsHub

open Script Async Program Machine

namespace TunnelService

open AgentService Hash

/-- What happened, with the verdict if it was a line. -/
abbrev Checked := PreconnectEvent × Option VerifyResult

/-- A line of an Agent, or what happens elsewhere. -/
def PreconnectEvent.concerns (agentUuid : Text) : PreconnectEvent → Bool
  | .verify request => request.agentUuid == agentUuid
  | .meanwhile _ => true

/-- The part of a history that concerns an Agent. -/
def concerning (agentUuid : Text) (past : List Checked) : List Checked :=
  past.filter fun event => event.1.concerns agentUuid

/-- The nonce and the time of a line. -/
def RequestPreconnect.stamp (request : RequestPreconnect) : Option (Text × Decimal) :=
  match request.timestamp with
  | .finite timestamp => some (request.nonce, timestamp)
  | _ => none

/-- The nonce and the time of a line that has come to the guard. -/
def Checked.reached : Checked → Option (Text × Decimal)
  | (.verify request, some .ok) | (.verify request, some (.failed .replayed)) => request.stamp
  | _ => none

/-- The nonce and the time of a line that the guard has accepted. -/
def Checked.accepted : Checked → Option (Text × Decimal)
  | (.verify request, some .ok) => request.stamp
  | _ => none

/-- Two times are too far from each other for the guard to remember one at the other. -/
abbrev Apart (first second : Decimal) : Prop :=
  ReplayGuard.apart defaultMaxClockSkewMs first.toRat second.toRat

/-- A line was accepted, and nothing that came to the guard since was too far from it. -/
def Remembered (past : List Checked) (nonce : Text) (timestamp : Decimal) : Prop :=
  ∃ before event after, past = before ++ event :: after ∧
    Checked.accepted event = some (nonce, timestamp) ∧
      ∀ later ∈ after, ∀ reached ∈ Checked.reached later, ¬ Apart reached.2 timestamp

/-- A line with the same nonce is remembered that is not too far from a given time. -/
def Recalled (past : List Checked) (nonce : Text) (timestamp : Decimal) : Prop :=
  ∃ earlier, Remembered past nonce earlier ∧ ¬ Apart timestamp earlier

section Guards

variable (mac : Mac)

/-- The envelope with which a line comes to the guard: its signature is valid, and its time is
near the clock. -/
def Arrives (request : RequestPreconnect) (verifier : Verifier) (envelope : Envelope) : Prop :=
  authentic mac "tunnel:pre" (.object request.envelope) (settled mac request verifier).1 =
      some envelope ∧
    ¬ VerifyOptions.stale { now := verifier.hub.now } envelope.timestamp

/-- When a line of the Agent comes to the guard, all lines leave its nonce remembered exactly if
those of the Agent do. -/
def RecalledAlike (agentUuid : Text) (past : List Checked) (verifier : Verifier) :
    PreconnectEvent → Prop
  | .verify request => request.agentUuid = agentUuid → ∀ envelope,
      Arrives mac request verifier envelope →
        (Recalled past envelope.nonce envelope.timestamp ↔
          Recalled (concerning agentUuid past) envelope.nonce envelope.timestamp)
  | .meanwhile _ => True

/-! ## What the guard remembers -/

/-- The guard remembers what the history says. -/
structure Recalls (past : List Checked) (guard : ReplayGuard) : Prop where
  width : guard.windowMs = defaultMaxClockSkewMs
  seen : ∀ nonce timestamp, (nonce, timestamp) ∈ guard.seen ↔ Remembered past nonce timestamp

theorem recalls_start : Recalls [] {} := by
  refine ⟨rfl, fun nonce timestamp => iff_of_false List.not_mem_nil ?_⟩
  rintro ⟨before, event, after, nothing, -⟩
  simp at nothing

/-- One more event. -/
theorem remembered_concat (past : List Checked) (event : Checked) (nonce : Text)
    (timestamp : Decimal) :
    Remembered (past ++ [event]) nonce timestamp ↔
      (Remembered past nonce timestamp ∧
        ∀ reached ∈ Checked.reached event, ¬ Apart reached.2 timestamp) ∨
      Checked.accepted event = some (nonce, timestamp) := by
  constructor
  · rintro ⟨before, first, after, split, accepted, near⟩
    rcases List.eq_nil_or_concat after with rfl | ⟨after, last, rfl⟩
    · obtain ⟨-, same⟩ := List.append_inj' split rfl
      rw [List.singleton_inj] at same
      exact .inr (same ▸ accepted)
    · rw [List.concat_eq_append, ← List.cons_append, ← List.append_assoc] at split
      obtain ⟨rfl, same⟩ := List.append_inj' split rfl
      rw [List.singleton_inj] at same
      subst same
      refine .inl ⟨⟨before, first, after, rfl, accepted, fun later inside => ?_⟩, ?_⟩
      · exact near later (by simp [inside])
      · exact near event (by simp)
  · rintro (⟨⟨before, first, after, rfl, accepted, near⟩, last⟩ | accepted)
    · refine ⟨before, first, after ++ [event], by simp, accepted, fun later inside => ?_⟩
      rcases List.mem_append.mp inside with inside | inside
      · exact near later inside
      · rw [List.mem_singleton] at inside
        exact inside ▸ last
    · exact ⟨past, event, [], by simp, accepted, fun _ inside => absurd inside List.not_mem_nil⟩

/-- An event that has not come to the guard changes nothing. -/
theorem Recalls.idle {past : List Checked} {guard : ReplayGuard} (recalls : Recalls past guard)
    {event : Checked} (idle : Checked.reached event = none)
    (refused : Checked.accepted event = none) : Recalls (past ++ [event]) guard := by
  refine ⟨recalls.width, fun nonce timestamp => ?_⟩
  rw [recalls.seen, remembered_concat, idle, refused]
  simp

/-- A nonce is in what the guard keeps at a time exactly if it is recalled. -/
theorem Recalls.mem_prune {past : List Checked} {guard : ReplayGuard}
    (recalls : Recalls past guard) (nonce : Text) (timestamp : Decimal) :
    nonce ∈ (guard.prune timestamp).seen.map Prod.fst ↔ Recalled past nonce timestamp := by
  rw [List.mem_map]
  constructor
  · rintro ⟨⟨nonce, earlier⟩, inside, rfl⟩
    obtain ⟨inside, near⟩ := ReplayGuard.mem_prune.mp inside
    rw [recalls.width] at near
    exact ⟨earlier, (recalls.seen _ _).mp inside, near⟩
  · rintro ⟨earlier, remembered, near⟩
    refine ⟨(nonce, earlier), ReplayGuard.mem_prune.mpr ⟨(recalls.seen _ _).mpr remembered, ?_⟩,
      rfl⟩
    rw [recalls.width]
    exact near

/-- A line that comes to the guard is judged by what is recalled, and remembered. -/
theorem Recalls.judge {past : List Checked} {guard : ReplayGuard} (recalls : Recalls past guard)
    {request : RequestPreconnect} {envelope : Envelope}
    (stamp : request.stamp = some (envelope.nonce, envelope.timestamp)) {now : ℤ}
    (timely : ¬ VerifyOptions.stale { now := now } envelope.timestamp) :
    ((judge envelope { now := now } (some guard)).1 = .failed .replayed ∧
        Recalled past envelope.nonce envelope.timestamp ∨
      (judge envelope { now := now } (some guard)).1 = .ok ∧
        ¬ Recalled past envelope.nonce envelope.timestamp) ∧
    Recalls (past ++ [(.verify request, some (judge envelope { now := now } (some guard)).1)])
      ((judge envelope { now := now } (some guard)).2.getD guard) := by
  rw [judge_eq, if_neg timely]
  by_cases seen : envelope.nonce ∈ (guard.prune envelope.timestamp).seen.map Prod.fst
  · rw [if_pos seen]
    refine ⟨.inl ⟨rfl, (recalls.mem_prune _ _).mp seen⟩, recalls.width, fun nonce timestamp => ?_⟩
    rw [remembered_concat, ← recalls.seen]
    simp [Checked.reached, Checked.accepted, stamp, ReplayGuard.mem_prune, recalls.width]
  · rw [if_neg seen]
    refine ⟨.inr ⟨rfl, mt (recalls.mem_prune _ _).mpr seen⟩, recalls.width,
      fun nonce timestamp => ?_⟩
    rw [remembered_concat, ← recalls.seen]
    simp [Checked.reached, Checked.accepted, stamp, ReplayGuard.mem_prune, recalls.width,
      eq_comm]

/-! ## One line -/

variable {mac} {request : RequestPreconnect} {verifier : Verifier}

/-- What a check does to the guard. -/
theorem preconnects_replayGuard (request : RequestPreconnect) (verifier : Verifier) :
    (preconnects mac verifier (.verify request)).2.replayGuard =
      (verifyUnder mac request (settled mac request verifier).1 verifier).2.getD
        verifier.replayGuard := by
  rw [preconnects, run_verifyPreconnect]
  change (verifyUnder mac request _ _).2.getD _ = _
  rw [verifyUnder, verifyUnder, settled_hub, settled_replayGuard]

/-- The envelope of a line is the line. -/
theorem stamp_of_authentic {secret : Option Text} {envelope : Envelope}
    (valid : authentic mac "tunnel:pre" (.object request.envelope) secret = some envelope) :
    request.stamp = some (envelope.nonce, envelope.timestamp) := by
  have read : readEnvelope request.envelope = .ok envelope := by
    rcases secret with _ | _ | ⟨unit, units⟩
    · cases valid
    · cases valid
    · rw [authentic_object mac _ _ (List.cons_ne_nil _ _)] at valid
      split at valid
      · cases valid
      · rename_i read
        split at valid
        · rw [read, Except.ok.injEq]
          exact Option.some.inj valid
        · cases valid
  obtain ⟨-, -, -, timestamp, nonce, -⟩ := readEnvelope_eq_ok_iff.mp read
  have stamped : Members.own request.envelope timestampField =
      some (.number request.timestamp) := by
    rfl
  have named : Members.own request.envelope nonceField = some (.string request.nonce) := by
    rfl
  rw [stamped, Option.some.injEq, Value.number.injEq] at timestamp
  rw [named, Option.some.injEq, Value.string.injEq] at nonce
  rw [RequestPreconnect.stamp, timestamp, nonce]

/-- A line comes to the guard, or its verdict does not depend on the guard, which stays. -/
theorem line_cases (request : RequestPreconnect) (verifier : Verifier) :
    (∃ envelope, Arrives mac request verifier envelope ∧
      request.stamp = some (envelope.nonce, envelope.timestamp) ∧
      ∀ guard, verifyUnder mac request (settled mac request verifier).1
          { verifier with replayGuard := guard } =
        judge envelope { now := verifier.hub.now } (some guard)) ∨
    ((∀ envelope, ¬ Arrives mac request verifier envelope) ∧
      ∃ reason ≠ VerifyFailure.replayed, ∀ guard,
        verifyUnder mac request (settled mac request verifier).1
          { verifier with replayGuard := guard } = (.failed reason, some guard)) := by
  rcases verify_cases mac "tunnel:pre" (.object request.envelope) (settled mac request verifier).1
    with ⟨envelope, valid, judged⟩ | ⟨invalid, reason, other, refused⟩
  · by_cases stale : VerifyOptions.stale { now := verifier.hub.now } envelope.timestamp
    · refine .inr ⟨fun envelope' arrives => ?_, .expired, by decide, fun guard => ?_⟩
      · obtain rfl := Option.some.inj (valid.symm.trans arrives.1)
        exact arrives.2 stale
      · rw [verifyUnder, judged, judge_eq, if_pos stale]
    · exact .inl ⟨envelope, ⟨valid, stale⟩, stamp_of_authentic valid, fun guard => judged _ _⟩
  · refine .inr ⟨fun envelope arrives => ?_, reason, ?_, fun guard => refused _ _⟩
    · cases invalid.symm.trans arrives.1
    · exact ne_of_mem_of_not_mem (by decide) other |>.symm

/-- Every event keeps what the guard remembers true to the history. -/
theorem Recalls.preconnects {past : List Checked} (recalls : Recalls past verifier.replayGuard)
    (event : PreconnectEvent) :
    Recalls (past ++ [(event, (preconnects mac verifier event).1)])
      (preconnects mac verifier event).2.replayGuard := by
  cases event with
  | meanwhile change => exact recalls.idle rfl rfl
  | verify request =>
    rw [preconnects_replayGuard, verdict_eq]
    rcases @line_cases mac request verifier with
      ⟨envelope, arrives, stamp, judged⟩ | ⟨-, reason, other, refused⟩
    · rw [judged verifier.replayGuard]
      exact (recalls.judge stamp arrives.2).2
    · rw [refused verifier.replayGuard]
      apply recalls.idle
      · revert other
        cases reason <;> simp [Checked.reached]
      · rfl

/-! ## Two histories -/

/-- Two states of the service as an Agent finds them: in a history of all lines, and in that of
the lines of the Agent. -/
structure Agree (agentUuid : Text) (past : List Checked) (whole alone : Verifier) : Prop where
  hub : alone.hub = whole.hub
  cached : Members.own alone.signingSecretCache agentUuid =
    Members.own whole.signingSecretCache agentUuid
  whole : Recalls past whole.replayGuard
  alone : Recalls (concerning agentUuid past) alone.replayGuard

variable {agentUuid : Text} {past : List Checked} {whole alone : Verifier}

/-- Whether a secret fits the signature does not depend on the guard. -/
theorem verifyUnder_invalid_congr (request : RequestPreconnect) (secret : Option Text)
    (hubs : alone.hub = whole.hub) :
    (verifyUnder mac request secret alone).1 = .failed .invalidSignature ↔
      (verifyUnder mac request secret whole).1 = .failed .invalidSignature := by
  rw [verifyUnder, verifyUnder, hubs]
  rcases verify_cases mac "tunnel:pre" (.object request.envelope) secret with
    ⟨envelope, -, judged⟩ | ⟨-, reason, -, refused⟩
  · rw [judged, judged]
    exact iff_of_false (judge_ne_invalidSignature _ _ _) (judge_ne_invalidSignature _ _ _)
  · rw [refused, refused]

/-- The same secret decides on a line of the Agent, and the same is kept. -/
theorem Agree.settled (agree : Agree agentUuid past whole alone)
    (named : request.agentUuid = agentUuid) :
    (settled mac request alone).1 = (settled mac request whole).1 ∧
      Members.own (settled mac request alone).2.signingSecretCache agentUuid =
        Members.own (settled mac request whole).2.signingSecretCache agentUuid := by
  have found : cachedSecret request.agentUuid alone = cachedSecret request.agentUuid whole := by
    rw [cachedSecret, cachedSecret, named, agree.cached, agree.hub]
  have stored : secretStored request alone = secretStored request whole := by
    rw [secretStored, secretStored, agree.hub]
  have kept : Members.own (keepSecret request.agentUuid (secretStored request whole)
        alone).signingSecretCache agentUuid =
      Members.own (keepSecret request.agentUuid (secretStored request whole)
        whole).signingSecretCache agentUuid := by
    rw [keepSecret, keepSecret, named, Members.own_define, Members.own_define, agree.hub]
  unfold TunnelService.settled
  rw [found, stored]
  cases cachedSecret request.agentUuid whole with
  | none => exact ⟨rfl, kept⟩
  | some cached =>
    have decides : Decides mac request alone cached ↔ Decides mac request whole cached :=
      not_congr (verifyUnder_invalid_congr request cached.secret agree.hub)
    by_cases here : Decides mac request whole cached
    · simp only [if_pos here, if_pos (decides.mpr here)]
      exact ⟨trivial, agree.cached⟩
    · simp only [if_neg here, if_neg (mt decides.mp here)]
      exact ⟨trivial, kept⟩

/-- What is kept for other Agents is not touched. -/
theorem cached_settled_ne (other : request.agentUuid ≠ agentUuid) (verifier : Verifier) :
    Members.own (settled mac request verifier).2.signingSecretCache agentUuid =
      Members.own verifier.signingSecretCache agentUuid := by
  have kept : Members.own (keepSecret request.agentUuid (secretStored request verifier)
      verifier).signingSecretCache agentUuid = Members.own verifier.signingSecretCache agentUuid :=
    Members.own_define_ne _ other.symm _
  unfold TunnelService.settled
  split
  · split
    · rfl
    · exact kept
  · exact kept

theorem preconnects_cache (request : RequestPreconnect) (verifier : Verifier) :
    (preconnects mac verifier (.verify request)).2.signingSecretCache =
      (settled mac request verifier).2.signingSecretCache := by
  rw [preconnects, run_verifyPreconnect]
  rfl

theorem preconnects_hub (request : RequestPreconnect) (verifier : Verifier) :
    (preconnects mac verifier (.verify request)).2.hub = verifier.hub := by
  rw [preconnects, run_verifyPreconnect]
  exact settled_hub request verifier

theorem concerning_concat (agentUuid : Text) (past : List Checked) (event : Checked) :
    concerning agentUuid (past ++ [event]) =
      concerning agentUuid past ++ if event.1.concerns agentUuid then [event] else [] := by
  rw [concerning, List.filter_append, List.filter_cons, List.filter_nil]
  rfl

theorem concerning_cons (agentUuid : Text) (event : Checked) (past : List Checked) :
    concerning agentUuid (event :: past) =
      if event.1.concerns agentUuid then event :: concerning agentUuid past
      else concerning agentUuid past :=
  List.filter_cons

/-- An event that does not concern the Agent. -/
theorem Agree.aside (agree : Agree agentUuid past whole alone) {event : PreconnectEvent}
    (other : event.concerns agentUuid = false) :
    Agree agentUuid (past ++ [(event, (preconnects mac whole event).1)])
      (preconnects mac whole event).2 alone := by
  cases event with
  | meanwhile change => cases other
  | verify request =>
    rw [PreconnectEvent.concerns, beq_eq_false_iff_ne] at other
    refine ⟨?_, ?_, agree.whole.preconnects _, ?_⟩
    · rw [preconnects_hub, agree.hub]
    · rw [preconnects_cache, cached_settled_ne other, agree.cached]
    · rw [concerning_concat, if_neg (by simpa [PreconnectEvent.concerns] using other),
        List.append_nil]
      exact agree.alone

/-- An event that concerns the Agent, if it comes to the same in both histories. -/
theorem Agree.both (agree : Agree agentUuid past whole alone) {event : PreconnectEvent}
    (concerns : event.concerns agentUuid = true)
    (same : (preconnects mac whole event).1 = (preconnects mac alone event).1) :
    Agree agentUuid (past ++ [(event, (preconnects mac whole event).1)])
      (preconnects mac whole event).2 (preconnects mac alone event).2 := by
  refine ⟨?_, ?_, agree.whole.preconnects event, ?_⟩
  · cases event with
    | verify request => rw [preconnects_hub, preconnects_hub, agree.hub]
    | meanwhile change => exact congrArg change agree.hub
  · cases event with
    | verify request =>
      rw [PreconnectEvent.concerns, beq_iff_eq] at concerns
      rw [preconnects_cache, preconnects_cache]
      exact (agree.settled concerns).2
    | meanwhile change => exact agree.cached
  · rw [concerning_concat, if_pos concerns, same]
    exact agree.alone.preconnects event

/-- A line of the Agent has the same verdict in both histories, exactly if it is recalled alike. -/
theorem Agree.same_iff (agree : Agree agentUuid past whole alone) {event : PreconnectEvent}
    (concerns : event.concerns agentUuid = true) :
    (preconnects mac whole event).1 = (preconnects mac alone event).1 ↔
      RecalledAlike mac agentUuid past whole event := by
  cases event with
  | meanwhile change => exact iff_of_true rfl trivial
  | verify request =>
    rw [PreconnectEvent.concerns, beq_iff_eq] at concerns
    have first : whole = { whole with replayGuard := whole.replayGuard } := rfl
    have second : verifyUnder mac request (TunnelService.settled mac request whole).1 alone =
        verifyUnder mac request (TunnelService.settled mac request whole).1
          { whole with replayGuard := alone.replayGuard } := by
      rw [verifyUnder, verifyUnder, agree.hub]
    rw [verdict_eq, verdict_eq, (agree.settled concerns).1, Option.some.injEq, second,
      RecalledAlike, imp_iff_right concerns]
    rcases @line_cases mac request whole with
      ⟨envelope, arrives, stamp, judged⟩ | ⟨stays, reason, -, refused⟩
    · have only : (∀ envelope', Arrives mac request whole envelope' →
          (Recalled past envelope'.nonce envelope'.timestamp ↔
            Recalled (concerning agentUuid past) envelope'.nonce envelope'.timestamp)) ↔
          (Recalled past envelope.nonce envelope.timestamp ↔
            Recalled (concerning agentUuid past) envelope.nonce envelope.timestamp) := by
        refine ⟨fun held => held envelope arrives, fun held envelope' arrives' => ?_⟩
        obtain rfl := Option.some.inj (arrives.1.symm.trans arrives'.1)
        exact held
      rw [only, judged whole.replayGuard, judged alone.replayGuard]
      rcases (agree.whole.judge stamp arrives.2).1 with ⟨verdict, here⟩ | ⟨verdict, here⟩ <;>
        rcases (agree.alone.judge stamp arrives.2).1 with ⟨verdict', here'⟩ | ⟨verdict', here'⟩ <;>
          simp [verdict, verdict', here, here']
    · rw [refused whole.replayGuard, refused alone.replayGuard]
      exact iff_of_true rfl fun envelope arrives => absurd arrives (stays envelope)

/-- Along two histories the verdicts on the lines of the Agent are the same exactly if each is
recalled alike. -/
theorem Agree.trace_iff (agree : Agree agentUuid past whole alone)
    (events : List PreconnectEvent) :
    concerning agentUuid (trace (preconnects mac) whole events) =
        trace (preconnects mac) alone (events.filter fun event => event.concerns agentUuid) ↔
      Along (preconnects mac) (RecalledAlike mac agentUuid) past whole events := by
  induction events generalizing past whole alone with
  | nil => exact iff_of_true rfl trivial
  | cons event rest ih =>
    rw [trace, concerning_cons, List.filter_cons, Along]
    cases concerns : event.concerns agentUuid with
    | false =>
      have vacuous : RecalledAlike mac agentUuid past whole event := by
        cases event with
        | meanwhile change => trivial
        | verify request =>
          rw [PreconnectEvent.concerns, beq_eq_false_iff_ne] at concerns
          exact fun named => absurd named concerns
      rw [if_neg (by simp), if_neg (by simp), and_iff_right vacuous]
      exact ih (agree.aside concerns)
    | true =>
      rw [if_pos rfl, if_pos rfl, trace, List.cons.injEq, Prod.mk.injEq, and_iff_right rfl,
        agree.same_iff concerns]
      refine and_congr_right fun alike => ih (agree.both concerns ?_)
      exact (agree.same_iff concerns).mpr alike

end Guards

/-- In every history the verdicts on the lines of an Agent are those in the history without the
lines of other Agents, exactly if each of its lines that comes to the guard is recalled by all
lines just when it is recalled by those of the Agent. -/
theorem agents_independent_iff (mac : Mac) (hub : Hub) (events : List PreconnectEvent)
    (agentUuid : Text) :
    concerning agentUuid (trace (preconnects mac) { hub := hub } events) =
        trace (preconnects mac) { hub := hub }
          (events.filter fun event => event.concerns agentUuid) ↔
      Along (preconnects mac) (RecalledAlike mac agentUuid) [] { hub := hub } events := by
  have start : Agree agentUuid [] { hub := hub } { hub := hub } :=
    ⟨rfl, rfl, recalls_start, recalls_start⟩
  exact start.trace_iff events

/-- Two Agents with their secrets, at a time four minutes after that of the fixed vector. -/
def twoAgents : Hub where
  now := AgentGateway.fixedTime + 240000
  database :=
    { agents := (Table.empty.create fun index =>
        { agentIndex := index
          agentIp := "127.0.0.1"
          agentCode := "CODE"
          agentUuid := "agent"
          agentSigningSecret := some "a"
          agentName := "CODE"
          agentLastOnline := 0 }).create fun index =>
        { agentIndex := index
          agentIp := "127.0.0.2"
          agentCode := "OTHER"
          agentUuid := "other"
          agentSigningSecret := some "b"
          agentName := "OTHER"
          agentLastOnline := 0 } }

/-- A line four minutes old, one of the other Agent dated four minutes ahead, and the first
again. -/
def linesOfTwo : List PreconnectEvent :=
  [agentLine, .verify (signedLine "other" "b" "ahead" (AgentGateway.fixedTime + 480000)), agentLine]

/-- With the line of the other Agent in between, the same line is accepted twice. -/
theorem not_agents_independent_ahead :
    concerning "agent" (trace (preconnects fixedMac) { hub := twoAgents } linesOfTwo) ≠
      trace (preconnects fixedMac) { hub := twoAgents }
        (linesOfTwo.filter fun event => event.concerns "agent") := by
  intro same
  have verdicts := congrArg (List.map Prod.snd) same
  revert verdicts
  decide +kernel

end TunnelService

end OpticsHub
