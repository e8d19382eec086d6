import OpticsHub.Agent.Issuing
import OpticsHub.Global.Replay
import OpticsHub.Tunnel.TunnelService

/-!
# Signing secrets that are kept

The gateway lets the Hub check the line with which an Agent opens a connection in advance. The Hub
keeps the secret of an Agent for a minute, and also that there is none. A secret that is kept and
does not fit the signature is read again. That there was none is not read again: an Agent that gets
its secret within that minute is refused as one without a secret.
-/
namespace OpticsHub

open Script Async Program Machine

namespace TunnelService

open AgentService Hash

def signingSecretTtlMs : ℤ := 60000

/-- What the gateway has read from the line of an Agent. -/
structure RequestPreconnect where
  agentUuid : Text
  timestamp : Number
  nonce : Text
  signature : Text

/-- The line as a payload with its envelope. -/
def RequestPreconnect.envelope (request : RequestPreconnect) : Members Value :=
  [("agentUuid", .string request.agentUuid), (timestampField, .number request.timestamp),
    (nonceField, .string request.nonce), (signatureField, .string request.signature)]

/-- An entry of the cache of secrets. -/
structure CachedSecret where
  secret : Option Text
  expiresAt : ℤ

/-- The Hub with what the service keeps for the lines of the Agents. -/
structure Verifier where
  hub : Hub
  replayGuard : ReplayGuard := {}
  signingSecretCache : Members CachedSecret := []

abbrev VerifierProgram := Program Verifier Failure

def Verifier.setHub (hub : Hub) (verifier : Verifier) : Verifier := { verifier with hub := hub }

/-- The secret of an Agent that is kept, and has not expired. -/
def cachedSecret (agentUuid : Text) (verifier : Verifier) : Option CachedSecret :=
  (Members.own verifier.signingSecretCache agentUuid).filter fun cached =>
    Decidable.decide (verifier.hub.now < cached.expiresAt)

def keepSecret (agentUuid : Text) (secret : Option Text) (verifier : Verifier) : Verifier :=
  { verifier with
    signingSecretCache := Members.define verifier.signingSecretCache agentUuid
      { secret := secret
        expiresAt := verifier.hub.now + signingSecretTtlMs } }

/-- Read the secret of an Agent and keep it. -/
def cacheSigningSecret (agentUuid : Text) : VerifierProgram (Option Text) := do
  let secret ← (getSigningSecret (· == agentUuid)).zoom Verifier.hub Verifier.setHub
  step fun verifier => (secret, keepSecret agentUuid secret verifier)

/-- The secret that is kept, or else the one that is read. -/
def servedSecret (agentUuid : Text) : Option CachedSecret → VerifierProgram (Option Text)
  | some cached => pure cached.secret
  | none => cacheSigningSecret agentUuid

section Verification

variable (mac : Mac)

/-- Check a line with a secret. -/
def verifyUnder (request : RequestPreconnect) (secret : Option Text) (verifier : Verifier) :
    VerifyResult × Option ReplayGuard :=
  verify mac "tunnel:pre" (.object request.envelope) secret { now := verifier.hub.now }
    (some verifier.replayGuard)

/-- The same, with what it does to the guard. -/
def checkLine (request : RequestPreconnect) (secret : Option Text) : VerifierProgram VerifyResult :=
  step fun verifier =>
    let checked := verifyUnder mac request secret verifier
    (checked.1, { verifier with replayGuard := checked.2.getD verifier.replayGuard })

/-- Check a line of an Agent. -/
def verifyPreconnect (request : RequestPreconnect) : VerifierProgram VerifyResult := do
  let cached ← look (cachedSecret request.agentUuid)
  let secret ← servedSecret request.agentUuid cached
  let result ← checkLine mac request secret
  if result = .failed .invalidSignature ∧ cached.isSome = true then do
    let fresh ← cacheSigningSecret request.agentUuid
    checkLine mac request fresh
  else pure result

/-! ## What a check comes to -/

/-- The secret that is stored for the Agent of a line. -/
def secretStored (request : RequestPreconnect) (verifier : Verifier) : Option Text :=
  storedSecret verifier.hub.database request.agentUuid

/-- Whether the secret that is kept decides: it is there, and fits the signature or leaves the
line refused for another reason. -/
def Decides (request : RequestPreconnect) (verifier : Verifier) (cached : CachedSecret) : Prop :=
  (verifyUnder mac request cached.secret verifier).1 ≠ .failed .invalidSignature

instance (request : RequestPreconnect) (verifier : Verifier) (cached : CachedSecret) :
    Decidable (Decides mac request verifier cached) :=
  inferInstanceAs (Decidable (_ ≠ _))

/-- The secret that decides on a line, and what is kept then. -/
def settled (request : RequestPreconnect) (verifier : Verifier) : Option Text × Verifier :=
  match cachedSecret request.agentUuid verifier with
  | some cached =>
    if Decides mac request verifier cached then (cached.secret, verifier)
    else (secretStored request verifier,
      keepSecret request.agentUuid (secretStored request verifier) verifier)
  | none =>
    (secretStored request verifier,
      keepSecret request.agentUuid (secretStored request verifier) verifier)

variable {mac} {request : RequestPreconnect} {verifier : Verifier}

theorem run_cacheSigningSecret (agentUuid : Text) (verifier : Verifier) :
    (cacheSigningSecret agentUuid).run verifier =
      (.ok (storedSecret verifier.hub.database agentUuid),
        keepSecret agentUuid (storedSecret verifier.hub.database agentUuid) verifier) :=
  rfl

/-- A signature that does not fit leaves the guard as it was. -/
theorem run_checkLine_invalid {secret : Option Text}
    (invalid : (verifyUnder mac request secret verifier).1 = .failed .invalidSignature) :
    (checkLine mac request secret).run verifier = (.ok (.failed .invalidSignature), verifier) := by
  have kept : (verifyUnder mac request secret verifier).2 = some verifier.replayGuard := by
    unfold verifyUnder at invalid ⊢
    rcases verify_cases mac "tunnel:pre" (.object request.envelope) secret with
      ⟨envelope, -, judged⟩ | ⟨-, reason, -, refused⟩
    · rw [judged] at invalid
      exact absurd invalid (judge_ne_invalidSignature _ _ _)
    · rw [refused]
  rw [checkLine, Program.step, run_atomically]
  dsimp only
  rw [kept, invalid, Option.getD_some]

/-- A line is checked with the secret that decides, whatever was tried before. -/
theorem run_verifyPreconnect (request : RequestPreconnect) (verifier : Verifier) :
    (verifyPreconnect mac request).run verifier =
      (checkLine mac request (settled mac request verifier).1).run
        (settled mac request verifier).2 := by
  rw [verifyPreconnect, run_bind]
  change runFrom _ (.ok (cachedSecret request.agentUuid verifier), verifier) = _
  rw [runFrom, run_bind, settled]
  cases found : cachedSecret request.agentUuid verifier with
  | none =>
    rw [servedSecret, run_cacheSigningSecret, runFrom, run_bind]
    change runFrom _ (.ok _, _) = (.ok _, _)
    rw [runFrom, if_neg (by simp), run_pure]
    rfl
  | some cached =>
    rw [servedSecret, run_pure, runFrom, run_bind]
    dsimp only
    by_cases decides : Decides mac request verifier cached
    · rw [if_pos decides]
      change runFrom _ (.ok _, _) = (.ok _, _)
      rw [runFrom, if_neg fun again => decides again.1, run_pure]
    · rw [if_neg decides, run_checkLine_invalid (not_not.mp decides), runFrom, if_pos ⟨rfl, rfl⟩,
        run_bind, run_cacheSigningSecret, runFrom]
      rfl

/-! ## Histories -/

variable (mac)

/-- A line is checked, or something else happens to the Hub. -/
inductive PreconnectEvent where
  | verify (request : RequestPreconnect)
  | meanwhile (change : Hub → Hub)

/-- The verdict on a line, and what the service keeps from it. -/
def preconnects : Transition Verifier PreconnectEvent (Option VerifyResult)
  | verifier, .verify request =>
    let checked := (verifyPreconnect mac request).run verifier
    (checked.1.toOption, checked.2)
  | verifier, .meanwhile change => (none, verifier.setHub (change verifier.hub))

/-- What happens elsewhere leaves the secrets that are issued. -/
def SecretsStay (verifier : Verifier) : PreconnectEvent → Prop
  | .verify _ => True
  | .meanwhile change => AgentGateway.KeepsSecrets verifier.hub (change verifier.hub)

/-- The verdict is that of a check with the secret that is stored now. -/
def VerdictAsStored (verifier : Verifier) : PreconnectEvent → Prop
  | .verify request => (preconnects mac verifier (.verify request)).1 =
      some (verifyUnder mac request (secretStored request verifier) verifier).1
  | .meanwhile _ => True

instance (verifier : Verifier) (event : PreconnectEvent) :
    Decidable (VerdictAsStored mac verifier event) :=
  match event with
  | .verify _ => inferInstanceAs (Decidable (_ = _))
  | .meanwhile _ => inferInstanceAs (Decidable True)

/-- Where it is kept that an Agent has no secret, it has none yet. -/
def NoneStays (verifier : Verifier) : PreconnectEvent → Prop
  | .verify request => ∀ cached ∈ cachedSecret request.agentUuid verifier,
      hasSecret cached.secret = false → hasSecret (secretStored request verifier) = false
  | .meanwhile _ => True

/-- The secrets that are kept are those that are stored. -/
def SecretsKept (verifier : Verifier) : Prop :=
  ∀ agentUuid cached secret, Members.own verifier.signingSecretCache agentUuid = some cached →
    cached.secret = some secret → secret ≠ [] →
      storedSecret verifier.hub.database agentUuid = some secret

variable {mac}

theorem settled_hub (request : RequestPreconnect) (verifier : Verifier) :
    (settled mac request verifier).2.hub = verifier.hub := by
  unfold settled
  split
  · split <;> rfl
  · rfl

theorem settled_replayGuard (request : RequestPreconnect) (verifier : Verifier) :
    (settled mac request verifier).2.replayGuard = verifier.replayGuard := by
  unfold settled
  split
  · split <;> rfl
  · rfl

/-- The verdict on a line is that of the secret that decides. -/
theorem verdict_eq (request : RequestPreconnect) (verifier : Verifier) :
    (preconnects mac verifier (.verify request)).1 =
      some (verifyUnder mac request (settled mac request verifier).1 verifier).1 := by
  rw [preconnects, run_verifyPreconnect]
  change some (verifyUnder mac request _ _).1 = _
  rw [verifyUnder, verifyUnder, settled_hub, settled_replayGuard]

/-- Without a secret every line is refused for that, and with one no line is. -/
theorem verifyUnder_noSecret_iff {secret : Option Text} :
    (verifyUnder mac request secret verifier).1 = .failed .noSecret ↔ hasSecret secret = false := by
  cases has : hasSecret secret with
  | false =>
    refine iff_of_true ?_ rfl
    rcases secret with _ | _ | ⟨unit, units⟩
    · rfl
    · rfl
    · cases has
  | true =>
    obtain ⟨text, rfl, present⟩ := AgentGateway.hasSecret_iff.mp has
    refine iff_of_false ?_ (by decide)
    exact verify_ne_noSecret mac "tunnel:pre" request.envelope present _ _

/-- What is kept of a secret that is stored is true. -/
theorem SecretsKept.keep (kept : SecretsKept verifier) (agentUuid : Text) :
    SecretsKept (keepSecret agentUuid (storedSecret verifier.hub.database agentUuid) verifier) := by
  intro uuid cached secret found same present
  by_cases here : uuid = agentUuid
  · subst here
    rw [keepSecret, Members.own_define, Option.some.injEq] at found
    subst found
    exact same
  · rw [keepSecret, Members.own_define_ne _ here] at found
    exact kept uuid cached secret found same present

theorem SecretsKept.settled (kept : SecretsKept verifier) (request : RequestPreconnect) :
    SecretsKept (settled mac request verifier).2 := by
  unfold TunnelService.settled
  split
  · split
    · exact kept
    · exact kept.keep request.agentUuid
  · exact kept.keep request.agentUuid

theorem SecretsKept.preconnects (kept : SecretsKept verifier) {event : PreconnectEvent}
    (stay : SecretsStay verifier event) : SecretsKept (preconnects mac verifier event).2 := by
  cases event with
  | verify request =>
    rw [TunnelService.preconnects, run_verifyPreconnect]
    exact kept.settled request
  | meanwhile change =>
    intro uuid cached secret found same present
    exact stay uuid secret present (kept uuid cached secret found same present)

/-- A verdict differs from that with the stored secret exactly if it rests on the absence of
one. -/
theorem verdictAsStored_iff (kept : SecretsKept verifier) (event : PreconnectEvent) :
    VerdictAsStored mac verifier event ↔ NoneStays verifier event := by
  cases event with
  | meanwhile change => rfl
  | verify request =>
    rw [VerdictAsStored, verdict_eq, NoneStays, settled, Option.some.injEq]
    cases found : cachedSecret request.agentUuid verifier with
    | none => exact iff_of_true rfl fun cached inside => absurd inside (Option.not_mem_none _)
    | some cached =>
      simp only [Option.mem_some_iff, forall_eq']
      by_cases decides : Decides mac request verifier cached
      · rw [if_pos decides]
        cases has : hasSecret cached.secret with
        | true =>
          obtain ⟨secret, same, present⟩ := AgentGateway.hasSecret_iff.mp has
          have inside := (Option.filter_eq_some_iff.mp found).1
          have stored := kept request.agentUuid cached secret inside same present
          refine iff_of_true ?_ fun none => by cases none
          rw [secretStored, stored, same]
        | false =>
          rw [imp_iff_right rfl, verifyUnder_noSecret_iff.mpr has, eq_comm,
            verifyUnder_noSecret_iff]
      · rw [if_neg decides]
        refine iff_of_true rfl fun none => absurd ?_ decides
        rw [Decides, verifyUnder_noSecret_iff.mpr none]
        decide

/-- While secrets that are issued stay, every verdict is that with the stored secret, exactly if
none rests on the absence of a secret that has been issued since. -/
theorem verdicts_as_stored_iff (mac : Mac) (hub : Hub) (events : List PreconnectEvent)
    (stay : Each (preconnects mac) SecretsStay { hub := hub } events) :
    Each (preconnects mac) (VerdictAsStored mac) { hub := hub } events ↔
      Each (preconnects mac) NoneStays { hub := hub } events := by
  refine along_agree_given (fun _ => SecretsKept) ?_ ?_ stay ?_
  · exact fun _ _ _ kept stays _ => kept.preconnects stays
  · exact fun _ _ event kept _ => verdictAsStored_iff kept event
  · exact fun _ _ _ found => by cases found

end Verification

/-- A registration leaves the secrets that are issued. -/
theorem keepsSecrets_registerAgent (platform : Platform) (ip : Text)
    (agentUuid agentVersion protocolVersion : Option Value) (hub : Hub) :
    AgentGateway.KeepsSecrets hub
      ((registerAgent platform ip agentUuid agentVersion protocolVersion).run hub).2 := by
  let uuid := agentUuid.getD .undefined
  let Keeps (after : Hub) : Prop := AgentGateway.KeepsSecrets hub after
  have unchanged : Keeps hub := AgentGateway.keepsSecrets_refl hub
  have known : wp (findExist platform uuid) (fun exist after => after = hub ∧
      ∀ row text, exist = some row → uuid = .string text →
        storedSecret hub.database text = row.agentSigningSecret) (fun _ => Keeps) hub := by
    rw [findExist]
    split
    · simp only [wp_bind, wp_orThrow, findAgent, wp_look]
      refine ⟨fun selects selected => ⟨trivial, ?_⟩, fun _ => unchanged⟩
      intro row text found same
      rw [same, uuidFilter, Option.some.injEq] at selected
      subst selected
      exact AgentGateway.storedSecret_of_findFirst found
    · exact ⟨rfl, fun _ _ nothing => by cases nothing⟩
  apply @run_of_wp _ _ _ _ Keeps
  rw [registerAgent, wp_bind]
  refine wp_mono _ ?_ (fun _ _ held => held) known
  rintro exist _ ⟨rfl, found⟩
  simp only [wp_bind, wp_orThrow]
  refine ⟨fun version _ => ⟨fun protocol _ => ?_, fun _ => unchanged⟩, fun _ => unchanged⟩
  split
  · rename_i row text named
    refine (wp_state _).mpr (AgentGateway.issuesOnly_updateRegistered platform ?_).keepsSecrets
    intro none
    rw [found row text rfl named, none]
  · exact unchanged
  · exact (wp_state _).mpr (AgentGateway.issuesOnly_createRegistered platform).keepsSecrets

/-- An Agent that has no secret yet. -/
def legacyHub : Hub :=
  { database := { agents := AgentGateway.legacyAgents }, now := AgentGateway.fixedTime }

/-- It registers, and gets a secret. -/
def agentEnrols : PreconnectEvent :=
  .meanwhile fun hub => ((registerAgent AgentGateway.countedPlatform "127.0.0.1"
    (some (.string "agent")) (some (.string "1.0.0"))
    (some (.number (.finite (Decimal.ofInt 1))))).run hub).2

/-- The line of an Agent, with its signature. -/
def signedLine (agentUuid secret nonce : Text) (timestamp : ℤ) : RequestPreconnect where
  agentUuid := agentUuid
  timestamp := .finite (Decimal.ofInt timestamp)
  nonce := nonce
  signature := digest fixedMac "tunnel:pre" (.finite (Decimal.ofInt timestamp)) nonce
    (.object [("agentUuid", .string agentUuid)]) secret

/-- A line with the secret that the Agent gets. -/
def agentLine : PreconnectEvent := .verify (signedLine "agent" "a" "nonce" AgentGateway.fixedTime)


theorem secretsStay_agentEnrols (verifier : Verifier) : SecretsStay verifier agentEnrols :=
  keepsSecrets_registerAgent _ _ _ _ _ verifier.hub

/-- After the Agent has got its secret, its line is checked with it. -/
theorem verdicts_as_stored_iff_enrolled :
    Each (preconnects fixedMac) (VerdictAsStored fixedMac) { hub := legacyHub }
        [agentEnrols, agentLine] ↔
      Each (preconnects fixedMac) NoneStays { hub := legacyHub } [agentEnrols, agentLine] :=
  verdicts_as_stored_iff fixedMac legacyHub [agentEnrols, agentLine]
    ⟨secretsStay_agentEnrols _, trivial, trivial⟩

/-- A line comes, then the Agent gets its secret, and the same line comes again: it is refused as
if there was none. -/
theorem not_verdicts_as_stored_enrolled :
    Each (preconnects fixedMac) SecretsStay { hub := legacyHub }
        [agentLine, agentEnrols, agentLine] ∧
      ¬ Each (preconnects fixedMac) (VerdictAsStored fixedMac) { hub := legacyHub }
        [agentLine, agentEnrols, agentLine] := by
  refine ⟨⟨trivial, secretsStay_agentEnrols _, trivial, trivial⟩, ?_⟩
  rintro ⟨-, -, same, -⟩
  revert same
  decide +kernel

end TunnelService

end OpticsHub
