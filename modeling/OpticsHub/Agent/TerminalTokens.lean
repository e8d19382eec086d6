import OpticsHub.Agent.ConsoleAccess
import OpticsHub.Async.Once

/-!
# Tokens for terminals

A token opens one terminal. The handler looks whether its identifier has been used up, then asks
the database whether the user may reach the Agent, and only then uses the identifier up. Two
events with one token that both look before either uses it up open two terminals. A timer forgets
an identifier when the token expires, so an event that verified the token before that, and goes
on after it, finds nothing either. The law here is that nothing else goes wrong: where every
identifier is still unused and alive when it is used up, no token opens two terminals.
-/
namespace OpticsHub

open Script Async Program Machine

namespace ConsoleGateway

open AgentService AgentGateway WorkspaceService

/-! ## Events, time and timers -/

/-- What happens between the actions of the consoles. The rest of the Hub does anything but to
the identifiers of the tokens and their timers, time goes on, and a timer fires. -/
inductive TerminalEvent where
  | elsewhere (change : Hub → Hub)
  | wait (milliseconds : ℕ)
  | timer (index : ℕ)

/-- The timer of an identifier fires once its time has come. -/
def fireTokenTimer (index : ℕ) (hub : Hub) : Hub :=
  match hub.terminalTokenTimers[index]? with
  | some (tokenId, due) =>
    if due ≤ hub.now then
      { hub with
        consumedTerminalTokens := hub.consumedTerminalTokens.filter fun other => other != tokenId
        terminalTokenTimers := hub.terminalTokenTimers.eraseIdx index }
    else hub
  | none => hub

def terminalEvent (hub : Hub) : TerminalEvent → Unit × Hub
  | .elsewhere change => ((), { change hub with
      consumedTerminalTokens := hub.consumedTerminalTokens
      terminalTokenTimers := hub.terminalTokenTimers
      now := hub.now })
  | .wait milliseconds => ((), { hub with now := hub.now + milliseconds })
  | .timer index => ((), fireTokenTimer index hub)

section Machine

variable (platform : Platform) (verifyToken : Value → ℤ → Option (Members Value))

/-- Events of consoles that interleave, with the time and the timers of the tokens. -/
abbrev terminals : Transition (Config ConsoleCall Hub Failure ConsoleReply)
    (Move ConsoleCall TerminalEvent) (Shown Unit Hub) :=
  observed (consoleProgram platform verifyToken) terminalEvent

end Machine

/-! ## Tokens -/

/-- The identifier of a token. -/
def tokenId (claims : Members Value) : Option Text :=
  match member claims Auth.jwtIdClaim with
  | .string text => some text
  | _ => none

/-- The second from which a token has expired. -/
def expiry (claims : Members Value) : Option ℤ :=
  match member claims Auth.expiresAtClaim with
  | .number (.finite seconds) => seconds.toInt?
  | _ => none

/-- What the tokens of the Hub are relied on for. A token that the library verifies has the claims
that it decodes to. The Hub gives every token for a terminal a whole second at which it expires,
and an identifier of its own. -/
structure Issued (decode : Value → Option (Members Value))
    (verifyToken : Value → ℤ → Option (Members Value)) : Prop where
  decodes : ∀ token now claims, verifyToken token now = some claims → decode token = some claims
  expires : ∀ token now claims, verifyToken token now = some claims →
    isTerminalPurpose (member claims Auth.purposeClaim) = true → (expiry claims).isSome = true
  unique : ∀ token now claims token' now' claims', verifyToken token now = some claims →
    verifyToken token' now' = some claims' →
    isTerminalPurpose (member claims Auth.purposeClaim) = true →
    isTerminalPurpose (member claims' Auth.purposeClaim) = true →
    tokenId claims = tokenId claims' → claims = claims'

section Tokens

variable (decode : Value → Option (Members Value))
  (verifyToken : Value → ℤ → Option (Members Value))

/-- The claims of the token that an event presents. -/
def presented (call : ConsoleCall) : Option (Members Value) :=
  (packetMembers call.payload).bind fun members => decode (member members "token")

/-- The identifier of the token that has opened a terminal on an Agent. -/
def openedToken (call : ConsoleCall) (reply : ConsoleReply) : Option Text :=
  match call.kind, reply with
  | .terminalOpen, .opened _ => (presented decode call).bind tokenId
  | _, _ => none

/-- An identifier has not been used up and its token is alive, for no longer than a timer can
wait. -/
def Unused (tokenId : Text) (expiresAt : ℤ) (hub : Hub) : Prop :=
  tokenId ∉ hub.consumedTerminalTokens ∧ tokenId ∉ hub.terminalTokenTimers.map Prod.fst ∧
    hub.now < expiresAt * 1000 ∧ expiresAt * 1000 - hub.now < 2 ^ 31

/-- An event that has verified its token, has looked for its identifier and has been allowed to
reach the Agent still finds the identifier unused. -/
def FindsUnused (call : ConsoleCall) (seen : List Hub) (hub : Hub) : Prop :=
  call.kind = .terminalOpen → seen.length = 3 → ∀ claims ∈ presented decode call,
    ∀ id ∈ tokenId claims, ∀ expiresAt ∈ expiry claims, Unused id expiresAt hub

/-- The Hub has issued a token with an identifier, which expires at a second. -/
def IsToken (id : Text) (expiresAt : ℤ) : Prop :=
  ∃ token now claims, verifyToken token now = some claims ∧
    isTerminalPurpose (member claims Auth.purposeClaim) = true ∧ tokenId claims = some id ∧
      expiry claims = some expiresAt

/-- An identifier is used up and is not forgotten before its token expires, or that has
expired. -/
def UsedUp (id : Text) (hub : Hub) : Prop :=
  (id ∈ hub.consumedTerminalTokens ∧ ∀ due, (id, due) ∈ hub.terminalTokenTimers →
      ∀ expiresAt, IsToken verifyToken id expiresAt → expiresAt * 1000 ≤ due) ∨
    ∀ expiresAt, IsToken verifyToken id expiresAt → expiresAt * 1000 ≤ hub.now

/-- The last action of an event that opens a terminal uses the identifier up. -/
def Opens (call : ConsoleCall) (seen : List Hub) (_ : Hub) (id : Text) : Prop :=
  call.kind = .terminalOpen ∧ seen.length = 3 ∧ (presented decode call).bind tokenId = some id

end Tokens

instance (tokenId : Text) (expiresAt : ℤ) (hub : Hub) : Decidable (Unused tokenId expiresAt hub) :=
  inferInstanceAs (Decidable (_ ∧ _ ∧ _ ∧ _))

instance (decode : Value → Option (Members Value)) (call : ConsoleCall) (seen : List Hub)
    (hub : Hub) : Decidable (FindsUnused decode call seen hub) :=
  inferInstanceAs (Decidable (_ → _ → _))

/-! ## What is used up stays used up -/

section Steps

variable {verifyToken : Value → ℤ → Option (Members Value)} {before after : Hub}

/-- The identifiers, their timers and the time are left alone. -/
def KeepsTokens (before after : Hub) : Prop :=
  after.consumedTerminalTokens = before.consumedTerminalTokens ∧
    after.terminalTokenTimers = before.terminalTokenTimers ∧ after.now = before.now

theorem KeepsTokens.refl (hub : Hub) : KeepsTokens hub hub := ⟨rfl, rfl, rfl⟩

theorem KeepsTokens.staysUsed (keeps : KeepsTokens before after) :
    StaysUsed (UsedUp verifyToken) before after := by
  intro id used
  rw [UsedUp, keeps.1, keeps.2.1, keeps.2.2]
  exact used

/-- The timer of an identifier that is used up does not fire before its token expires. -/
theorem staysUsed_fireTokenTimer (index : ℕ) (hub : Hub) :
    StaysUsed (UsedUp verifyToken) hub (fireTokenTimer index hub) := by
  rw [fireTokenTimer]
  split
  · rename_i id due found
    split
    · rename_i passed
      rintro other (⟨consumed, lasts⟩ | expired)
      · by_cases same : other = id
        · refine .inr fun expiresAt token => ?_
          subst same
          exact (lasts due (List.mem_of_getElem? found) expiresAt token).trans passed
        · refine .inl ⟨List.mem_filter.mpr ⟨consumed, by simpa using same⟩, fun due inside => ?_⟩
          exact lasts due (List.mem_of_mem_eraseIdx inside)
      · exact .inr expired
    · exact fun _ used => used
  · exact fun _ used => used

/-- Nothing between the actions of the consoles makes a used identifier unused. -/
theorem staysUsed_terminalEvent (hub : Hub) (event : TerminalEvent) :
    StaysUsed (UsedUp verifyToken) hub (terminalEvent hub event).2 := by
  cases event with
  | elsewhere change => exact fun _ used => used
  | wait milliseconds =>
    rintro id (consumed | expired)
    · exact .inl consumed
    · refine .inr fun expiresAt token => (expired expiresAt token).trans ?_
      exact Int.le_add_of_nonneg_right (Int.natCast_nonneg milliseconds)
  | timer index => exact staysUsed_fireTokenTimer index hub

end Steps

/-! ## What the handlers do -/

section Handlers

variable {platform : Platform} {decode : Value → Option (Members Value)}
  {verifyToken : Value → ℤ → Option (Members Value)}

theorem keepsTokens_passOn (agentUuid : Value) (event : Text) (payload : Members Value)
    (hub : Hub) : KeepsTokens hub (passOn agentUuid event payload hub).2 := by
  cases agentUuid with
  | string uuid =>
    rw [passOn, sendToAgent_frame]
    exact KeepsTokens.refl hub
  | _ => exact KeepsTokens.refl hub

theorem always_canAccessAgent (userIndex : Option Int32) (agentUuid : Value)
    (workspaceIndex : Option Number) :
    Always KeepsTokens (canAccessAgent platform userIndex agentUuid workspaceIndex) := by
  rw [canAccessAgent]
  split
  · exact always_pure _
  · split
    · exact (always_orThrow _ _).bind fun _ => (always_fromExcept _).bind fun _ =>
        always_look KeepsTokens.refl _
    · exact always_pure _

theorem always_canAccessService (userIndex : Option Int32) (workspaceIndex : Number)
    (agentUuid : Value) (serviceIndex : Number) :
    Always KeepsTokens
      (canAccessService platform userIndex workspaceIndex agentUuid serviceIndex) := by
  rw [canAccessService]
  split
  · exact always_pure _
  · split
    · exact (always_orThrow _ _).bind fun _ => (always_fromExcept _).bind fun _ =>
        (always_fromExcept _).bind fun _ => always_look KeepsTokens.refl _
    · exact always_pure _

theorem keepsTokens_requestMetrics (client : ℕ) (agentUuid : Value) (hub : Hub) :
    KeepsTokens hub (requestMetrics platform client agentUuid hub).2 := by
  have passed := keepsTokens_passOn agentUuid "system-metrics-request"
    [("requestId", .string (platform.randomUuid hub.drawn))] { hub with drawn := hub.drawn + 1 }
  simp only [requestMetrics]
  generalize passOn agentUuid _ _ _ = delivered at passed ⊢
  obtain ⟨sent, after⟩ := delivered
  cases sent <;> cases agentUuid <;> exact passed

/-- The other events leave the tokens alone. -/
theorem always_consoleProgram {call : ConsoleCall} (other : call.kind ≠ .terminalOpen) :
    Always KeepsTokens (consoleProgram platform verifyToken call) := by
  obtain ⟨kind, client, userIndex, payload⟩ := call
  cases kind with
  | command =>
    refine (always_orThrow _ _).bind fun members =>
      (always_canAccessAgent _ _ _).bind fun allowed => ?_
    cases allowed with
    | true => exact always_step fun hub => keepsTokens_passOn _ _ _ hub
    | false => exact always_pure _
  | subscribeLog =>
    refine (always_orThrow _ _).bind fun members => (always_orThrow _ _).bind fun _ =>
      (always_orThrow _ _).bind fun _ => (always_canAccessService _ _ _ _).bind fun allowed => ?_
    cases allowed with
    | true =>
      exact (always_look KeepsTokens.refl _).bind fun _ =>
        always_step fun hub => keepsTokens_passOn _ _ _ hub
    | false => exact always_pure _
  | unsubscribeLog =>
    refine (always_orThrow _ _).bind fun members => (always_orThrow _ _).bind fun _ =>
      (always_canAccessAgent _ _ _).bind fun allowed => ?_
    cases allowed with
    | true => exact always_step fun hub => keepsTokens_passOn _ _ _ hub
    | false => exact always_pure _
  | agentMetricsRequest =>
    refine (always_orThrow _ _).bind fun members =>
      (always_canAccessAgent _ _ _).bind fun allowed => ?_
    cases allowed with
    | true => exact always_step fun hub => keepsTokens_requestMetrics client _ hub
    | false => exact always_pure _
  | terminalOpen => exact absurd rfl other

/-- A token is used up with a timer for its identifier. -/
theorem openTerminal_tokens (client : ℕ) (id : Text) (claims members : Members Value) (hub : Hub) :
    KeepsTokens
      { hub with
        consumedTerminalTokens := hub.consumedTerminalTokens ++ [id]
        terminalTokenTimers := hub.terminalTokenTimers ++
          [(id, hub.now + tokenLifetimeMs claims hub.now)] }
      (openTerminal platform client id claims members hub).2 := by
  have passed := keepsTokens_passOn (member claims "agentUuid") "terminal-open"
    [("sessionId", .string (platform.randomUuid hub.drawn)),
      ("cols", intValue (clampDimension (member members "cols") 80)),
      ("rows", intValue (clampDimension (member members "rows") 24))]
    { hub with
      drawn := hub.drawn + 1
      consumedTerminalTokens := hub.consumedTerminalTokens ++ [id]
      terminalTokenTimers := hub.terminalTokenTimers ++
        [(id, hub.now + tokenLifetimeMs claims hub.now)] }
  simp only [openTerminal]
  generalize passOn (member claims "agentUuid") _ _ _ = delivered at passed ⊢
  obtain ⟨sent, after⟩ := delivered
  cases sent <;> cases member claims "agentUuid" <;> exact passed

/-- The timer of a token that is alive waits until it expires. -/
theorem expiry_le_lifetime {claims : Members Value} {expiresAt now : ℤ}
    (expires : expiry claims = some expiresAt) (short : expiresAt * 1000 - now < 2 ^ 31) :
    expiresAt * 1000 ≤ now + tokenLifetimeMs claims now := by
  unfold expiry at expires
  split at expires
  · rename_i seconds given
    have value := Decimal.toRat_of_toInt? expires
    have delay : max (1000 : ℚ) (seconds.toRat * 1000 - now) =
        ((max 1000 (expiresAt * 1000 - now) : ℤ) : ℚ) := by
      rw [value]
      push_cast
      rfl
    have range : (1 : ℚ) ≤ ((max 1000 (expiresAt * 1000 - now) : ℤ) : ℚ) ∧
        ((max 1000 (expiresAt * 1000 - now) : ℤ) : ℚ) ≤ 2 ^ 31 - 1 := by
      constructor
      · exact_mod_cast (by omega : (1 : ℤ) ≤ max 1000 (expiresAt * 1000 - now))
      · have bound : max 1000 (expiresAt * 1000 - now) ≤ 2 ^ 31 - 1 := by omega
        exact_mod_cast bound
    simp only [tokenLifetimeMs, given, Value.toNumber]
    rw [delay, timerDelay, if_pos range, Int.floor_intCast]
    omega
  · cases expires

/-- What no action but the last of an event for a terminal does to the tokens. -/
theorem uses_of_keeps {call : ConsoleCall} {seen : List Hub} {before after : Hub}
    (keeps : KeepsTokens before after) (early : call.kind = .terminalOpen → seen.length ≠ 3) :
    Uses (UsedUp verifyToken) (Opens decode) call seen before after :=
  ⟨keeps.staysUsed, fun _ opens => absurd opens.2.1 (early opens.1)⟩

/-- Using up an identifier that is unused. -/
theorem uses_openTerminal (issued : Issued decode verifyToken) {call : ConsoleCall} {client : ℕ}
    {id : Text} {claims members : Members Value} {seen : List Hub} {hub : Hub} {token : Value}
    {time : ℤ} (verified : verifyToken token time = some claims)
    (purpose : isTerminalPurpose (member claims Auth.purposeClaim) = true)
    (named : tokenId claims = some id) (shown : presented decode call = some claims)
    (unused : ∀ expiresAt ∈ expiry claims, Unused id expiresAt hub) :
    Uses (UsedUp verifyToken) (Opens decode) call seen hub
      (openTerminal platform client id claims members hub).2 := by
  obtain ⟨expiresAt, expires⟩ := Option.isSome_iff_exists.mp (issued.expires _ _ _ verified purpose)
  obtain ⟨-, idle, -, short⟩ := unused expiresAt expires
  obtain ⟨consumed, timers, now⟩ := @openTerminal_tokens platform client id claims members hub
  have same : ∀ other, IsToken verifyToken id other → other = expiresAt := by
    rintro other ⟨token', time', claims', verified', purpose', named', expires'⟩
    obtain rfl := issued.unique _ _ _ _ _ _ verified verified' purpose purpose'
      (named.trans named'.symm)
    exact Option.some.inj (expires'.symm.trans expires)
  have usedUp : UsedUp verifyToken id
      (openTerminal platform client id claims members hub).2 := by
    refine .inl ⟨by rw [consumed]; simp, fun due inside other token => ?_⟩
    rw [timers] at inside
    rcases List.mem_append.mp inside with before | here
    · exact absurd (List.mem_map_of_mem before) idle
    · obtain ⟨-, rfl⟩ := Prod.mk.inj (List.mem_singleton.mp here)
      rw [same other token]
      exact expiry_le_lifetime expires short
  refine ⟨?_, ?_⟩
  · intro other used
    by_cases equal : other = id
    · exact equal ▸ usedUp
    · rcases used with ⟨inside, lasts⟩ | expired
      · refine .inl ⟨by rw [consumed]; exact List.mem_append_left _ inside, fun due timer => ?_⟩
        rw [timers] at timer
        rcases List.mem_append.mp timer with before | here
        · exact lasts due before
        · exact absurd (Prod.mk.inj (List.mem_singleton.mp here)).1 equal
      · exact .inr (by rw [now]; exact expired)
  · rintro other ⟨-, -, opened⟩
    rw [shown, Option.bind_some, named] at opened
    exact Option.some.inj opened ▸ usedUp

/-- A refusal claims nothing. -/
theorem freshlySpent_refused {call : ConsoleCall} {seen : List Hub} (error : String) :
    FreshlySpent (UsedUp verifyToken) (openedToken decode) (Opens decode) call (.refused error)
      seen := by
  intro id opened
  unfold openedToken at opened
  split at opened
  · rename_i same
    cases same
  · cases opened

/-- The check of the Agent is at most one action, and one if it allows. -/
theorem heeds_canAccessAgent_length {call : ConsoleCall} {seen : List Hub}
    {agentUuid : Value} {workspaceIndex : Option Number} {fine : List Hub → Hub → Prop}
    (early : call.kind = .terminalOpen → seen.length ≠ 3) :
    Heeds fine (Uses (UsedUp verifyToken) (Opens decode) call)
      (fun allowed later => allowed = true → later.length = seen.length + 1) seen
      (canAccessAgent platform call.userIndex agentUuid workspaceIndex) := by
  rw [canAccessAgent]
  split
  · exact heeds_pure fun allowed => absurd allowed Bool.false_ne_true
  · split
    · apply Heeds.bind
      apply heeds_orThrow
      intro selects _
      apply Heeds.bind
      apply heeds_fromExcept
      intro inWorkspace _
      apply heeds_look fun hub => uses_of_keeps (KeepsTokens.refl hub) early
      intro hub _ _
      rw [List.length_append, List.length_singleton]
    · exact heeds_pure fun allowed => absurd allowed Bool.false_ne_true

/-- A verified token is used up only when it is unused. -/
theorem heeds_useTerminalToken_once (issued : Issued decode verifyToken) {call : ConsoleCall}
    {claims members : Members Value} {seen : List Hub} {token : Value} {time : ℤ}
    (kind : call.kind = .terminalOpen) (met : seen.length = 1)
    (verified : verifyToken token time = some claims)
    (purpose : isTerminalPurpose (member claims Auth.purposeClaim) = true)
    (shown : presented decode call = some claims) :
    Heeds (FindsUnused decode call) (Uses (UsedUp verifyToken) (Opens decode) call)
      (FreshlySpent (UsedUp verifyToken) (openedToken decode) (Opens decode) call) seen
      (useTerminalToken platform call.client call.userIndex members claims) := by
  apply Heeds.bind
  apply heeds_orThrow
  intro subject _
  split
  · rename_i unit units given
    have named : tokenId claims = some (unit :: units) := by rw [tokenId, given]
    apply Heeds.bind
    apply heeds_look fun hub => uses_of_keeps (KeepsTokens.refl hub) fun _ => by omega
    intro looked _
    split
    · exact heeds_pure (freshlySpent_refused _)
    · split
      · apply Heeds.bind
        have two : (seen ++ [looked]).length = 2 := by simp [met]
        refine (heeds_canAccessAgent_length fun _ => by omega).mono fun allowed later _ length => ?_
        cases allowed with
        | false => exact heeds_pure (freshlySpent_refused _)
        | true =>
          have three : later.length = 3 := by rw [length rfl, two]
          refine heeds_step fun hub unused => ?_
          have fresh := fun expiresAt expires =>
            unused kind three claims shown _ named expiresAt expires
          refine ⟨uses_openTerminal issued verified purpose named shown fresh, ?_⟩
          intro id opened
          have same : (presented decode call).bind tokenId = some id := by
            unfold openedToken at opened
            split at opened
            · exact opened
            · cases opened
          have equal : id = unit :: units := by
            rw [shown, Option.bind_some, named] at same
            exact (Option.some.inj same).symm
          refine ⟨later, hub, rfl, ?_, kind, three, same⟩
          subst equal
          obtain ⟨expiresAt, expires⟩ :=
            Option.isSome_iff_exists.mp (issued.expires _ _ _ verified purpose)
          obtain ⟨absent, -, alive, -⟩ := fresh expiresAt expires
          rintro (⟨consumed, -⟩ | expired)
          · exact absent consumed
          · have passed := expired expiresAt ⟨_, _, _, verified, purpose, named, expires⟩
            omega
      · exact heeds_pure (freshlySpent_refused _)
  · exact heeds_pure (freshlySpent_refused _)

theorem heeds_consoleProgram_once (issued : Issued decode verifyToken) (call : ConsoleCall) :
    Heeds (FindsUnused decode call) (Uses (UsedUp verifyToken) (Opens decode) call)
      (FreshlySpent (UsedUp verifyToken) (openedToken decode) (Opens decode) call) []
      (consoleProgram platform verifyToken call) := by
  by_cases kind : call.kind = .terminalOpen
  · rw [consoleProgram, kind]
    apply Heeds.tryCatch
    · apply Heeds.bind
      apply heeds_orThrow
      intro members given
      apply Heeds.bind
      apply heeds_look fun hub => uses_of_keeps (KeepsTokens.refl hub) fun _ => by decide
      intro hub _
      apply Heeds.bind
      apply heeds_orThrow
      intro claims verified
      apply Heeds.bind
      apply heeds_require
      intro purpose
      refine heeds_useTerminalToken_once issued kind rfl verified purpose ?_
      rw [presented, given, Option.bind_some]
      exact issued.decodes _ _ _ verified
    · exact fun _ _ => heeds_pure (freshlySpent_refused _)
  · refine ((always_consoleProgram kind).heeds fun seen before after keeps =>
      uses_of_keeps keeps fun same => absurd same kind).mono fun value later _ _ id opened => ?_
    unfold openedToken at opened
    split at opened
    · rename_i same
      exact absurd same kind
    · cases opened

end Handlers

/-! ## Runs -/

/-- In every run of the events of the consoles, no token opens two terminals, if every event that
is about to use its token up finds the identifier unused. -/
theorem terminal_tokens_once (platform : Platform) {decode : Value → Option (Members Value)}
    {verifyToken : Value → ℤ → Option (Members Value)} (issued : Issued decode verifyToken)
    (start : Hub) (moves : List (Move ConsoleCall TerminalEvent))
    (unused : Along (terminals platform verifyToken) (Met (FindsUnused decode)) []
      { state := start } moves) :
    ClaimedOnce (openedToken decode)
      (final (terminals platform verifyToken) { state := start } moves) :=
  claimed_once_of_spending (heeds_consoleProgram_once issued)
    (fun hub event => staysUsed_terminalEvent hub event) start moves unused

/-! ## Two events with one token -/

/-- The Agent is linked to the workspace of the first owner and connected. -/
def linkedTerminalHub : Hub := final (serve fixedPlatform) twoOwners linkingCalls

/-- The claims of a token for a terminal of the first owner. -/
def terminalClaims : Members Value :=
  [(Auth.purposeClaim, .string Auth.TokenPurpose.terminalSsh.text), ("agentUuid", .string "U"),
    (Auth.expiresAtClaim, intValue 120), (Auth.subjectClaim, .string "1"),
    (Auth.jwtIdClaim, .string "J")]

/-- A library that knows one token. -/
def decodeIssued : Value → Option (Members Value)
  | .string text => if text == "T" then some terminalClaims else none
  | _ => none

/-- The token is verified for two minutes. -/
def verifyIssued (token : Value) (now : ℤ) : Option (Members Value) :=
  (decodeIssued token).filter fun _ => decide (now / 1000 < 120)

theorem decodeIssued_eq {token : Value} {claims : Members Value}
    (decoded : decodeIssued token = some claims) : claims = terminalClaims := by
  unfold decodeIssued at decoded
  split at decoded
  · split at decoded
    · exact (Option.some.inj decoded).symm
    · cases decoded
  · cases decoded

theorem issued_verifyIssued : Issued decodeIssued verifyIssued where
  decodes _ _ _ verified := (Option.filter_eq_some_iff.mp verified).1
  expires _ _ _ verified _ := by
    rw [decodeIssued_eq (Option.filter_eq_some_iff.mp verified).1]
    decide +kernel
  unique _ _ _ _ _ _ verified verified' _ _ _ := by
    rw [decodeIssued_eq (Option.filter_eq_some_iff.mp verified).1,
      decodeIssued_eq (Option.filter_eq_some_iff.mp verified').1]

/-- An event of the first owner that presents the token. -/
def presentsToken (client : ℕ) : ConsoleCall where
  kind := .terminalOpen
  client := client
  userIndex := some 1
  payload := .object [("token", .string "T")]

/-- The second event comes when the first is over. -/
def opensInTurn : List (Move ConsoleCall TerminalEvent) :=
  [.start (presentsToken 0), .resume 0, .resume 0, .resume 0, .resume 0,
    .event (.wait 60000), .start (presentsToken 1), .resume 1, .resume 1]

theorem terminal_tokens_once_opensInTurn :
    ClaimedOnce (openedToken decodeIssued)
      (final (terminals fixedPlatform verifyIssued) { state := linkedTerminalHub } opensInTurn) :=
  terminal_tokens_once fixedPlatform issued_verifyIssued linkedTerminalHub opensInTurn
    (by decide +kernel)

/-- Both events look for the identifier before either uses it up. -/
def opensTogether : List (Move ConsoleCall TerminalEvent) :=
  [.start (presentsToken 0), .start (presentsToken 1), .resume 0, .resume 0, .resume 1, .resume 1,
    .resume 0, .resume 0, .resume 1, .resume 1]

/-- The identifiers of the tokens that the events have opened a terminal with. -/
def openings (decode : Value → Option (Members Value))
    (config : Config ConsoleCall Hub Failure ConsoleReply) : List (Option Text) :=
  config.threads.map fun thread =>
    (thread.result.bind Except.toOption).bind (openedToken decode thread.call)

theorem claims_of_openings {decode : Value → Option (Members Value)}
    {config : Config ConsoleCall Hub Failure ConsoleReply} {index : ℕ} {id : Text}
    (opened : (openings decode config)[index]? = some (some id)) :
    ∃ thread, config.threads[index]? = some thread ∧ Claims (openedToken decode) id thread := by
  rw [openings, List.getElem?_map, Option.map_eq_some_iff] at opened
  obtain ⟨thread, found, claimed⟩ := opened
  obtain ⟨reply, returned, token⟩ := Option.bind_eq_some_iff.mp claimed
  obtain ⟨result, ended, value⟩ := Option.bind_eq_some_iff.mp returned
  refine ⟨thread, found, reply, ?_, token⟩
  cases result with
  | ok reply' =>
    cases value
    exact ended
  | error failure => cases value

/-- One token opens two terminals. -/
theorem not_terminal_tokens_once :
    ¬ ClaimedOnce (openedToken decodeIssued)
      (final (terminals fixedPlatform verifyIssued) { state := linkedTerminalHub }
        opensTogether) := by
  intro once
  have opened : openings decodeIssued (final (terminals fixedPlatform verifyIssued)
      { state := linkedTerminalHub } opensTogether) =
        [some (Text.ofString "J"), some (Text.ofString "J")] := by decide +kernel
  obtain ⟨first, found, claimed⟩ := @claims_of_openings _ _ 0 "J" (by rw [opened]; rfl)
  obtain ⟨second, found', claimed'⟩ := @claims_of_openings _ _ 1 "J" (by rw [opened]; rfl)
  exact absurd (once 0 1 first second "J" found found' claimed claimed') (by decide)

end ConsoleGateway

end OpticsHub
