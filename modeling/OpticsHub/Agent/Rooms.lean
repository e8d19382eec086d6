import OpticsHub.Agent.Handshakes
import OpticsHub.Agent.TerminalRelays
import OpticsHub.Async.Guarantees
import OpticsHub.Net.Groups

/-!
# The rooms of the consoles

What happens in a workspace is told to the sockets in its room. A console gets into the room when it
subscribes to the workspace, or to the log of a service there, after the database has said that its
user owns the workspace. Nothing takes a socket out of a room but its end.

A socket is known to the gateway by the user whom its token names, from when the token is verified.
Tokens carry that user as an integer.
-/
namespace OpticsHub

open Script Async Program Machine Net

namespace ConsoleGateway

namespace Rooms

open AgentGateway AgentService WorkspaceService

/-- The Hub, the users of the sockets of consoles, and who is in which room. -/
structure RoomState where
  hub : Hub
  userIndex : ℕ → Option Int32 := fun _ => none
  sockets : Groups Text ℕ := {}

abbrev RoomProgram := Program RoomState Failure

/-- A program on the rest of the Hub. -/
def onHub {α : Type} (program : HubProgram α) : RoomProgram α :=
  program.zoom RoomState.hub fun hub state => { state with hub := hub }

/-! ## Rooms -/

def workspaceRoom (workspaceIndex : Number) : Text := "workspace:" ++ workspaceIndex.text

/-- The room of a workspace that the database knows. -/
def roomOf (workspaceIndex : ℕ) : Text :=
  workspaceRoom (.finite (Decimal.ofInt workspaceIndex))

/-- `client.join`; a socket that has been closed joins nothing. -/
def join (client : ℕ) (room : Text) (state : RoomState) : RoomState :=
  { state with sockets := state.sockets.join room client }

def emitToWorkspace (workspaceIndex : ℕ) (event : Text) (payload : Value) (state : RoomState) :
    List Transmission :=
  (state.sockets.members (roomOf workspaceIndex)).map fun client =>
    .toConsole client event payload

/-! ## Sockets -/

/-- A socket connects. -/
def connect (client : ℕ) (state : RoomState) : RoomState :=
  { state with
    userIndex := Function.update state.userIndex client none
    sockets := state.sockets.enter client }

/-- A socket is closed, by either side: it leaves its rooms, and the handler is called. -/
def disconnect (client : ℕ) (state : RoomState) : RoomState :=
  { state with
    hub := (handleDisconnect client state.hub).2
    sockets := state.sockets.leave client }

/-- What the handshake makes of a socket. -/
def settle (client : ℕ) (socket : ConsoleSocket) (state : RoomState) : RoomState :=
  if socket.connected then
    { state with
      userIndex := Function.update state.userIndex client (Auth.valueIndex socket.userIndex) }
  else disconnect client state

/-- The token is verified at some time. -/
def handleConnection (verifyAsync : Text → ℤ → Option Value) (client : ℕ)
    (cookieHeader : Option Text) : RoomProgram ConsoleReply :=
  atomically fun state =>
    match ConsoleGateway.handleConnection (fun token => verifyAsync token state.hub.now)
        cookieHeader {} with
    | (.ok (), socket) => (.ok .none, settle client socket state)
    | (.error failure, _) => (.error failure, state)

/-! ## Subscriptions -/

/-- A living workspace of a user. -/
def accessibleWorkspace (user : Int32) (workspaceIndex : ℤ) (database : Database) :
    Option WorkspaceRow :=
  database.workspaces.findFirst fun workspace =>
    (workspace.workspaceIndex : ℤ) == workspaceIndex && workspace.workspaceOwner == user &&
      workspace.workspaceDeletedAt.isNone

def canAccessWorkspace (userIndex : Option Int32) (workspaceIndex : Number) : HubProgram Bool :=
  match signedIn userIndex with
  | none => pure false
  | some user =>
    if isFinite workspaceIndex then do
      let workspaceIndex ← fromExcept (intColumn workspaceIndex)
      look fun hub => (accessibleWorkspace user workspaceIndex hub.database).isSome
    else pure false

/-- The linked Agents of a workspace. -/
def linkedAgents (workspaceIndex : ℤ) (database : Database) : List AgentRow :=
  database.agents.rows.filter fun agent =>
    agent.agentParentWorkspace.any (fun index => (index : ℤ) == workspaceIndex) &&
      agent.agentConnection == .linked && agent.agentDeletedAt.isNone

/-- Ask Agents for the status of their containers, one after another. -/
def requestStatus (agents : List AgentRow) (hub : Hub) : Hub :=
  agents.foldl (fun hub agent => (sendToAgent agent.agentUuid
    (.forConsole "command" (.object [("command", .string "GET_CONTAINER_STATUS")])) hub).2) hub

section Handlers

variable (platform : Platform)

def handleSubscribeWorkspace (client : ℕ) (payload : Value) : RoomProgram ConsoleReply := do
  let members ← orThrow (packetMembers payload) .internal
  let workspaceIndex ← orThrow (member members "workspaceIndex").toNumber .internal
  let userIndex ← look fun state => state.userIndex client
  let allowed ← onHub (canAccessWorkspace userIndex workspaceIndex)
  if allowed then do
    step fun state => ((), join client (workspaceRoom workspaceIndex) state)
    let column ← fromExcept (intColumn workspaceIndex)
    let agents ← look fun state => linkedAgents column state.hub.database
    step fun state => (.none, { state with hub := requestStatus agents state.hub })
  else pure .none

def handleSubscribeLog (client : ℕ) (payload : Value) : RoomProgram ConsoleReply := do
  let members ← orThrow (packetMembers payload) .internal
  let workspaceIndex ← orThrow (member members "workspaceIndex").toNumber .internal
  let serviceIndex ← orThrow (member members "serviceIndex").toNumber .internal
  let userIndex ← look fun state => state.userIndex client
  let allowed ← onHub (canAccessService platform userIndex workspaceIndex
    (member members "agentUuid") serviceIndex)
  if allowed then do
    step fun state => ((), join client (workspaceRoom workspaceIndex) state)
    onHub (step fun hub => (.none,
      (passOn (member members "agentUuid") "command"
        [("command", .string "STREAM_LOG"), ("serviceIndex", member members "serviceIndex"),
          ("serviceName", member members "serviceName"),
          ("deployPreset", member members "deployPreset")] hub).2))
  else pure .none

end Handlers

/-! ## Events -/

/-- What a console does that has to do with its rooms. -/
inductive RoomCall where
  | connection (client : ℕ) (cookieHeader : Option Text)
  | subscribeWorkspace (client : ℕ) (payload : Value)
  | subscribeLog (client : ℕ) (payload : Value)

/-- What happens besides: a socket connects or is closed, or the rest of the Hub does anything. -/
inductive RoomEvent where
  | connects (client : ℕ)
  | disconnects (client : ℕ)
  | elsewhere (change : Hub → Hub)

def occur (state : RoomState) : RoomEvent → Unit × RoomState
  | .connects client => ((), connect client state)
  | .disconnects client => ((), disconnect client state)
  | .elsewhere change => ((), { state with hub := change state.hub })

section Machine

variable (platform : Platform) (verifyAsync : Text → ℤ → Option Value)

def roomProgram : RoomCall → RoomProgram ConsoleReply
  | .connection client cookieHeader => handleConnection verifyAsync client cookieHeader
  | .subscribeWorkspace client payload => handleSubscribeWorkspace client payload
  | .subscribeLog client payload => handleSubscribeLog platform client payload

/-- Consoles that connect, subscribe and go in any order, while the rest of the Hub does
anything. -/
abbrev rooms : Transition (Config RoomCall RoomState Failure ConsoleReply)
    (Move RoomCall RoomEvent) (Shown Unit RoomState) :=
  observed (roomProgram platform verifyAsync) occur

/-! ## What lets a console in -/

/-- The workspace whose room a subscription may join, with the console, by the states that its
actions have met: the user of the socket was read in the first, and in the second the user owned
the living workspace, and the service was there on a linked Agent if that is what is subscribed
to. -/
def granted (call : RoomCall) (seen : List RoomState) : Option (ℕ × ℕ) :=
  match call, seen with
  | .subscribeWorkspace client payload, [asked, checked] => do
    let members ← packetMembers payload
    let workspaceIndex ← (member members "workspaceIndex").toNumber
    let user ← signedIn (asked.userIndex client)
    let workspaceIndex ← (intColumn workspaceIndex).toOption
    let workspace ← accessibleWorkspace user workspaceIndex checked.hub.database
    return (client, workspace.workspaceIndex)
  | .subscribeLog client payload, [asked, checked] => do
    let members ← packetMembers payload
    let workspaceIndex ← (member members "workspaceIndex").toNumber
    let serviceIndex ← (member members "serviceIndex").toNumber
    let user ← signedIn (asked.userIndex client)
    if (member members "agentUuid").truthy then
      let selects ← uuidFilter platform (member members "agentUuid")
      let workspaceIndex ← (intColumn workspaceIndex).toOption
      let serviceIndex ← (intColumn serviceIndex).toOption
      let service ← accessibleService user workspaceIndex serviceIndex selects checked.hub.database
      return (client, service.serviceParentWorkspace)
    else none
  | _, _ => none

/-- The sockets after a subscription has let a console in, if it has. -/
def joinIfGranted (admitted : Option (ℕ × ℕ)) (sockets : Groups Text ℕ) : Groups Text ℕ :=
  match admitted with
  | some (client, workspaceIndex) => sockets.join (roomOf workspaceIndex) client
  | none => sockets

/-- What an action does to the rooms: a handshake may close its socket, and a subscription lets in
whom it has found to own the workspace. -/
def Admits (call : RoomCall) (seen : List RoomState) (before after : RoomState) : Prop :=
  match call with
  | .connection client _ =>
    after.sockets = before.sockets ∨ after.sockets = before.sockets.leave client
  | .subscribeWorkspace _ _ | .subscribeLog _ _ =>
    after.sockets = joinIfGranted (granted platform call seen) before.sockets

end Machine

/-! ## What the handlers do -/

section Handlers

variable {platform : Platform} {verifyAsync : Text → ℤ → Option Value} {call : RoomCall}
  {seen : List RoomState} {fine : List RoomState → RoomState → Prop} {α : Type}

theorem workspaceRoom_injective : Function.Injective workspaceRoom := by
  intro x y same
  exact Number.text_injective (List.append_cancel_left same)

theorem roomOf_injective : Function.Injective roomOf := by
  intro m n same
  have decimals := Number.finite.inj (workspaceRoom_injective same)
  exact Int.ofNat_inj.mp (Decimal.ofInt_injective decimals)

/-- The room of a number is that of the workspace with the number as its index. -/
theorem workspaceRoom_of_intColumn {number : Number} {workspaceIndex : ℕ}
    (column : intColumn number = .ok (workspaceIndex : ℤ)) :
    workspaceRoom number = roomOf workspaceIndex := by
  have whole : number.toInteger? = some (workspaceIndex : ℤ) := by
    rw [intColumn, numberColumn] at column
    split at column
    · rename_i found
      obtain rfl := Except.ok.inj column
      exact (Option.filter_eq_some_iff.mp found).1
    · cases column
  cases number with
  | finite decimal =>
    have same : decimal = Decimal.ofInt workspaceIndex := by
      apply Decimal.toRat_injective
      rw [Decimal.toRat_of_toInt? whole, Decimal.toRat_ofInt]
    rw [roomOf, same]
  | nan => cases whole
  | infinity negative => cases whole

theorem granted_of_length (length : seen.length ≠ 2) : granted platform call seen = none := by
  unfold granted
  split
  · exact absurd rfl length
  · exact absurd rfl length
  · rfl

/-- An action that lets nobody in leaves the rooms as they are. -/
theorem admits_same {before after : RoomState} (length : seen.length ≠ 2)
    (same : after.sockets = before.sockets) : Admits platform call seen before after := by
  cases call with
  | connection client cookieHeader => exact .inl same
  | subscribeWorkspace client payload | subscribeLog client payload =>
    rw [Admits, granted_of_length length]
    exact same

/-- The check of a workspace is one action, if it allows. -/
theorem heeds_canAccessWorkspace {userIndex : Option Int32} {workspaceIndex : Number}
    (length : seen.length ≠ 2) :
    Heeds fine (Admits platform call)
      (fun allowed later => allowed = true → ∃ user column workspace checked,
        signedIn userIndex = some user ∧ intColumn workspaceIndex = .ok column ∧
          later = seen ++ [checked] ∧
            accessibleWorkspace user column checked.hub.database = some workspace) seen
      (onHub (canAccessWorkspace userIndex workspaceIndex)) := by
  rw [canAccessWorkspace]
  split
  · exact heeds_pure fun allowed => absurd allowed Bool.false_ne_true
  · rename_i user signed
    split
    · cases parsed : intColumn workspaceIndex with
      | error failure => exact trivial
      | ok column =>
        intro checked _
        refine ⟨admits_same length rfl, fun allowed => ?_⟩
        obtain ⟨workspace, found⟩ := Option.isSome_iff_exists.mp allowed
        exact ⟨user, column, workspace, checked, signed, rfl, rfl, found⟩
    · exact heeds_pure fun allowed => absurd allowed Bool.false_ne_true

/-- The check of a service is one action, if it allows. -/
theorem heeds_canAccessService {userIndex : Option Int32} {workspaceIndex serviceIndex : Number}
    {agentUuid : Value} (length : seen.length ≠ 2) :
    Heeds fine (Admits platform call)
      (fun allowed later => allowed = true → ∃ user selects column serviceColumn service checked,
        signedIn userIndex = some user ∧ agentUuid.truthy = true ∧
          uuidFilter platform agentUuid = some selects ∧ intColumn workspaceIndex = .ok column ∧
            intColumn serviceIndex = .ok serviceColumn ∧ later = seen ++ [checked] ∧
              accessibleService user column serviceColumn selects checked.hub.database =
                some service) seen
      (onHub (canAccessService platform userIndex workspaceIndex agentUuid serviceIndex)) := by
  rw [canAccessService]
  split
  · exact heeds_pure fun allowed => absurd allowed Bool.false_ne_true
  · rename_i user signed
    split
    · rename_i given
      rw [Bool.and_eq_true] at given
      cases filtered : uuidFilter platform agentUuid with
      | none => exact trivial
      | some selects =>
        cases parsed : intColumn workspaceIndex with
        | error failure => exact trivial
        | ok column =>
          cases parsed' : intColumn serviceIndex with
          | error failure => exact trivial
          | ok serviceColumn =>
            intro checked _
            refine ⟨admits_same length rfl, fun allowed => ?_⟩
            obtain ⟨service, found⟩ := Option.isSome_iff_exists.mp allowed
            exact ⟨user, selects, column, serviceColumn, service, checked, signed, given.2, rfl,
              rfl, rfl, rfl, found⟩
    · exact heeds_pure fun allowed => absurd allowed Bool.false_ne_true

theorem heeds_handleConnection {client : ℕ} {cookieHeader : Option Text} :
    Heeds fine (Admits platform (.connection client cookieHeader)) (fun _ _ => True) []
      (handleConnection verifyAsync client cookieHeader) := by
  apply heeds_atomically
  intro state _
  refine ⟨?_, fun _ _ => trivial⟩
  split
  · rename_i socket _
    change (settle client socket state).sockets = _ ∨ (settle client socket state).sockets = _
    rw [settle]
    split
    · exact .inl rfl
    · exact .inr rfl
  · exact .inl rfl

theorem heeds_handleSubscribeWorkspace {client : ℕ} {payload : Value} :
    Heeds fine (Admits platform (.subscribeWorkspace client payload)) (fun _ _ => True) []
      (handleSubscribeWorkspace client payload) := by
  apply Heeds.bind
  apply heeds_orThrow
  intro members given
  apply Heeds.bind
  apply heeds_orThrow
  intro workspaceIndex number
  apply Heeds.bind
  apply heeds_look fun state => admits_same (by decide) rfl
  intro asked _
  apply Heeds.bind
  refine (heeds_canAccessWorkspace (by simp)).mono fun allowed later _ checks => ?_
  cases allowed with
  | false => exact heeds_pure trivial
  | true =>
    obtain ⟨user, column, workspace, checked, signed, parsed, rfl, found⟩ := checks rfl
    obtain ⟨-, chosen⟩ := Table.mem_of_findFirst found
    rw [Bool.and_eq_true, Bool.and_eq_true, beq_iff_eq] at chosen
    have room : workspaceRoom workspaceIndex = roomOf workspace.workspaceIndex :=
      workspaceRoom_of_intColumn (chosen.1.1 ▸ parsed)
    apply Heeds.bind
    apply heeds_step
    intro state _
    refine ⟨?_, ?_⟩
    · change state.sockets.join _ client = joinIfGranted (granted _ _ _) state.sockets
      rw [room]
      simp only [granted, given, number, signed, parsed, found, List.nil_append,
        List.cons_append, Option.bind_eq_bind, Option.bind_some, Option.pure_def,
        Except.toOption, joinIfGranted]
    · apply Heeds.bind
      apply heeds_fromExcept
      intro column' _
      apply Heeds.bind
      apply heeds_look fun state => admits_same (by simp) rfl
      intro listed _
      exact heeds_step fun state _ => ⟨admits_same (by simp) rfl, trivial⟩

theorem heeds_handleSubscribeLog {client : ℕ} {payload : Value} :
    Heeds fine (Admits platform (.subscribeLog client payload)) (fun _ _ => True) []
      (handleSubscribeLog platform client payload) := by
  apply Heeds.bind
  apply heeds_orThrow
  intro members given
  apply Heeds.bind
  apply heeds_orThrow
  intro workspaceIndex number
  apply Heeds.bind
  apply heeds_orThrow
  intro serviceIndex serviceNumber
  apply Heeds.bind
  apply heeds_look fun state => admits_same (by decide) rfl
  intro asked _
  apply Heeds.bind
  refine (heeds_canAccessService (by simp)).mono fun allowed later _ checks => ?_
  cases allowed with
  | false => exact heeds_pure trivial
  | true =>
    obtain ⟨user, selects, column, serviceColumn, service, checked, signed, truthy, filtered,
      parsed, parsed', rfl, found⟩ := checks rfl
    obtain ⟨-, chosen⟩ := Table.mem_of_findFirst found
    simp only [Bool.and_eq_true, beq_iff_eq] at chosen
    have room : workspaceRoom workspaceIndex = roomOf service.serviceParentWorkspace :=
      workspaceRoom_of_intColumn (chosen.1.1.1.2 ▸ parsed)
    apply Heeds.bind
    apply heeds_step
    intro state _
    refine ⟨?_, ?_⟩
    · change state.sockets.join _ client = joinIfGranted (granted _ _ _) state.sockets
      rw [room]
      simp only [granted, given, number, serviceNumber, signed, truthy, filtered, parsed, parsed',
        found, List.nil_append, List.cons_append, Option.bind_eq_bind, Option.bind_some,
        Option.pure_def, Except.toOption, joinIfGranted, if_true]
    · exact fun state _ => ⟨admits_same (by simp) rfl, trivial⟩

theorem run_onHub (program : HubProgram α) (state : RoomState) :
    (onHub program).run state =
      ((program.run state.hub).1, { state with hub := (program.run state.hub).2 }) :=
  @run_zoom Hub Failure α RoomState RoomState.hub (fun hub state => { state with hub := hub })
    (fun _ _ => rfl) (fun _ _ _ => rfl) (fun _ => rfl) program state

/-- Taken alone, a subscription to a log does to the Hub what the handler does that knows no rooms,
for the user of the socket. -/
theorem run_handleSubscribeLog (client : ℕ) (payload : Value) (state : RoomState) :
    ((handleSubscribeLog platform client payload).run state).1 =
        ((ConsoleGateway.handleSubscribeLog platform (state.userIndex client) payload).run
          state.hub).1 ∧
      ((handleSubscribeLog platform client payload).run state).2.hub =
        ((ConsoleGateway.handleSubscribeLog platform (state.userIndex client) payload).run
          state.hub).2 := by
  rw [handleSubscribeLog, ConsoleGateway.handleSubscribeLog]
  cases packetMembers payload with
  | none => exact ⟨rfl, rfl⟩
  | some members =>
    simp only [orThrow, pure_bind']
    cases (member members "workspaceIndex").toNumber with
    | none => exact ⟨rfl, rfl⟩
    | some workspaceIndex =>
      cases (member members "serviceIndex").toNumber with
      | none => exact ⟨rfl, rfl⟩
      | some serviceIndex =>
        simp only [pure_bind', run_bind]
        have looked : (look (fun state => state.userIndex client) : RoomProgram _).run state =
            (.ok (state.userIndex client), state) := rfl
        rw [looked, runFrom, run_bind, run_onHub]
        obtain ⟨checked, hub⟩ := (canAccessService platform (state.userIndex client) workspaceIndex
          (member members "agentUuid") serviceIndex).run state.hub
        cases checked with
        | error failure => exact ⟨rfl, rfl⟩
        | ok allowed => cases allowed <;> exact ⟨rfl, rfl⟩

/-- What every action of every call does to the rooms. -/
theorem heeds_roomProgram (call : RoomCall) :
    Heeds (fun _ _ => True) (Admits platform call) (fun _ _ => True) []
      (roomProgram platform verifyAsync call) := by
  cases call with
  | connection client cookieHeader => exact heeds_handleConnection
  | subscribeWorkspace client payload => exact heeds_handleSubscribeWorkspace
  | subscribeLog client payload => exact heeds_handleSubscribeLog

end Handlers

/-! ## Along a run -/

section Runs

variable (platform : Platform) (verifyAsync : Text → ℤ → Option Value) (client workspaceIndex : ℕ)

/-- A move lets a console into the room of a workspace: it is the action after those in which a
subscription has found that it may, and the socket is still there. -/
def LetsIn (past : List (Move RoomCall RoomEvent × Shown Unit RoomState))
    (config : Config RoomCall RoomState Failure ConsoleReply) : Move RoomCall RoomEvent → Prop
  | .resume index => client ∈ config.state.sockets.present ∧
      ∃ thread, config.threads[index]? = some thread ∧ thread.result = none ∧
        granted platform thread.call (statesMet past index thread.started) =
          some (client, workspaceIndex)
  | _ => False

/-- After a move the socket of a console is not there. -/
def Closes (_ : List (Move RoomCall RoomEvent × Shown Unit RoomState))
    (config : Config RoomCall RoomState Failure ConsoleReply) (input : Move RoomCall RoomEvent) :
    Prop :=
  client ∉ (rooms platform verifyAsync config input).2.state.sockets.present

/-- In a run a console was let into the room of a workspace, and its socket has been there since. -/
def JoinedSince (start : Hub) (moves : List (Move RoomCall RoomEvent)) : Prop :=
  Since (rooms platform verifyAsync) (LetsIn platform client workspaceIndex)
    (Closes platform verifyAsync client) [] { state := { hub := start } } moves

end Runs

section Runs

variable {platform : Platform} {verifyAsync : Text → ℤ → Option Value}
  {client workspaceIndex : ℕ} {past : List (Move RoomCall RoomEvent × Shown Unit RoomState)}
  {config : Config RoomCall RoomState Failure ConsoleReply}

theorem mem_members_iff_present {sockets : Groups Text ℕ} {room : Text} :
    client ∈ sockets.members room ↔
      client ∈ sockets.members room ∧ ¬ client ∉ sockets.present := by
  rw [not_not, iff_self_and]
  exact Groups.mem_present_of_mem_members

/-- Who was in a room is there after a socket has been closed, unless it is that one. -/
theorem mem_members_leave_iff {sockets : Groups Text ℕ} {room : Text} (other : ℕ) :
    client ∈ (sockets.leave other).members room ↔
      client ∈ sockets.members room ∧ ¬ client ∉ (sockets.leave other).present := by
  rw [Groups.mem_members_leave, Groups.mem_present_leave, not_not, and_congr_right_iff]
  intro inside
  exact (and_iff_right (Groups.mem_present_of_mem_members inside)).symm

/-- Who is in a room after one is let in was there before, or is that one. -/
theorem mem_members_joinIfGranted {sockets : Groups Text ℕ} (admitted : Option (ℕ × ℕ)) :
    client ∈ (joinIfGranted admitted sockets).members (roomOf workspaceIndex) ↔
      (client ∈ sockets.present ∧ admitted = some (client, workspaceIndex)) ∨
        client ∈ sockets.members (roomOf workspaceIndex) := by
  cases admitted with
  | none => simp [joinIfGranted]
  | some admitted =>
    obtain ⟨other, index⟩ := admitted
    rw [joinIfGranted, Groups.mem_members_join, roomOf_injective.eq_iff, Option.some.injEq,
      Prod.mk.injEq]
    constructor
    · rintro (⟨rfl, rfl, here⟩ | before)
      · exact .inl ⟨here, rfl, rfl⟩
      · exact .inr before
    · rintro (⟨here, rfl, rfl⟩ | before)
      · exact .inl ⟨rfl, rfl, here⟩
      · exact .inr before

theorem present_joinIfGranted (admitted : Option (ℕ × ℕ)) (sockets : Groups Text ℕ) :
    (joinIfGranted admitted sockets).present = sockets.present := by
  cases admitted with
  | none => rfl
  | some admitted => exact Groups.present_join

/-- After an action of a call a console is in a room if the call lets it in, or if it was there and
its socket still is. -/
theorem Admits.mem_members {call : RoomCall} {seen : List RoomState} {before after : RoomState}
    (admits : Admits platform call seen before after) :
    client ∈ after.sockets.members (roomOf workspaceIndex) ↔
      (client ∈ before.sockets.present ∧
          granted platform call seen = some (client, workspaceIndex)) ∨
        client ∈ before.sockets.members (roomOf workspaceIndex) ∧
          ¬ client ∉ after.sockets.present := by
  cases call with
  | connection other cookieHeader =>
    have ungranted : granted platform (.connection other cookieHeader) seen ≠
        some (client, workspaceIndex) := nofun
    rw [or_iff_right fun letIn => ungranted letIn.2]
    rcases admits with same | left
    · rw [same]
      exact mem_members_iff_present
    · rw [left]
      exact mem_members_leave_iff other
  | subscribeWorkspace other payload | subscribeLog other payload =>
    rw [admits, mem_members_joinIfGranted, present_joinIfGranted, ← mem_members_iff_present]

/-- The action of a call that has not ended lets in whom the call has been granted. -/
theorem letsIn_iff {index : ℕ} {thread : Thread RoomCall RoomState Failure ConsoleReply}
    (found : config.threads[index]? = some thread) (running : thread.result = none) :
    LetsIn platform client workspaceIndex past config (.resume index) ↔
      client ∈ config.state.sockets.present ∧
        granted platform thread.call (statesMet past index thread.started) =
          some (client, workspaceIndex) := by
  refine and_congr_right fun _ => ⟨?_, fun granted => ⟨thread, found, running, granted⟩⟩
  rintro ⟨other, same, -, granted⟩
  obtain rfl := Option.some.inj (found.symm.trans same)
  exact granted

/-- After a move a console is in the room of a workspace if the move lets it in, or if it was there
and the move does not close its socket. -/
theorem mem_members_move {input : Move RoomCall RoomEvent}
    (permitted : Permitted (roomProgram platform verifyAsync) occur (Admits platform) past config
      input) :
    client ∈ (rooms platform verifyAsync config input).2.state.sockets.members
        (roomOf workspaceIndex) ↔
      LetsIn platform client workspaceIndex past config input ∨
        client ∈ config.state.sockets.members (roomOf workspaceIndex) ∧
          ¬ Closes platform verifyAsync client past config input := by
  cases input with
  | start call =>
    change _ ↔ False ∨ _
    rw [false_or]
    exact mem_members_iff_present
  | event event =>
    change _ ↔ False ∨ _
    rw [false_or]
    cases event with
    | connects other =>
      change client ∈ (config.state.sockets.enter other).members _ ↔ _ ∧
        ¬ client ∉ (config.state.sockets.enter other).present
      rw [not_not, Groups.mem_members_enter, iff_self_and]
      exact fun inside => Groups.mem_present_enter (Groups.mem_present_of_mem_members inside)
    | disconnects other => exact mem_members_leave_iff other
    | elsewhere change => exact mem_members_iff_present
  | resume index =>
    rcases resume_cases (roomProgram platform verifyAsync) occur config index with
      ⟨thread, found, running⟩ | ⟨idle, same⟩
    · rw [letsIn_iff found running]
      exact (permitted thread found running).mem_members
    · rw [or_iff_right, Closes, same]
      · exact mem_members_iff_present
      · rintro ⟨-, thread, found, unfinished, -⟩
        exact idle thread found unfinished

/-- In every run, whatever the consoles and the rest of the Hub do, what is emitted to a workspace
goes once to each console that has been let into its room and whose socket has been there since, and
to nobody else. -/
theorem emitted_to_joined (platform : Platform) (verifyAsync : Text → ℤ → Option Value)
    (start : Hub) (moves : List (Move RoomCall RoomEvent)) (workspaceIndex : ℕ) (event : Text)
    (payload : Value) :
    ∃ clients : List ℕ, clients.Nodup ∧
      (∀ client, client ∈ clients ↔
        JoinedSince platform verifyAsync client workspaceIndex start moves) ∧
      emitToWorkspace workspaceIndex event payload
          (final (rooms platform verifyAsync) { state := { hub := start } } moves).state =
        clients.map fun client => .toConsole client event payload := by
  have permitted : Along (rooms platform verifyAsync)
      (Permitted (roomProgram platform verifyAsync) occur (Admits platform)) []
      { state := { hub := start } } moves :=
    permitted_along heeds_roomProgram _ moves
      ((along_trivial _ _ _).mono fun _ _ input _ => by cases input <;> simp [Met])
  refine ⟨_, Groups.nodup_members _ (roomOf workspaceIndex), fun client => ?_, rfl⟩
  exact permitted.since_iff
    (fun config => client ∈ config.state.sockets.members (roomOf workspaceIndex))
    (fun inside => absurd inside List.not_mem_nil) fun _ _ _ held => mem_members_move held

end Runs

/-! ## A workspace that is deleted -/

/-- A console of the first user connects and subscribes to the first workspace. Before it is in the
room the workspace is gone. -/
def subscribesLate : List (Move RoomCall RoomEvent) :=
  [.event (.connects 0), .start (.connection 0 (some "accessToken=T")), .resume 0,
    .start (.subscribeWorkspace 0 (.object [("workspaceIndex", .string "1")])), .resume 1,
    .resume 1, .event (.elsewhere fun hub => { hub with database := {} }), .resume 1]

/-- The check of the workspace is made once. -/
example : (final (rooms fixedPlatform fun _ _ => some (.object [("userIndex", intValue 1)]))
      { state := { hub := twoWorkspaces } } subscribesLate).state.sockets.members (roomOf 1) =
    [0] := by
  decide +kernel

end Rooms

end ConsoleGateway

end OpticsHub
