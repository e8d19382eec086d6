import OpticsHub.Agent.SocketMap

/-!
# The gateway among other calls

The gateway of the Agents is one part of the Hub. Other parts run beside it: they ask for an
update, open a terminal or end a connection, and what they do comes between the actions of the
gateway. None of them registers an Agent, so they may take entries from the map of the sockets,
but they make none and bind no identity. That is all the gateway needs of them for its own entries
to be followed along a run.
-/
namespace OpticsHub

open Script Async Program Machine

namespace AgentGateway

/-- A call of the gateway, or of another part of the Hub. -/
inductive Duty (κ : Type) where
  | gateway (call : Call)
  | beside (call : κ)

/-- An event of the gateway, or of another part of the Hub. -/
inductive Happening (η : Type) where
  | gateway (event : Event)
  | beside (event : η)

abbrev Crowd (κ : Type) := Config (Duty κ) Hub Failure Unit

abbrev CrowdInput (κ η : Type) := Move (Duty κ) (Happening η)

/-- A move of the gateway, in a crowd. -/
def inCrowd {κ η : Type} : Input → CrowdInput κ η
  | .start call => .start (.gateway call)
  | .resume index => .resume index
  | .event event => .event (.gateway event)

/-- The gateway in a crowd: its own calls, and those of nobody else. -/
def gatewayThread {κ : Type} (thread : Thread (Duty κ) Hub Failure Unit) :
    Option (Thread Call Hub Failure Unit) :=
  match thread.call with
  | .gateway call => some ⟨call, thread.program, thread.started, thread.ended⟩
  | .beside _ => none

def gatewayPart {κ : Type} (config : Crowd κ) : State where
  state := config.state
  threads := config.threads.filterMap gatewayThread
  moves := config.moves

section Company

variable {κ η β : Type} (platform : Platform) (others : κ → HubProgram Unit)
  (elsewhere : Hub → η → Option β × Hub)

def duty : Duty κ → HubProgram Unit
  | .gateway call => handler platform call
  | .beside call => others call

def happen (hub : Hub) : Happening η → Option β × Hub
  | .gateway event => (none, (react platform hub event).2)
  | .beside event => elsewhere hub event

/-- All the calls that interleave, and all that happens between them. -/
abbrev company : Transition (Crowd κ) (CrowdInput κ η) (Shown (Option β) Hub) :=
  observed (duty platform others) (happen platform elsewhere)

/-- What a call may do to the map. -/
def DutyHandles : Duty κ → List Hub → Hub → Hub → Prop
  | .gateway call, seen, before, after => Handles call seen before after
  | .beside _, _, before, after => Sheds before after

theorem heeds_duty (codes : ∀ n, platform.randomCode n ≠ [])
    (uuids : ∀ n, platform.randomUuid n ≠ []) (sheds : ∀ call, Always Sheds (others call))
    (call : Duty κ) :
    Heeds (fun _ => Coded) (DutyHandles call) (fun _ _ => True) []
      (duty platform others call) := by
  cases call with
  | gateway call => exact heeds_handler platform codes uuids call
  | beside call => exact (sheds call).heeds fun _ _ _ step => step

end Company

/-! ## The threads of the gateway -/

section Threads

variable {κ : Type} {config : Crowd κ} {thread : Thread Call Hub Failure Unit}

theorem mem_gatewayPart :
    thread ∈ (gatewayPart config).threads ↔
      ⟨.gateway thread.call, thread.program, thread.started, thread.ended⟩ ∈ config.threads := by
  rw [gatewayPart, List.mem_filterMap]
  constructor
  · rintro ⟨⟨call, program, started, ended⟩, inside, same⟩
    cases call with
    | gateway call =>
      obtain rfl := Option.some.inj same
      exact inside
    | beside call => cases same
  · exact fun inside => ⟨_, inside, rfl⟩

end Threads

/-! ## What a move does to the map -/

section Moves

variable {κ η β : Type} {platform : Platform} {others : κ → HubProgram Unit}
  {elsewhere : Hub → η → Option β × Hub} {config : Crowd κ} {input : CrowdInput κ η}
  {past : List (CrowdInput κ η × Shown (Option β) Hub)}

/-- A move makes an entry only as the next action of a registration. -/
theorem sheds_or_enters (sheds : ∀ hub event, Sheds hub (elsewhere hub event).2)
    (permitted : Permitted (duty platform others) (happen platform elsewhere) DutyHandles past
      config input) :
    Sheds config.state (company platform others elsewhere config input).2.state ∨
      ∃ (index : ℕ) (thread : Thread (Duty κ) Hub Failure Unit) (client : ℕ) (payload : Value),
        input = .resume index ∧ config.threads[index]? = some thread ∧ thread.result = none ∧
          thread.call = .gateway (.register client payload) ∧
            Enters client config.state
              (company platform others elsewhere config input).2.state := by
  cases input with
  | start call => exact .inl (sheds_refl config.state)
  | event event =>
    cases event with
    | gateway event => exact .inl (sheds_react platform config.state event)
    | beside event => exact .inl (sheds config.state event)
  | resume index =>
    by_cases running : ∃ thread, config.threads[index]? = some thread ∧ thread.result = none
    · obtain ⟨thread, found, running⟩ := running
      have handles := permitted thread found running
      cases called : thread.call with
      | beside call =>
        rw [called] at handles
        exact .inl handles
      | gateway call =>
        rw [called] at handles
        cases call with
        | register client payload =>
          exact handles.imp id fun enters =>
            ⟨index, thread, client, payload, rfl, found, running, called, enters⟩
        | _ => exact .inl handles
    · have idle (thread : Thread (Duty κ) Hub Failure Unit)
          (found : config.threads[index]? = some thread) : thread.result ≠ none :=
        fun none => running ⟨thread, found, none⟩
      refine .inl ?_
      rw [(move_idle idle).1]
      exact sheds_refl config.state

/-- A call that is there after a move was there before, or the move has started it, or it has
taken its next action. -/
theorem mem_threads_cases {thread : Thread (Duty κ) Hub Failure Unit}
    (inside : thread ∈ (company platform others elsewhere config input).2.threads) :
    thread ∈ config.threads ∨
      (∃ call, input = .start call ∧ thread.call = call ∧
        thread.program = duty platform others call) ∨
      ∃ (index : ℕ) (before : Thread (Duty κ) Hub Failure Unit), input = .resume index ∧
        config.threads[index]? = some before ∧ before.result = none ∧
          thread.call = before.call ∧ thread.program = before.program.next config.state := by
  rcases move_cases (duty platform others) (happen platform elsewhere) (fun before _ => before)
      config input with
    ⟨call, started, -, threads⟩ | ⟨index, call, effect, next, started, ended, resumed, found, -,
      threads⟩ | ⟨index, -, -, threads⟩ | ⟨event, -, -, threads⟩
  · rw [threads] at inside
    rcases List.mem_append.mp inside with before | new
    · exact .inl before
    · obtain rfl := List.mem_singleton.mp new
      exact .inr (.inl ⟨call, started, rfl, rfl⟩)
  · rw [threads] at inside
    rcases List.mem_or_eq_of_mem_set inside with before | rfl
    · exact .inl before
    · exact .inr (.inr ⟨index, _, resumed, found, rfl, rfl, rfl⟩)
  · exact .inl (threads ▸ inside)
  · exact .inl (threads ▸ inside)

/-- A move that makes an entry finds the clean-up of the socket not begun, and no entry for the
socket under another Agent. -/
def EntersInTime (config : Crowd κ) (after : Hub) : Prop :=
  ∀ uuid client, Members.own after.agentUuidToSocketId uuid = some client →
    Members.own config.state.agentUuidToSocketId uuid ≠ some client →
    cleanUpBegun (gatewayPart config) client = false ∧
      ∀ other, Members.own config.state.agentUuidToSocketId other = some client → other = uuid

/-- Such a move keeps the entries of the gateway traced, whoever makes it. -/
theorem Traced.among (traced : Traced (gatewayPart config))
    (sheds : ∀ hub event, Sheds hub (elsewhere hub event).2)
    (inTime : EntersInTime config (company platform others elsewhere config input).2.state)
    (permitted : Permitted (duty platform others) (happen platform elsewhere) DutyHandles past
      config input) :
    Traced (gatewayPart (company platform others elsewhere config input).2) := by
  rcases sheds_or_enters sheds permitted with
    shed | ⟨index, thread, client, payload, rfl, found, running, called, enters⟩
  · have shed' : Sheds (gatewayPart config).state
        (gatewayPart (company platform others elsewhere config input).2).state := shed
    apply traced.sheds shed'
    intro thread inside client cleans
    rcases mem_threads_cases (mem_gatewayPart.mp inside) with
      before | ⟨call, rfl, same, program⟩ | ⟨index, before, rfl, found, running, same, program⟩
    · exact (traced.cleaned thread (mem_gatewayPart.mpr before) client cleans).imp_right .inl
    · subst same
      rw [cleans] at program
      exact .inl program
    · change Duty.gateway thread.call = before.call at same
      rw [cleans] at same
      have member : ⟨.disconnected client, before.program, before.started, before.ended⟩ ∈
          (gatewayPart config).threads := by
        refine mem_gatewayPart.mpr ?_
        change ⟨.gateway (.disconnected client), _, _, _⟩ ∈ config.threads
        rw [same]
        exact List.mem_of_getElem? found
      rcases traced.cleaned _ member client rfl with fresh | gone
      · refine .inr (.inr fun uuid => ?_)
        have taken := (@move_resume _ _ _ _ _ _ _ (duty platform others)
          (happen platform elsewhere) (fun before _ => before) config index before found running).1
        change before.program = handleDisconnect client at fresh
        change Members.own (company platform others elsewhere config
          (.resume index)).2.state.agentUuidToSocketId uuid ≠ some client
        rw [taken, fresh]
        exact traced.forgets client uuid
      · exact .inr (.inl gone)
  · have enters' : Enters client (gatewayPart config).state
        (gatewayPart (company platform others elsewhere config (.resume index)).2).state := enters
    apply traced.enters enters' inTime
    intro thread' inside other cleans
    refine mem_gatewayPart.mpr ?_
    rcases mem_threads_cases (mem_gatewayPart.mp inside) with
      before | ⟨call, wrong, -, -⟩ | ⟨index', before, same, found', -, call, -⟩
    · exact before
    · cases wrong
    · obtain rfl := Move.resume.inj same
      obtain rfl := Option.some.inj (found.symm.trans found')
      change Duty.gateway thread'.call = thread.call at call
      rw [called, cleans] at call
      cases call

end Moves

end AgentGateway

end OpticsHub
