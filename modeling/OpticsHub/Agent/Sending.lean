import OpticsHub.Agent.AgentGateway
import OpticsHub.Async.History

/-!
# What an action sends to the Agents

The packets that the Hub has sent are part of its state, so what an action sends is the
part of the list that is new. A rule says which packets a call may send after the states
that its earlier actions have met. Queries and writes send nothing, and `sendToAgent`
sends at most its packet, to the socket on which the Agent registered last.
-/
namespace OpticsHub

open Script Async Program

namespace AgentGateway

/-- Every packet that an action sends is permitted after the states that were met. -/
def SendsOnly (permits : List Hub → Hub → Outgoing → Prop) (seen : List Hub)
    (before after : Hub) : Prop :=
  ∀ outgoing ∈ after.sent.drop before.sent.length, permits seen before outgoing

/-- What the rest of the Hub does at any time. -/
def meanwhile (hub : Hub) (change : Hub → Hub) : Unit × Hub := ((), change hub)

variable {permits : List Hub → Hub → Outgoing → Prop} {seen : List Hub} {before after : Hub}
  {fine : List Hub → Hub → Prop} {α : Type}

theorem sendsOnly_silent (silent : after.sent = before.sent) :
    SendsOnly permits seen before after := by
  intro outgoing inside
  rw [silent, List.drop_length] at inside
  cases inside

/-- A packet that is sent goes to the socket of the Agent. -/
theorem sendToAgent_sent (agentUuid : Text) (packet : AgentPacket) (hub : Hub) :
    (sendToAgent agentUuid packet hub).2.sent = hub.sent ∨
      ∃ socket, getAgentSocket hub agentUuid = some socket ∧
        (sendToAgent agentUuid packet hub).2.sent = hub.sent ++ [.packet socket packet] := by
  rw [sendToAgent]
  split
  · exact .inl rfl
  · rename_i socket found
    split
    · exact .inr ⟨socket, found, rfl⟩
    · exact .inl rfl

/-- Nothing changes but what has been sent. -/
theorem sendToAgent_frame (agentUuid : Text) (packet : AgentPacket) (hub : Hub) :
    (sendToAgent agentUuid packet hub).2 =
      { hub with sent := (sendToAgent agentUuid packet hub).2.sent } := by
  rw [sendToAgent]
  split
  · rfl
  · split <;> rfl

theorem sendsOnly_sendToAgent {agentUuid : Text} {packet : AgentPacket} {start : Hub}
    (sent : after.sent = (sendToAgent agentUuid packet start).2.sent)
    (sockets : getAgentSocket start = getAgentSocket before) (sents : start.sent = before.sent)
    (permitted : ∀ socket, getAgentSocket before agentUuid = some socket →
      permits seen before (.packet socket packet)) :
    SendsOnly permits seen before after := by
  rcases sendToAgent_sent agentUuid packet start with silent | ⟨socket, found, one⟩
  · exact sendsOnly_silent (sent.trans (silent.trans sents))
  · intro outgoing inside
    rw [sent, one, sents, List.drop_left, List.mem_singleton] at inside
    rw [inside]
    exact permitted socket (sockets ▸ found)

/-- Reading the state. -/
theorem heeds_read {view : Hub → α} {post : α → List Hub → Prop}
    (held : ∀ hub, fine seen hub → post (view hub) (seen ++ [hub])) :
    Heeds fine (SendsOnly permits) post seen (look view : HubProgram α) :=
  heeds_look (fun _ => sendsOnly_silent rfl) held

/-- A write to the database. -/
theorem heeds_write {action : Hub → α × Hub} {post : α → List Hub → Prop}
    (silent : ∀ hub, (action hub).2.sent = hub.sent)
    (held : ∀ hub, fine seen hub → post (action hub).1 (seen ++ [hub])) :
    Heeds fine (SendsOnly permits) post seen (step action : HubProgram α) :=
  heeds_step fun hub met => ⟨sendsOnly_silent (silent hub), held hub met⟩

end AgentGateway

end OpticsHub
