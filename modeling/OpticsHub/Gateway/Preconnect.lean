import OpticsHub.Gateway.State
import OpticsHub.Script.Coercion

/-!
# Sockets that Agents open in advance

An Agent opens sockets before they are needed. The first line names the Agent and carries a
signature, which the Hub verifies; an accepted socket joins the pool of its Agent, answers
heartbeats and waits for a request. A socket is taken out of its pool before it is looked at,
and one that cannot be used any more is passed over.
-/
namespace OpticsHub

open Script Net

namespace Gateway

def preconnectVerb : Text := "tunnel:pre:v1"

def maxPoolPerAgent : ℕ := 16

def space : CodeUnit := 0x20

/-- Whether a text has a number of hexadecimal digits and nothing else. -/
def isHexOf (digits : ℕ) (text : Text) : Bool :=
  text.length == digits && text.all CodeUnit.isHexDigit

/-- `AGENT_UUID_PATTERN` -/
def isAgentUuid (text : Text) : Bool :=
  match text.splitOn CodeUnit.minus with
  | [first, second, third, fourth, last] =>
    isHexOf 8 first && isHexOf 4 second && isHexOf 4 third && isHexOf 4 fourth && isHexOf 12 last
  | _ => false

/-- What a first line asks to be verified, or why it is rejected. -/
def readPreconnect (line : Text) : Except Text PreconnectBody :=
  let parts := line.splitOn space
  let agentUuid := parts.getD 1 []
  let nonce := parts.getD 3 []
  let signature := parts.getD 4 []
  if !isAgentUuid agentUuid then .error "malformed_agent_uuid"
  else if !isHexOf 32 nonce then .error "missing_nonce"
  else if !isHexOf 64 signature then .error "malformed_signature"
  else
    match (parts[2]?).bind fun timestamp => (Text.toNumber timestamp).toInteger? with
    | none => .error "missing_timestamp"
    | some timestamp => .ok ⟨agentUuid, timestamp, nonce, signature⟩

/-- What comes of the answer of the Hub: its status and body, if it came at all. -/
def verifyWithHub (reply : Option (ℕ × Option Value)) : Except Text Unit :=
  match reply with
  | none => .error "hub_unreachable"
  | some (status, body) =>
    if status < 200 ∨ 300 ≤ status then .error "hub_rejected"
    else
      match body with
      | none => .error "hub_unreachable"
      | some (.object members) =>
        match Members.own members "ok", Members.own members "reason" with
        | some (.boolean true), _ => .ok ()
        | _, some (.string reason) => .error reason
        | _, _ => .error "hub_rejected"
      | some _ => .error "hub_rejected"

/-- Tell an Agent why its socket is not accepted, and end it. -/
def reject (control : ℕ) (reason : Text) (state : State) : State :=
  state.onSocket (.control control)
    (Duplex.endWith (pieces (encodeUtf8 (Text.ofString "PRE:ERR " ++ reason ++ [CodeUnit.newline]))))

/-- The first line of a socket asks for a place in a pool. -/
def handlePreconnect (control : ℕ) (line : Text) (rest : Bytes) (state : State) :
    List Observation × State :=
  let paused := state.onSocket (.control control) Duplex.pause
  if rest ≠ [] then ([], reject control "protocol_error" paused)
  else
    match readPreconnect line with
    | .error reason => ([], reject control reason paused)
    | .ok body =>
      ([.verifies control body],
        paused.onControl control fun control => { control with verifying := some body.agentUuid })

namespace Pools

/-- `pools.get(agentUuid)` -/
def get (agentUuid : Text) (pools : Pools) : Option ℕ := Members.own pools.agents agentUuid

/-- The sockets in the pool of an Agent. -/
def waiting (agentUuid : Text) (pools : Pools) : List ℕ :=
  ((pools.get agentUuid).map pools.sets).getD []

/-- The pool of an Agent, or a new set. -/
def getOrNew (agentUuid : Text) (pools : Pools) : ℕ := (pools.get agentUuid).getD pools.drawn

/-- Add a socket to the pool of an Agent, which may be a new set. -/
def add (agentUuid : Text) (control : ℕ) (pools : Pools) : Pools :=
  let pool := pools.getOrNew agentUuid
  let joined :=
    if control ∈ pools.waiting agentUuid then pools.waiting agentUuid
    else pools.waiting agentUuid ++ [control]
  { agents := Members.define pools.agents agentUuid pool
    sets := Function.update pools.sets pool joined
    drawn := if (pools.get agentUuid).isSome then pools.drawn else pools.drawn + 1 }

/-- Remove a socket from a set; an Agent whose pool it was, and is empty now, has none. -/
def remove (agentUuid : Text) (pool control : ℕ) (pools : Pools) : Pools :=
  let left := (pools.sets pool).erase control
  { pools with
    sets := Function.update pools.sets pool left
    agents :=
      if pools.get agentUuid = some pool ∧ left = [] then Members.erase pools.agents agentUuid
      else pools.agents }

/-- The first socket of a list that is usable, and those after it. -/
def firstUsable (usable : ℕ → Bool) : List ℕ → Option (ℕ × List ℕ)
  | [] => none
  | control :: rest => if usable control then some (control, rest) else firstUsable usable rest

/-- Take the first usable socket out of the pool of an Agent, and all that come before it. -/
def claim (usable : ℕ → Bool) (agentUuid : Text) (pools : Pools) : Option ℕ × Pools :=
  match pools.get agentUuid with
  | none => (none, pools)
  | some pool =>
    match firstUsable usable (pools.sets pool) with
    | none =>
      (none,
        { pools with
          sets := Function.update pools.sets pool []
          agents := Members.erase pools.agents agentUuid })
    | some (control, rest) =>
      (some control, { pools with sets := Function.update pools.sets pool rest })

/-- A scan passes over sockets that are not usable, up to one that is. -/
theorem firstUsable_eq_some {usable : ℕ → Bool} {controls rest : List ℕ} {control : ℕ}
    (found : firstUsable usable controls = some (control, rest)) :
    ∃ passed, controls = passed ++ control :: rest ∧ usable control = true ∧
      ∀ other ∈ passed, usable other = false := by
  induction controls with
  | nil => cases found
  | cons head tail ih =>
    rw [firstUsable] at found
    split at found
    · rename_i free
      obtain ⟨rfl, rfl⟩ := Prod.mk.inj (Option.some.inj found)
      exact ⟨[], rfl, free, by simp⟩
    · rename_i dead
      obtain ⟨passed, rfl, free, unusable⟩ := ih found
      refine ⟨head :: passed, rfl, free, fun other inside => ?_⟩
      rcases List.mem_cons.mp inside with rfl | later
      · simpa using dead
      · exact unusable other later

/-- A scan that finds nothing has passed over unusable sockets only. -/
theorem firstUsable_eq_none {usable : ℕ → Bool} {controls : List ℕ}
    (missed : firstUsable usable controls = none) :
    ∀ control ∈ controls, usable control = false := by
  induction controls with
  | nil => simp
  | cons head tail ih =>
    rw [firstUsable] at missed
    split at missed
    · cases missed
    · rename_i dead
      exact List.forall_mem_cons.mpr ⟨by simpa using dead, ih missed⟩

/-- What a claim does: nothing where there is no pool; it empties a pool in which nothing is
usable; or it takes the first usable socket, and drops those before it. -/
theorem claim_cases (usable : ℕ → Bool) (agentUuid : Text) (pools : Pools) :
    pools.get agentUuid = none ∧ pools.claim usable agentUuid = (none, pools) ∨
    (∃ pool, pools.get agentUuid = some pool ∧
      (∀ control ∈ pools.sets pool, usable control = false) ∧
      pools.claim usable agentUuid =
        (none,
          { pools with
            sets := Function.update pools.sets pool []
            agents := Members.erase pools.agents agentUuid })) ∨
    ∃ pool passed control rest, pools.get agentUuid = some pool ∧
      pools.sets pool = passed ++ control :: rest ∧ usable control = true ∧
      (∀ other ∈ passed, usable other = false) ∧
      pools.claim usable agentUuid =
        (some control, { pools with sets := Function.update pools.sets pool rest }) := by
  cases here : pools.get agentUuid with
  | none => exact .inl ⟨rfl, by simp [claim, here]⟩
  | some pool =>
    cases scanned : firstUsable usable (pools.sets pool) with
    | none =>
      exact .inr (.inl ⟨pool, rfl, firstUsable_eq_none scanned, by simp [claim, here, scanned]⟩)
    | some found =>
      obtain ⟨passed, split, free, unusable⟩ := firstUsable_eq_some scanned
      exact .inr (.inr ⟨pool, passed, found.1, found.2, rfl, split, free, unusable,
        by simp [claim, here, scanned]⟩)

/-- A claim takes usable sockets only. -/
theorem usable_of_claim {usable : ℕ → Bool} {agentUuid : Text} {pools left : Pools} {control : ℕ}
    (claimed : pools.claim usable agentUuid = (some control, left)) : usable control = true := by
  rcases pools.claim_cases usable agentUuid with ⟨-, same⟩ | ⟨_, -, -, same⟩ |
    ⟨_, _, taken, _, -, -, free, -, same⟩
  · rw [same] at claimed
    cases claimed
  · rw [same] at claimed
    cases claimed
  · rw [same] at claimed
    obtain rfl := Option.some.inj (Prod.mk.inj claimed).1
    exact free

end Pools

/-- Read heartbeats from now on. -/
def answerHeartbeat (control : ℕ) (state : State) : State :=
  ((state.onControl control fun control => { control with heartbeat := [] }).listen
    (.control control) .heartbeat).onSocket (.control control) Duplex.resume

/-- The Hub has said whether a socket is that of its Agent. -/
def verified (control : ℕ) (reply : Option (ℕ × Option Value)) (state : State) : State :=
  match (state.controls control).verifying with
  | none => state
  | some agentUuid =>
    let answered := state.onControl control fun control => { control with verifying := none }
    match verifyWithHub reply with
    | .error reason => reject control reason answered
    | .ok () =>
      if maxPoolPerAgent ≤ (state.pools.waiting agentUuid).length then
        reject control "pool_full" answered
      else
        let leaves := (agentUuid, state.pools.getOrNew agentUuid)
        let pooled :=
          { answered with pools := state.pools.add agentUuid control }.onControl control
            fun control => { control with leaves := some leaves }
        answerHeartbeat control
          (pooled.write (.control control) (encodeUtf8 (Text.ofString "PRE:OK" ++ [CodeUnit.newline])))

def pong : Bytes := encodeUtf8 (Text.ofString "PONG" ++ [CodeUnit.newline])

/-- The bytes that answer the lines of an idle socket, and what is left of the last one. -/
def answerLines (buffer : Bytes) : ℕ → Bytes × Bytes
  | 0 => ([], buffer)
  | fuel + 1 =>
    match indexOf newline buffer with
    | none => ([], buffer)
    | some index =>
      let line := (decodeUtf8 (buffer.take index)).trim
      let later := answerLines (buffer.drop (index + 1)) fuel
      (if line = Text.ofString "PING" then pong ++ later.1 else later.1, later.2)

/-- Data of an idle socket. -/
def onHeartbeat (control : ℕ) (chunk : Bytes) (state : State) : State :=
  let buffer := (state.controls control).heartbeat ++ chunk
  let answered := answerLines buffer buffer.length
  let read := state.onControl control fun control => { control with heartbeat := answered.2 }
  if answered.1 = [] then read else read.write (.control control) answered.1

/-- Whether a socket can be handed out. -/
def usable (state : State) (control : ℕ) : Bool := (state.sockets (.control control)).writable

def detachHeartbeat (control : ℕ) (state : State) : State :=
  if state.listeners (.control control) = .heartbeat then
    (state.listen (.control control) .none).onSocket (.control control) Duplex.pause
  else state

/-- Take a socket out of the pool of an Agent. -/
def claimPreconnected (agentUuid : Text) (state : State) : Option ℕ × State :=
  let claimed := state.pools.claim (usable state) agentUuid
  let left := { state with pools := claimed.2 }
  match claimed.1 with
  | none => (none, left)
  | some control => (some control, detachHeartbeat control left)

end Gateway

end OpticsHub
