import OpticsHub.Gateway.Registry
import OpticsHub.Machine.Run

/-!
# How registrations end

A registration is known by the number of its timer. It ends when its entry is claimed, when its own
socket releases it, or when its timer reports, and in whatever order the registry is used it ends
once at most. A timer knows no more than its token, though. When the token was registered again
meanwhile, the entry that the timer deletes is the later one, whose time has not come. So timers
delete their own entries only, and entries wait for their whole time, exactly along the runs in
which nothing is registered under the token of an outdated timer when this fires.
-/
namespace OpticsHub

open Script Machine

namespace Gateway

namespace Registrations

/-- The registry, and the time. -/
structure Clocked where
  registry : Registry
  now : ℤ

inductive Call where
  | register (token : Text) (socket : SocketId) (rest : Bytes)
  | claim (token : Text)
  | release (token : Text) (socket : SocketId)
  /-- The event loop comes to a timer. -/
  | fire (number : ℕ)
  | pass (milliseconds : ℕ)

inductive Outcome where
  /-- The timer of the registration, and when it was set. -/
  | registered (number : ℕ) (time : ℤ)
  | claimed (entry : Option RegistryEntry)
  /-- The entry that was removed, if there was one. -/
  | released (entry : Option RegistryEntry)
  /-- The timer that called its `onTimeout`, and the entry that it removed. -/
  | reported (timer : Timer) (removed : Option RegistryEntry)
  | nothing

abbrev Event := Call × Outcome

def perform : Transition Clocked Call Outcome
  | ⟨registry, now⟩, .register token socket rest =>
    (.registered registry.drawn now, ⟨registry.register token socket rest now, now⟩)
  | ⟨registry, now⟩, .claim token => (.claimed (registry.get token), ⟨registry.claim token, now⟩)
  | ⟨registry, now⟩, .release token socket =>
    (.released ((registry.get token).filter (·.socket = socket)),
      ⟨registry.release token socket, now⟩)
  | ⟨registry, now⟩, .fire number =>
    match registry.due number now with
    | none => (.nothing, ⟨registry, now⟩)
    | some timer => (.reported timer (registry.get timer.token), ⟨registry.fire timer, now⟩)
  | ⟨registry, now⟩, .pass milliseconds => (.nothing, ⟨registry, now + milliseconds⟩)

/-- The registration that ends. -/
def Outcome.ended : Outcome → Option ℕ
  | .claimed entry => entry.map RegistryEntry.timer
  | .released entry => entry.map RegistryEntry.timer
  | .reported timer _ => some timer.number
  | .registered _ _ => none
  | .nothing => none

/-- The registrations that ended, in order. -/
def endings (events : List Event) : List ℕ := events.filterMap fun event => event.2.ended

/-- A registration was neither claimed nor released. -/
def Unclaimed (events : List Event) (number : ℕ) : Prop :=
  ∀ call entry, (call, Outcome.claimed (some entry)) ∈ events ∨
    (call, Outcome.released (some entry)) ∈ events → entry.timer ≠ number

/-- A later registration used the token. -/
def Superseded (events : List Event) (token : Text) (number : ℕ) : Prop :=
  ∃ socket rest later time, number < later ∧
    (Call.register token socket rest, Outcome.registered later time) ∈ events

/-- Registrations end once at most, and their entries are removed by themselves alone and not before
their time. -/
structure EndsOnce (start : Clocked) (calls : List Call) : Prop where
  once : (endings (trace perform start calls)).Nodup
  released : ∀ token socket entry,
    (Call.release token socket, Outcome.released (some entry)) ∈ trace perform start calls →
      entry.socket = socket
  reported : ∀ call timer entry,
    (call, Outcome.reported timer (some entry)) ∈ trace perform start calls →
      entry.timer = timer.number
  claimable : ∀ before after, calls = before ++ after →
    ∀ token socket rest number time,
      (Call.register token socket rest, Outcome.registered number time) ∈
          trace perform start before →
        Unclaimed (trace perform start before) number →
          ¬ Superseded (trace perform start before) token number →
            (final perform start before).now < time + Registry.timeout →
              (perform (final perform start before) (.claim token)).1 =
                .claimed (some ⟨socket, rest, number⟩)

/-- When the timer of a registration fires whose token was registered again, nothing is registered
under this token. -/
def OutdatedAlone (past : List Event) (state : Clocked) : Call → Prop
  | .fire number => ∀ timer, state.registry.due number state.now = some timer →
      Superseded past timer.token number → state.registry.get timer.token = none
  | _ => True

/-! ## What is in order -/

section Invariant

/-- The timers that have not fired are those of the registrations that have not ended, and unless
its token was registered again, each of these has its entry. -/
structure Sound (past : List Event) (state : Clocked) : Prop where
  once : (endings past).Nodup
  ended : ∀ number ∈ endings past, number < state.registry.drawn
  pending : ∀ timer ∈ state.registry.timers, timer.number ∉ endings past
  bounded : ∀ timer ∈ state.registry.timers, timer.number < state.registry.drawn
  distinct : ∀ timer ∈ state.registry.timers, ∀ other ∈ state.registry.timers,
    timer.number = other.number → timer = other
  known : ∀ {token socket rest number time},
    (Call.register token socket rest, Outcome.registered number time) ∈ past →
      number < state.registry.drawn
  opened : ∀ {token socket rest number time},
    (Call.register token socket rest, Outcome.registered number time) ∈ past →
      number ∉ endings past →
        ⟨number, token, socket, time + Registry.timeout⟩ ∈ state.registry.timers
  late : ∀ {token socket rest number time},
    (Call.register token socket rest, Outcome.registered number time) ∈ past →
      ∀ {call timer removed}, (call, Outcome.reported timer removed) ∈ past →
        timer.number = number → time + Registry.timeout ≤ state.now
  timed : ∀ {token entry}, state.registry.get token = some entry →
    ∃ timer ∈ state.registry.timers, timer.number = entry.timer ∧ timer.token = token
  contents : ∀ {token socket rest number time},
    (Call.register token socket rest, Outcome.registered number time) ∈ past →
      ∀ {key entry}, state.registry.get key = some entry → entry.timer = number →
        entry = ⟨socket, rest, number⟩
  latest : ∀ {token entry}, state.registry.get token = some entry →
    ¬ Superseded past token entry.timer
  waits : ∀ timer ∈ state.registry.timers,
    (∃ entry, state.registry.get timer.token = some entry ∧ entry.timer = timer.number) ∨
      Superseded past timer.token timer.number

theorem sound_empty (now : ℤ) : Sound [] ⟨{}, now⟩ where
  once := List.nodup_nil
  ended _ inside := absurd inside List.not_mem_nil
  pending _ inside := absurd inside List.not_mem_nil
  bounded _ inside := absurd inside List.not_mem_nil
  distinct _ inside := absurd inside List.not_mem_nil
  known inside := absurd inside List.not_mem_nil
  opened inside := absurd inside List.not_mem_nil
  late inside := absurd inside List.not_mem_nil
  timed found := by cases found
  contents inside := absurd inside List.not_mem_nil
  latest found := by cases found
  waits _ inside := absurd inside List.not_mem_nil

variable {past : List Event} {registry : Registry} {now : ℤ}

theorem endings_append (past : List Event) (event : Event) :
    endings (past ++ [event]) = endings past ++ event.2.ended.toList := by
  rw [endings, List.filterMap_append, endings]
  cases ends : event.2.ended <;> simp [ends]

theorem Superseded.append {token : Text} {number : ℕ} (superseded : Superseded past token number)
    (events : List Event) : Superseded (past ++ events) token number := by
  obtain ⟨socket, rest, later, time, larger, inside⟩ := superseded
  exact ⟨socket, rest, later, time, larger, List.mem_append_left _ inside⟩

/-- An event that is no registration. -/
def Event.Other (event : Event) : Prop := ∀ number time, event.2 ≠ .registered number time

theorem Event.Other.mem_append_iff {event : Event} (other : event.Other) {call : Call} {number : ℕ}
    {time : ℤ} : (call, Outcome.registered number time) ∈ past ++ [event] ↔
      (call, Outcome.registered number time) ∈ past := by
  rw [List.mem_append, List.mem_singleton, or_iff_left]
  rintro rfl
  exact other number time rfl

theorem Event.Other.superseded_append_iff {event : Event} (other : event.Other) {token : Text}
    {number : ℕ} : Superseded (past ++ [event]) token number ↔ Superseded past token number := by
  simp only [Superseded, other.mem_append_iff]

/-- Nothing ends, and time may pass. -/
theorem Sound.idle {event : Event} {later : ℤ} (sound : Sound past ⟨registry, now⟩)
    (other : event.Other) (stays : event.2.ended = none) (passes : now ≤ later) :
    Sound (past ++ [event]) ⟨registry, later⟩ := by
  have same : endings (past ++ [event]) = endings past := by
    rw [endings_append, stays, Option.toList_none, List.append_nil]
  constructor
  case once => exact same ▸ sound.once
  case ended => exact same ▸ sound.ended
  case pending => exact same ▸ sound.pending
  case bounded => exact sound.bounded
  case distinct => exact sound.distinct
  case known => exact fun inside => sound.known (other.mem_append_iff.mp inside)
  case opened => exact fun inside => same ▸ sound.opened (other.mem_append_iff.mp inside)
  case late =>
    intro token socket rest number time inside call timer removed reported own
    rcases List.mem_append.mp reported with before | here
    · exact (sound.late (other.mem_append_iff.mp inside) before own).trans passes
    · rw [← List.mem_singleton.mp here] at stays
      cases stays
  case timed => exact sound.timed
  case contents => exact fun inside => sound.contents (other.mem_append_iff.mp inside)
  case latest => exact fun found => other.superseded_append_iff.not.mpr (sound.latest found)
  case waits =>
    exact fun timer inside => (sound.waits timer inside).imp_right (Superseded.append · _)

/-- A timer is done with, together with its own entry if that is there. -/
theorem Sound.remove {event : Event} {timer : Timer} (sound : Sound past ⟨registry, now⟩)
    (inside : timer ∈ registry.timers)
    (own : ∀ entry, registry.get timer.token = some entry → entry.timer = timer.number)
    (other : event.Other) (ends : event.2.ended = some timer.number)
    (due : ∀ timer' removed, event.2 = .reported timer' removed → timer.due ≤ now) :
    Sound (past ++ [event]) ⟨registry.fire timer, now⟩ := by
  have endings_eq : endings (past ++ [event]) = endings past ++ [timer.number] := by
    rw [endings_append, ends, Option.toList_some]
  have mem_timers {left : Timer} : left ∈ (registry.fire timer).timers ↔
      left ∈ registry.timers ∧ left.number ≠ timer.number := by
    simp [Registry.fire, Registry.delete, Registry.clearTimeout]
  have get_eq {key : Text} {entry : RegistryEntry}
      (found : (registry.fire timer).get key = some entry) :
      key ≠ timer.token ∧ registry.get key = some entry := by
    rw [Registry.get_fire] at found
    split at found
    · cases found
    · exact ⟨‹_›, found⟩
  constructor
  case once =>
    rw [endings_eq, List.nodup_append]
    refine ⟨sound.once, List.nodup_singleton _, fun number before number' here same => ?_⟩
    rw [same, List.mem_singleton.mp here] at before
    exact sound.pending timer inside before
  case ended =>
    intro number mem
    rw [endings_eq, List.mem_append, List.mem_singleton] at mem
    rcases mem with before | rfl
    · exact sound.ended number before
    · exact sound.bounded timer inside
  case pending =>
    intro left mem
    obtain ⟨mem, differs⟩ := mem_timers.mp mem
    rw [endings_eq, List.mem_append, List.mem_singleton]
    rintro (before | same)
    · exact sound.pending left mem before
    · exact differs same
  case bounded => exact fun left mem => sound.bounded left (mem_timers.mp mem).1
  case distinct =>
    exact fun left mem right mem' =>
      sound.distinct left (mem_timers.mp mem).1 right (mem_timers.mp mem').1
  case known => exact fun mem => sound.known (other.mem_append_iff.mp mem)
  case opened =>
    intro token socket rest number time mem lasts
    rw [endings_eq, List.mem_append, List.mem_singleton, not_or] at lasts
    exact mem_timers.mpr ⟨sound.opened (other.mem_append_iff.mp mem) lasts.1, lasts.2⟩
  case late =>
    intro token socket rest number time mem call timer' removed reported same
    have before := other.mem_append_iff.mp mem
    rcases List.mem_append.mp reported with earlier | here
    · exact sound.late before earlier same
    · -- the timer that reports now is the one that was set for this registration
      rw [← List.mem_singleton.mp here] at ends due
      obtain rfl : timer.number = number := (Option.some.inj ends).symm.trans same
      have set := sound.opened before (sound.pending timer inside)
      have whole := due timer' removed rfl
      rwa [sound.distinct timer inside _ set rfl] at whole
  case timed =>
    intro token entry found
    obtain ⟨differs, found⟩ := get_eq found
    obtain ⟨left, mem, number, its⟩ := sound.timed found
    refine ⟨left, mem_timers.mpr ⟨mem, fun same => differs ?_⟩, number, its⟩
    rw [← its, sound.distinct left mem timer inside same]
  case contents =>
    exact fun mem _ _ found => sound.contents (other.mem_append_iff.mp mem) (get_eq found).2
  case latest =>
    exact fun found => other.superseded_append_iff.not.mpr (sound.latest (get_eq found).2)
  case waits =>
    intro left mem
    obtain ⟨mem, differs⟩ := mem_timers.mp mem
    rcases sound.waits left mem with ⟨entry, found, its⟩ | superseded
    · refine .inl ⟨entry, ?_, its⟩
      rw [Registry.get_fire, if_neg, found]
      intro same
      rw [same] at found
      exact differs (its.symm.trans (own entry found))
    · exact .inr (superseded.append _)

/-- A registration is drawn a number of its own, and supersedes the others of its token. -/
theorem Sound.register (sound : Sound past ⟨registry, now⟩) (token : Text) (socket : SocketId)
    (rest : Bytes) :
    Sound (past ++ [(.register token socket rest, .registered registry.drawn now)])
      ⟨registry.register token socket rest now, now⟩ := by
  have same : endings (past ++ [(Call.register token socket rest,
      Outcome.registered registry.drawn now)]) = endings past := by
    rw [endings_append]
    exact List.append_nil _
  have mem_append {call : Call} {number : ℕ} {time : ℤ}
      (mem : (call, Outcome.registered number time) ∈
        past ++ [(Call.register token socket rest, Outcome.registered registry.drawn now)]) :
      (call, Outcome.registered number time) ∈ past ∨
        call = .register token socket rest ∧ number = registry.drawn ∧ time = now := by
    simpa using mem
  have drawn : (registry.register token socket rest now).drawn = registry.drawn + 1 := rfl
  have fresh {token' : Text} {entry : RegistryEntry}
      (found : registry.get token' = some entry) : entry.timer < registry.drawn := by
    obtain ⟨timer, inside, number, -⟩ := sound.timed found
    exact number ▸ sound.bounded timer inside
  have mem_timers {timer : Timer} : timer ∈ (registry.register token socket rest now).timers ↔
      timer ∈ registry.timers ∨
        timer = ⟨registry.drawn, token, socket, now + Registry.timeout⟩ := by
    simp [Registry.register]
  constructor
  case once => exact same ▸ sound.once
  case ended => exact fun number mem => Nat.lt_succ_of_lt (sound.ended number (same ▸ mem))
  case pending =>
    intro timer mem
    rw [same]
    rcases mem_timers.mp mem with before | rfl
    · exact sound.pending timer before
    · exact fun ended => Nat.lt_irrefl _ (sound.ended _ ended)
  case bounded =>
    intro timer mem
    rcases mem_timers.mp mem with before | rfl
    · exact Nat.lt_succ_of_lt (sound.bounded timer before)
    · exact Nat.lt_succ_self _
  case distinct =>
    intro timer mem other mem' number
    rcases mem_timers.mp mem with before | rfl <;> rcases mem_timers.mp mem' with before' | rfl
    · exact sound.distinct timer before other before' number
    · exact absurd number (Nat.ne_of_lt (sound.bounded timer before))
    · exact absurd number.symm (Nat.ne_of_lt (sound.bounded other before'))
    · rfl
  case known =>
    intro token' socket' rest' number time mem
    rcases mem_append mem with before | ⟨-, rfl, -⟩
    · exact Nat.lt_succ_of_lt (sound.known before)
    · exact Nat.lt_succ_self _
  case opened =>
    intro token' socket' rest' number time mem lasts
    rcases mem_append mem with before | ⟨call, rfl, rfl⟩
    · exact mem_timers.mpr (.inl (sound.opened before (same ▸ lasts)))
    · obtain ⟨rfl, rfl, rfl⟩ := Call.register.inj call
      exact mem_timers.mpr (.inr rfl)
  case late =>
    intro token' socket' rest' number time mem call timer removed reported number'
    have earlier : (call, Outcome.reported timer removed) ∈ past := by simpa using reported
    rcases mem_append mem with before | ⟨-, rfl, -⟩
    · exact sound.late before earlier number'
    · have ended : timer.number ∈ endings past := List.mem_filterMap.mpr ⟨_, earlier, rfl⟩
      exact absurd number' (Nat.ne_of_lt (sound.ended _ ended))
  case timed =>
    intro key entry found
    rw [Registry.get_register] at found
    split at found
    · obtain rfl := Option.some.inj found
      exact ⟨_, mem_timers.mpr (.inr rfl), rfl, Eq.symm ‹_›⟩
    · obtain ⟨timer, inside, its⟩ := sound.timed found
      exact ⟨timer, mem_timers.mpr (.inl inside), its⟩
  case contents =>
    intro token' socket' rest' number time mem key entry found its
    rw [Registry.get_register] at found
    split at found
    · obtain rfl := Option.some.inj found
      rcases mem_append mem with before | ⟨call, rfl, -⟩
      · exact absurd its.symm (Nat.ne_of_lt (sound.known before))
      · obtain ⟨-, rfl, rfl⟩ := Call.register.inj call
        rfl
    · rcases mem_append mem with before | ⟨-, rfl, -⟩
      · exact sound.contents before found its
      · exact absurd its (Nat.ne_of_lt (fresh found))
  case latest =>
    rintro key entry found ⟨socket', rest', later, time, larger, mem⟩
    rw [Registry.get_register] at found
    split at found
    · obtain rfl := Option.some.inj found
      rcases mem_append mem with before | ⟨-, rfl, -⟩
      · exact Nat.lt_asymm larger (sound.known before)
      · exact Nat.lt_irrefl _ larger
    · rename_i differs
      rcases mem_append mem with before | ⟨call, -⟩
      · exact sound.latest found ⟨socket', rest', later, time, larger, before⟩
      · exact differs (Call.register.inj call).1
  case waits =>
    intro timer mem
    rcases mem_timers.mp mem with before | rfl
    · by_cases own : timer.token = token
      · refine .inr ⟨socket, rest, registry.drawn, now, sound.bounded timer before, ?_⟩
        rw [own]
        exact List.mem_append_right _ List.mem_cons_self
      · rcases sound.waits timer before with ⟨entry, found, its⟩ | superseded
        · refine .inl ⟨entry, ?_, its⟩
          rw [Registry.get_register, if_neg own, found]
        · exact .inr (superseded.append _)
    · exact .inl ⟨_, (Registry.get_register token).trans (if_pos rfl), rfl⟩

end Invariant

/-! ## Steps -/

section Steps

variable {past : List Event} {state : Clocked}

/-- A timer that fires has not fired before, and its time has come. -/
theorem of_due {registry : Registry} {number : ℕ} {now : ℤ} {timer : Timer}
    (due : registry.due number now = some timer) :
    timer ∈ registry.timers ∧ timer.number = number ∧ timer.due ≤ now := by
  have met := List.find?_some due
  rw [Bool.and_eq_true, beq_iff_eq, decide_eq_true_eq] at met
  exact ⟨List.mem_of_find?_eq_some due, met⟩

/-- A timer that fires finds no entry but its own, exactly if it finds none when it is outdated. -/
theorem Sound.own_iff (sound : Sound past state) {timer : Timer}
    (inside : timer ∈ state.registry.timers) :
    (∀ entry, state.registry.get timer.token = some entry → entry.timer = timer.number) ↔
      (Superseded past timer.token timer.number → state.registry.get timer.token = none) := by
  constructor
  · intro own superseded
    rw [Option.eq_none_iff_forall_ne_some]
    intro entry found
    rw [← own entry found] at superseded
    exact sound.latest found superseded
  · intro alone entry found
    rcases sound.waits timer inside with ⟨own, there, its⟩ | superseded
    · rw [there] at found
      exact Option.some.inj found ▸ its
    · rw [alone superseded] at found
      cases found

theorem claim_eq_fire {registry : Registry} {token : Text} {entry : RegistryEntry} {timer : Timer}
    (found : registry.get token = some entry) (number : timer.number = entry.timer)
    (its : timer.token = token) : registry.claim token = registry.fire timer := by
  rw [Registry.claim, found, Registry.fire, number, its]

/-- What takes the entry of a token ends its registration. -/
theorem Sound.take (sound : Sound past state) {token : Text} {entry : RegistryEntry}
    (found : state.registry.get token = some entry) {event : Event} (other : event.Other)
    (ends : event.2.ended = some entry.timer)
    (silent : ∀ timer removed, event.2 ≠ .reported timer removed) :
    Sound (past ++ [event]) ⟨state.registry.claim token, state.now⟩ := by
  obtain ⟨timer, inside, number, its⟩ := sound.timed found
  rw [claim_eq_fire found number its]
  refine sound.remove inside (fun entry' found' => ?_) other (number ▸ ends)
    fun timer' removed reported => absurd reported (silent timer' removed)
  rw [its, found] at found'
  rw [← Option.some.inj found', number]

/-- Every step keeps what is in order, if no outdated timer finds an entry. -/
theorem Sound.step (sound : Sound past state) {call : Call}
    (alone : OutdatedAlone past state call) :
    Sound (past ++ [(call, (perform state call).1)]) (perform state call).2 := by
  cases call with
  | register token socket rest => exact sound.register token socket rest
  | claim token =>
    cases found : state.registry.get token with
    | none =>
      have left : state.registry.claim token = state.registry := by rw [Registry.claim, found]
      rw [perform, left, found]
      exact sound.idle (fun _ _ claimed => by cases claimed) rfl le_rfl
    | some entry =>
      rw [perform, found]
      exact sound.take found (fun _ _ claimed => by cases claimed) rfl
        fun _ _ claimed => by cases claimed
  | release token socket =>
    cases found : (state.registry.get token).filter (·.socket = socket) with
    | none =>
      have left : state.registry.release token socket = state.registry := by
        rw [Registry.release]
        split
        · rfl
        · rename_i entry here
          rw [here, Option.filter_eq_none_iff] at found
          have differs : entry.socket ≠ socket := by simpa using found entry rfl
          rw [if_neg differs]
      rw [perform, left, found]
      exact sound.idle (fun _ _ released => by cases released) rfl le_rfl
    | some entry =>
      obtain ⟨here, own⟩ := Option.filter_eq_some_iff.mp found
      have left : state.registry.release token socket = state.registry.claim token := by
        rw [Registry.release, here]
        exact if_pos (of_decide_eq_true own)
      rw [perform, left, found]
      exact sound.take here (fun _ _ released => by cases released) rfl
        fun _ _ released => by cases released
  | fire number =>
    cases due : state.registry.due number state.now with
    | none =>
      rw [perform, due]
      exact sound.idle (fun _ _ nothing => by cases nothing) rfl le_rfl
    | some timer =>
      obtain ⟨inside, rfl, come⟩ := of_due due
      rw [perform, due]
      exact sound.remove inside ((sound.own_iff inside).mpr (alone timer due))
        (fun _ _ reported => by cases reported) rfl fun _ _ reported => by
          cases reported
          exact come
  | pass milliseconds =>
    exact sound.idle (fun _ _ nothing => by cases nothing) rfl
      (Int.le_add_of_nonneg_right (Int.natCast_nonneg _))

end Steps

/-! ## Runs -/

section Runs

variable {past : List Event} {state : Clocked} {now : ℤ} {calls : List Call}

/-- What a timer removes is its own entry. -/
def RemovesOwn (event : Event) : Prop :=
  ∀ timer entry, event.2 = .reported timer (some entry) → entry.timer = timer.number

theorem Sound.outdatedAlone_iff (sound : Sound past state) (call : Call) :
    OutdatedAlone past state call ↔ RemovesOwn (call, (perform state call).1) := by
  cases call with
  | fire number =>
    cases due : state.registry.due number state.now with
    | none =>
      refine iff_of_true (fun timer found => ?_) fun timer entry reported => ?_
      · rw [due] at found
        cases found
      · simp only [perform, due] at reported
        cases reported
    | some timer =>
      obtain ⟨inside, rfl, -⟩ := of_due due
      have alone : OutdatedAlone past state (.fire timer.number) ↔
          (Superseded past timer.token timer.number → state.registry.get timer.token = none) := by
        simp only [OutdatedAlone, due, Option.some.injEq, forall_eq']
      have removes : RemovesOwn (.fire timer.number, (perform state (.fire timer.number)).1) ↔
          ∀ entry, state.registry.get timer.token = some entry → entry.timer = timer.number := by
        constructor
        · intro own entry found
          refine own timer entry ?_
          simp only [perform, due, found]
        · intro own timer' entry reported
          simp only [perform, due] at reported
          obtain ⟨rfl, found⟩ := Outcome.reported.inj reported
          exact own entry found
      rw [alone, removes, sound.own_iff inside]
  | _ => exact iff_of_true trivial fun _ _ reported => by cases reported

/-- A registration that waits is there to be claimed. -/
theorem Sound.claimable (sound : Sound past state) {token : Text} {socket : SocketId}
    {rest : Bytes} {number : ℕ} {time : ℤ}
    (registered : (Call.register token socket rest, Outcome.registered number time) ∈ past)
    (unclaimed : Unclaimed past number) (last : ¬ Superseded past token number)
    (early : state.now < time + Registry.timeout) :
    (perform state (.claim token)).1 = .claimed (some ⟨socket, rest, number⟩) := by
  have lasts : number ∉ endings past := by
    intro ended
    obtain ⟨⟨call, outcome⟩, inside, ends⟩ := List.mem_filterMap.mp ended
    cases outcome with
    | registered => cases ends
    | claimed entry =>
      obtain ⟨entry, rfl, its⟩ := Option.map_eq_some_iff.mp ends
      exact unclaimed call entry (.inl inside) its
    | released entry =>
      obtain ⟨entry, rfl, its⟩ := Option.map_eq_some_iff.mp ends
      exact unclaimed call entry (.inr inside) its
    | reported timer removed =>
      exact Int.not_lt.mpr (sound.late registered inside (Option.some.inj ends)) early
    | nothing => cases ends
  obtain ⟨entry, found, its⟩ | superseded := sound.waits _ (sound.opened registered lasts)
  · rw [sound.contents registered found its] at found
    exact congrArg Outcome.claimed found
  · exact absurd superseded last

theorem released_own (start : Clocked) (calls : List Call) (token : Text) (socket : SocketId)
    (entry : RegistryEntry)
    (released : (Call.release token socket, Outcome.released (some entry)) ∈
      trace perform start calls) : entry.socket = socket := by
  induction calls generalizing start with
  | nil => cases released
  | cons call calls ih =>
    rcases List.mem_cons.mp released with here | later
    · obtain ⟨rfl, outcome⟩ := Prod.mk.inj here
      have found := (Outcome.released.inj outcome).symm
      exact of_decide_eq_true (Option.filter_eq_some_iff.mp found).2
    · exact ih _ later

/-- Every run keeps what is in order, if no outdated timer finds an entry. -/
theorem sound_run (alone : Along perform OutdatedAlone [] ⟨{}, now⟩ calls) :
    Sound (trace perform ⟨{}, now⟩ calls) (final perform ⟨{}, now⟩ calls) :=
  Along.invariant Sound (fun _ _ _ sound => sound.step) alone (sound_empty now)

theorem removesOwn_iff : Along perform OutdatedAlone [] ⟨{}, now⟩ calls ↔
    ∀ event ∈ trace perform ⟨{}, now⟩ calls, RemovesOwn event := by
  rw [along_agree Sound (fun _ _ _ sound => sound.step)
    (fun _ _ call sound => sound.outdatedAlone_iff call) (sound_empty now),
    along_events_iff perform fun _ => RemovesOwn]
  constructor
  · intro own event inside
    obtain ⟨before, after, split⟩ := List.append_of_mem inside
    exact own before event after split
  · intro own before event after split
    rw [split] at own
    exact own event (List.mem_append_right _ List.mem_cons_self)

/-- From an empty registry, registrations end once, their entries are removed by themselves alone
and wait for their whole time, exactly if nothing is registered under the token of an outdated timer
when this fires. -/
theorem endsOnce_iff (now : ℤ) (calls : List Call) :
    EndsOnce ⟨{}, now⟩ calls ↔ Along perform OutdatedAlone [] ⟨{}, now⟩ calls := by
  constructor
  · intro ends
    refine removesOwn_iff.mpr fun event inside timer entry reported => ?_
    refine ends.reported event.1 timer entry ?_
    rwa [← reported]
  · intro alone
    constructor
    case once => exact (sound_run alone).once
    case released => exact released_own _ calls
    case reported =>
      exact fun call timer entry inside => removesOwn_iff.mp alone _ inside timer entry rfl
    case claimable =>
      rintro before after rfl token socket rest number time registered unclaimed last early
      have sound := sound_run ((along_append before after).mp alone).1
      exact sound.claimable registered unclaimed last early

/-- A token is registered again after half the time, and then the first timer fires. -/
def registeredAgain : List Call :=
  [.register "t" (.control 0) [], .pass 5000, .register "t" (.control 1) [], .pass 5000, .fire 0]

theorem not_endsOnce_registeredAgain : ¬ EndsOnce ⟨{}, 0⟩ registeredAgain := by
  intro ends
  have reported := ends.reported (.fire 0) ⟨0, "t", .control 0, 10000⟩ ⟨.control 1, [], 1⟩
    (List.mem_of_getElem (i := 4) (h := by decide) rfl)
  cases reported

end Runs

end Registrations

end Gateway

end OpticsHub
