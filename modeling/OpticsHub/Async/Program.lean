import Mathlib.Data.List.Forall2
import Mathlib.Logic.Basic

/-!
# Programs made of atomic actions

A program has either finished, with a value or an exception, or is about to take
an atomic action on the state that it shares with others. What it does next
depends on the state the action found. Between two actions anything may happen to
the state, so the same program has two readings. Run alone, its actions follow one
another, and the weakest precondition of a run is computed by recursion on the
program. Run among others, every action meets a state that the others have moved
on by steps of a given relation, and a second recursion says that the program ends
well whatever they do within it.
-/
namespace Async

universe u v w

/-- A finished program, or an action and what follows it. Both halves of an action
read the state in which it is taken. -/
inductive Program (σ : Type u) (ε : Type v) (α : Type v) where
  | done (result : Except ε α)
  | act (effect : σ → σ) (next : σ → Program σ ε α)

namespace Program

variable {σ : Type u} {ε α β γ : Type v}

/-- Go on with a value; an exception ends the program. -/
protected def bind : Program σ ε α → (α → Program σ ε β) → Program σ ε β
  | done (.ok value), rest => rest value
  | done (.error error), _ => done (.error error)
  | act effect next, rest => act effect fun state => (next state).bind rest

/-- Go on with the exception, if there is one. -/
protected def tryCatch : Program σ ε α → (ε → Program σ ε α) → Program σ ε α
  | done (.ok value), _ => done (.ok value)
  | done (.error error), handler => handler error
  | act effect next, handler => act effect fun state => (next state).tryCatch handler

instance : Monad (Program σ ε) where
  pure value := done (.ok value)
  bind := Program.bind

instance : MonadExcept ε (Program σ ε) where
  throw error := done (.error error)
  tryCatch := Program.tryCatch

@[simp]
theorem pure_bind' (value : α) (rest : α → Program σ ε β) :
    (pure value : Program σ ε α) >>= rest = rest value :=
  rfl

@[simp]
theorem throw_bind (error : ε) (rest : α → Program σ ε β) :
    (throw error : Program σ ε α) >>= rest = throw error :=
  rfl

@[simp]
theorem act_bind (effect : σ → σ) (next : σ → Program σ ε α) (rest : α → Program σ ε β) :
    act effect next >>= rest = act effect fun state => next state >>= rest :=
  rfl

theorem bind_pure' (program : Program σ ε α) : program >>= pure = program := by
  induction program with
  | done result => cases result <;> rfl
  | act effect next ih => exact congrArg (act effect) (funext ih)

theorem bind_assoc' (program : Program σ ε α) (rest : α → Program σ ε β)
    (last : β → Program σ ε γ) :
    program >>= rest >>= last = program >>= fun value => rest value >>= last := by
  induction program with
  | done result => cases result <;> rfl
  | act effect next ih => exact congrArg (act effect) (funext ih)

instance : LawfulMonad (Program σ ε) :=
  LawfulMonad.mk' (Program σ ε) bind_pure' (fun _ _ => rfl) bind_assoc'

/-- One atomic action: a function of the state that may throw, and whose changes stay
when it does. -/
def atomically (action : σ → Except ε α × σ) : Program σ ε α :=
  act (fun state => (action state).2) fun state => done (action state).1

/-- An atomic action that does not throw. -/
def step (action : σ → α × σ) : Program σ ε α :=
  atomically fun state => (.ok (action state).1, (action state).2)

/-- An atomic look at the state. -/
def look (view : σ → α) : Program σ ε α := step fun state => (view state, state)

/-- Throw unless a condition holds. -/
def require (condition : Prop) [Decidable condition] (error : ε) : Program σ ε PUnit :=
  if condition then pure ⟨⟩ else throw error

/-- The value, or an exception in its absence. -/
def orThrow (value : Option α) (error : ε) : Program σ ε α :=
  match value with
  | some value => pure value
  | none => throw error

/-- A computation without actions. -/
def fromExcept (result : Except ε α) : Program σ ε α := done result

/-- What follows a condition that is required. -/
theorem require_bind (condition : Prop) [Decidable condition] (error : ε)
    (rest : PUnit → Program σ ε β) :
    require condition error >>= rest = if condition then rest ⟨⟩ else throw error := by
  rw [require]
  split <;> rfl

/-! ## Computations without actions -/

/-- Two computations in a row succeed when both do. -/
theorem bind_eq_ok_iff {result : Except ε α} {rest : α → Except ε β} {value : β} :
    result >>= rest = .ok value ↔ ∃ middle, result = .ok middle ∧ rest middle = .ok value := by
  cases result with
  | ok middle =>
    constructor
    · exact fun ends => ⟨middle, rfl, ends⟩
    · rintro ⟨_, ⟨⟩, ends⟩
      exact ends
  | error error =>
    constructor
    · rintro ⟨⟩
    · rintro ⟨_, ⟨⟩, _⟩

/-- A list is converted when every item is, in its place. -/
theorem mapM_eq_ok_iff {ι : Type v} {convert : ι → Except ε α} {items : List ι}
    {values : List α} :
    items.mapM convert = .ok values ↔
      List.Forall₂ (fun item value => convert item = .ok value) items values := by
  induction items generalizing values with
  | nil =>
    rw [List.mapM_nil, List.forall₂_nil_left_iff]
    exact ⟨fun same => (Except.ok.inj same).symm, fun same => congrArg _ same.symm⟩
  | cons item items ih =>
    rw [List.mapM_cons, bind_eq_ok_iff, List.forall₂_cons_left_iff]
    refine exists_congr fun first => ?_
    simp only [bind_eq_ok_iff, ih]
    constructor
    · rintro ⟨here, rest, later, ends⟩
      exact ⟨rest, here, later, (Except.ok.inj ends).symm⟩
    · rintro ⟨rest, here, later, rfl⟩
      exact ⟨here, rest, later, rfl⟩

/-- What a list is converted to comes from its items. -/
theorem exists_of_mapM {ι : Type v} {convert : ι → Except ε α} {items : List ι}
    {values : List α} (converted : items.mapM convert = .ok values) {value : α}
    (inside : value ∈ values) : ∃ item ∈ items, convert item = .ok value := by
  rw [mapM_eq_ok_iff] at converted
  induction converted with
  | nil => cases inside
  | cons here _ ih =>
    cases inside with
    | head => exact ⟨_, List.mem_cons_self, here⟩
    | tail _ later =>
      obtain ⟨item, member, found⟩ := ih later
      exact ⟨item, List.mem_cons_of_mem _ member, found⟩

/-- Every item of a list that is converted comes to something. -/
theorem exists_mem_mapM {ι : Type v} {convert : ι → Except ε α} {items : List ι}
    {values : List α} (converted : items.mapM convert = .ok values) {item : ι}
    (inside : item ∈ items) : ∃ value ∈ values, convert item = .ok value := by
  rw [mapM_eq_ok_iff] at converted
  induction converted with
  | nil => cases inside
  | cons here _ ih =>
    cases inside with
    | head => exact ⟨_, List.mem_cons_self, here⟩
    | tail _ later =>
      obtain ⟨value, member, found⟩ := ih later
      exact ⟨value, List.mem_cons_of_mem _ member, found⟩

/-- A computation fails only in some ways. -/
def FailsAs (ways : ε → Prop) (result : Except ε α) : Prop :=
  ∀ error, result = .error error → ways error

variable {ways : ε → Prop}

theorem failsAs_ok (value : α) : FailsAs ways (.ok value : Except ε α) := by
  rintro error ⟨⟩

theorem failsAs_error {error : ε} (allowed : ways error) :
    FailsAs ways (.error error : Except ε α) := by
  rintro _ ⟨⟩
  exact allowed

theorem FailsAs.bind {result : Except ε α} {rest : α → Except ε β} (first : FailsAs ways result)
    (later : ∀ value, FailsAs ways (rest value)) : FailsAs ways (result >>= rest) := by
  cases result with
  | ok value => exact later value
  | error error => exact failsAs_error (first error rfl)

theorem FailsAs.map {result : Except ε α} (first : FailsAs ways result) (view : α → β) :
    FailsAs ways (result.map view) := by
  cases result with
  | ok value => exact failsAs_ok (view value)
  | error error => exact failsAs_error (first error rfl)

theorem failsAs_mapM {ι : Type v} {convert : ι → Except ε α} (items : List ι)
    (each : ∀ item, FailsAs ways (convert item)) : FailsAs ways (items.mapM convert) := by
  induction items with
  | nil => exact failsAs_ok []
  | cons item items ih =>
    rw [List.mapM_cons]
    exact (each item).bind fun _ => ih.bind fun _ => failsAs_ok _

/-! ## Alone -/

/-- Take all the actions one after another. -/
def run : Program σ ε α → σ → Except ε α × σ
  | done result, state => (result, state)
  | act effect next, state => (next state).run (effect state)

/-- Go on from where a run has ended. -/
def runFrom (rest : α → Program σ ε β) : Except ε α × σ → Except ε β × σ
  | (.ok value, state) => (rest value).run state
  | (.error error, state) => (.error error, state)

theorem run_bind (program : Program σ ε α) (rest : α → Program σ ε β) (state : σ) :
    (program >>= rest).run state = runFrom rest (program.run state) := by
  induction program generalizing state with
  | done result => cases result <;> rfl
  | act effect next ih => exact ih state (effect state)

theorem run_pure (value : α) (state : σ) :
    (pure value : Program σ ε α).run state = (.ok value, state) :=
  rfl

theorem run_atomically (action : σ → Except ε α × σ) (state : σ) :
    (atomically action).run state = action state :=
  rfl

/-- Handle an exception with which a run has ended, where it has ended. -/
def handleFrom (handler : ε → Program σ ε α) : Except ε α × σ → Except ε α × σ
  | (.ok value, state) => (.ok value, state)
  | (.error error, state) => (handler error).run state

theorem run_tryCatch (program : Program σ ε α) (handler : ε → Program σ ε α) (state : σ) :
    (program.tryCatch handler).run state = handleFrom handler (program.run state) := by
  induction program generalizing state with
  | done result => cases result <;> rfl
  | act effect next ih => exact ih state (effect state)

/-- What must hold of the state for a run to end, with a value or an exception, in a
state as required. -/
def wp : Program σ ε α → (α → σ → Prop) → (ε → σ → Prop) → σ → Prop
  | done (.ok value), post, _, state => post value state
  | done (.error error), _, fail, state => fail error state
  | act effect next, post, fail, state => (next state).wp post fail (effect state)

variable {post : α → σ → Prop} {fail : ε → σ → Prop} {state : σ}

@[simp]
theorem wp_pure (value : α) :
    wp (pure value : Program σ ε α) post fail state ↔ post value state :=
  Iff.rfl

@[simp]
theorem wp_throw (error : ε) :
    wp (throw error : Program σ ε α) post fail state ↔ fail error state :=
  Iff.rfl

@[simp]
theorem wp_bind (program : Program σ ε α) (rest : α → Program σ ε β) {post : β → σ → Prop} :
    wp (program >>= rest) post fail state ↔
      wp program (fun value => wp (rest value) post fail) fail state := by
  induction program generalizing state with
  | done result => cases result <;> rfl
  | act effect next ih => exact ih state

/-- The handler starts where an exception ends the first program. -/
@[simp]
theorem wp_tryCatch (program : Program σ ε α) (handler : ε → Program σ ε α) :
    wp (tryCatch program handler) post fail state ↔
      wp program post (fun error => wp (handler error) post fail) state := by
  change wp (program.tryCatch handler) post fail state ↔ _
  induction program generalizing state with
  | done result => cases result <;> rfl
  | act effect next ih => exact ih state

@[simp]
theorem wp_step (action : σ → α × σ) :
    wp (step action : Program σ ε α) post fail state ↔
      post (action state).1 (action state).2 :=
  Iff.rfl

@[simp]
theorem wp_look (view : σ → α) :
    wp (look view : Program σ ε α) post fail state ↔ post (view state) state :=
  Iff.rfl

theorem wp_atomically (action : σ → Except ε α × σ) :
    wp (atomically action) post fail state ↔
      (∀ value, (action state).1 = .ok value → post value (action state).2) ∧
      (∀ error, (action state).1 = .error error → fail error (action state).2) := by
  rw [atomically, wp]
  cases (action state).1 with
  | ok value => simp [wp]
  | error error => simp [wp]

theorem wp_atomically_ok {action : σ → Except ε α × σ} {value : α} {after : σ}
    (outcome : action state = (.ok value, after)) :
    wp (atomically action) post fail state ↔ post value after := by
  rw [atomically, wp, outcome]
  rfl

theorem wp_atomically_error {action : σ → Except ε α × σ} {error : ε} {after : σ}
    (outcome : action state = (.error error, after)) :
    wp (atomically action) post fail state ↔ fail error after := by
  rw [atomically, wp, outcome]
  rfl

@[simp]
theorem wp_require (condition : Prop) [Decidable condition] (error : ε)
    {post : PUnit → σ → Prop} :
    wp (require condition error : Program σ ε PUnit) post fail state ↔
      (condition → post ⟨⟩ state) ∧ (¬ condition → fail error state) := by
  rw [require]
  split <;> simp_all

@[simp]
theorem wp_orThrow (value : Option α) (error : ε) :
    wp (orThrow value error : Program σ ε α) post fail state ↔
      (∀ found, value = some found → post found state) ∧ (value = none → fail error state) := by
  cases value <;> simp [orThrow]

@[simp]
theorem wp_fromExcept (result : Except ε α) :
    wp (fromExcept result : Program σ ε α) post fail state ↔
      (∀ value, result = .ok value → post value state) ∧
      (∀ error, result = .error error → fail error state) := by
  cases result <;> simp [fromExcept, wp]

theorem wp_mono {post' : α → σ → Prop} {fail' : ε → σ → Prop} (program : Program σ ε α)
    (value : ∀ value state, post value state → post' value state)
    (error : ∀ error state, fail error state → fail' error state)
    (held : wp program post fail state) : wp program post' fail' state := by
  induction program generalizing state with
  | done result =>
    cases result with
    | ok result => exact value _ _ held
    | error result => exact error _ _ held
  | act effect next ih => exact ih state held

/-- The weakest precondition is what it says. -/
theorem wp_iff_run (program : Program σ ε α) :
    wp program post fail state ↔
      match program.run state with
      | (.ok value, after) => post value after
      | (.error error, after) => fail error after := by
  induction program generalizing state with
  | done result => cases result <;> rfl
  | act effect next ih => exact ih state

/-- A condition on the state alone, however the program ends. -/
theorem wp_state {condition : σ → Prop} (program : Program σ ε α) :
    wp program (fun _ => condition) (fun _ => condition) state ↔
      condition (program.run state).2 := by
  rw [wp_iff_run]
  cases program.run state with
  | mk result after => cases result <;> exact Iff.rfl

/-- A state condition that every way of ending establishes holds after the run. -/
theorem run_of_wp {condition : σ → Prop} (program : Program σ ε α)
    (held : wp program (fun _ => condition) (fun _ => condition) state) :
    condition (program.run state).2 :=
  (wp_state program).mp held

/-- What holds if a program returns holds when it has returned. -/
theorem post_of_ok {program : Program σ ε α} (held : wp program post fail state) {value : α}
    (returns : (program.run state).1 = .ok value) : post value (program.run state).2 := by
  have ends := (wp_iff_run program).mp held
  cases outcome : program.run state with
  | mk result after =>
    rw [outcome] at ends returns
    cases returns
    exact ends

/-- What holds if a program returns holds when it has returned something. -/
theorem exists_of_isOk {program : Program σ ε α} (held : wp program post fail state)
    (returns : (program.run state).1.isOk = true) : ∃ value, post value (program.run state).2 := by
  cases outcome : (program.run state).1 with
  | ok value => exact ⟨value, post_of_ok held outcome⟩
  | error error =>
    rw [outcome] at returns
    cases returns

/-! ## What a program throws -/

/-- Wherever it is run, a program throws only some errors. -/
def ThrowsOnly (ways : ε → Prop) (program : Program σ ε α) : Prop :=
  ∀ state, wp program (fun _ _ => True) (fun error _ => ways error) state

theorem throwsOnly_pure (value : α) : ThrowsOnly ways (pure value : Program σ ε α) :=
  fun _ => trivial

theorem ThrowsOnly.bind {program : Program σ ε α} {rest : α → Program σ ε β}
    (first : ThrowsOnly ways program) (later : ∀ value, ThrowsOnly ways (rest value)) :
    ThrowsOnly ways (program >>= rest) := by
  intro state
  rw [wp_bind]
  exact wp_mono program (fun value after _ => later value after) (fun _ _ held => held) (first state)

theorem throwsOnly_step (action : σ → α × σ) :
    ThrowsOnly ways (step action : Program σ ε α) :=
  fun _ => trivial

theorem throwsOnly_require (condition : Prop) [Decidable condition] {error : ε}
    (allowed : ways error) : ThrowsOnly ways (require condition error : Program σ ε PUnit) := by
  intro state
  rw [wp_require]
  exact ⟨fun _ => trivial, fun _ => allowed⟩

theorem throwsOnly_orThrow (value : Option α) {error : ε} (allowed : ways error) :
    ThrowsOnly ways (orThrow value error : Program σ ε α) := by
  intro state
  rw [wp_orThrow]
  exact ⟨fun _ _ => trivial, fun _ => allowed⟩

/-- What is handled does not matter. -/
theorem throwsOnly_tryCatch (program : Program σ ε α) {handler : ε → Program σ ε α}
    (handled : ∀ error, ThrowsOnly ways (handler error)) :
    ThrowsOnly ways (tryCatch program handler) := by
  intro state
  rw [wp_tryCatch]
  have ends : wp program (fun _ _ => True) (fun _ _ => True) state := by
    rw [wp_state]
    trivial
  exact wp_mono program (fun _ _ _ => trivial) (fun error after _ => handled error after) ends

/-! ## Among others -/

/-- Whatever steps of the first relation the others take before each action, the action
is a step of the second, and the program ends as required. -/
def Withstands (rely guarantee : σ → σ → Prop) (ends : Except ε α → σ → Prop) :
    Program σ ε α → σ → Prop
  | done result, state => ends result state
  | act effect next, state => ∀ state', rely state state' →
    guarantee state' (effect state') ∧
      (next state').Withstands rely guarantee ends (effect state')

variable {rely guarantee : σ → σ → Prop} {ends : Except ε α → σ → Prop}

@[simp]
theorem withstands_pure (value : α) :
    Withstands rely guarantee ends (pure value : Program σ ε α) state ↔ ends (.ok value) state :=
  Iff.rfl

@[simp]
theorem withstands_throw (error : ε) :
    Withstands rely guarantee ends (throw error : Program σ ε α) state ↔
      ends (.error error) state :=
  Iff.rfl

/-- The rest of a program starts where its first part ends. -/
def Continues (rely guarantee : σ → σ → Prop) (ends : Except ε β → σ → Prop)
    (rest : α → Program σ ε β) : Except ε α → σ → Prop
  | .ok value, state => Withstands rely guarantee ends (rest value) state
  | .error error, state => ends (.error error) state

@[simp]
theorem withstands_bind (program : Program σ ε α) (rest : α → Program σ ε β)
    {ends : Except ε β → σ → Prop} :
    Withstands rely guarantee ends (program >>= rest) state ↔
      Withstands rely guarantee (Continues rely guarantee ends rest) program state := by
  induction program generalizing state with
  | done result => cases result <;> rfl
  | act effect next ih =>
    exact forall_congr' fun _ => imp_congr_right fun _ => and_congr_right fun _ => ih _

@[simp]
theorem continues_ok {ends : Except ε β → σ → Prop} (rest : α → Program σ ε β) (value : α) :
    Continues rely guarantee ends rest (.ok value) state ↔
      Withstands rely guarantee ends (rest value) state :=
  Iff.rfl

@[simp]
theorem continues_error {ends : Except ε β → σ → Prop} (rest : α → Program σ ε β) (error : ε) :
    Continues rely guarantee ends rest (.error error) state ↔ ends (.error error) state :=
  Iff.rfl

@[simp]
theorem withstands_step (action : σ → α × σ) :
    Withstands rely guarantee ends (step action : Program σ ε α) state ↔
      ∀ state', rely state state' → guarantee state' (action state').2 ∧
        ends (.ok (action state').1) (action state').2 :=
  Iff.rfl

@[simp]
theorem withstands_look (view : σ → α) :
    Withstands rely guarantee ends (look view : Program σ ε α) state ↔
      ∀ state', rely state state' → guarantee state' state' ∧ ends (.ok (view state')) state' :=
  Iff.rfl

@[simp]
theorem withstands_atomically (action : σ → Except ε α × σ) :
    Withstands rely guarantee ends (atomically action) state ↔
      ∀ state', rely state state' → guarantee state' (action state').2 ∧
        ends (action state').1 (action state').2 :=
  Iff.rfl

@[simp]
theorem withstands_require (condition : Prop) [Decidable condition] (error : ε)
    {ends : Except ε PUnit → σ → Prop} :
    Withstands rely guarantee ends (require condition error : Program σ ε PUnit) state ↔
      (condition → ends (.ok ⟨⟩) state) ∧ (¬ condition → ends (.error error) state) := by
  rw [require]
  split <;> simp_all

@[simp]
theorem withstands_orThrow (value : Option α) (error : ε) :
    Withstands rely guarantee ends (orThrow value error : Program σ ε α) state ↔
      (∀ found, value = some found → ends (.ok found) state) ∧
      (value = none → ends (.error error) state) := by
  cases value <;> simp [orThrow]

@[simp]
theorem withstands_fromExcept (result : Except ε α) :
    Withstands rely guarantee ends (fromExcept result : Program σ ε α) state ↔ ends result state :=
  Iff.rfl

theorem Withstands.mono {ends' : Except ε α → σ → Prop} {guarantee' : σ → σ → Prop}
    {program : Program σ ε α} (held : Withstands rely guarantee ends program state)
    (steps : ∀ before after, guarantee before after → guarantee' before after)
    (ending : ∀ result state, ends result state → ends' result state) :
    Withstands rely guarantee' ends' program state := by
  induction program generalizing state with
  | done result => exact ending _ _ held
  | act effect next ih =>
    exact fun state' moved => ⟨steps _ _ (held state' moved).1, ih _ (held state' moved).2⟩

/-- The rule for a program in two parts, by what holds between them. -/
theorem Withstands.bind {program : Program σ ε α} {rest : α → Program σ ε β}
    {ends : Except ε β → σ → Prop} {middle : Except ε α → σ → Prop}
    (first : Withstands rely guarantee middle program state)
    (later : ∀ value state, middle (.ok value) state →
      Withstands rely guarantee ends (rest value) state)
    (fails : ∀ error state, middle (.error error) state → ends (.error error) state) :
    Withstands rely guarantee ends (program >>= rest) state := by
  rw [withstands_bind]
  refine first.mono (fun _ _ held => held) fun result state held => ?_
  cases result with
  | ok value => exact later value state held
  | error error => exact fails error state held

/-- The rule for a program with a handler, by what holds where it begins. -/
theorem Withstands.tryCatch {program : Program σ ε α} {handler : ε → Program σ ε α}
    {middle : Except ε α → σ → Prop}
    (first : Withstands rely guarantee middle program state)
    (returns : ∀ value state, middle (.ok value) state → ends (.ok value) state)
    (handled : ∀ error state, middle (.error error) state →
      Withstands rely guarantee ends (handler error) state) :
    Withstands rely guarantee ends (tryCatch program handler) state := by
  change Withstands rely guarantee ends (program.tryCatch handler) state
  induction program generalizing state with
  | done result =>
    cases result with
    | ok value => exact returns value state first
    | error error => exact handled error state first
  | act effect next ih =>
    exact fun state' moved => ⟨(first state' moved).1, ih _ (first state' moved).2⟩

/-- A program is not disturbed by a step of the others, if what it has established is
not. -/
theorem Withstands.rest {program : Program σ ε α} {state' : σ}
    (transitive : ∀ {first second third}, rely first second → rely second third →
      rely first third)
    (stable : ∀ result state state', ends result state → rely state state' → ends result state')
    (held : Withstands rely guarantee ends program state) (moved : rely state state') :
    Withstands rely guarantee ends program state' := by
  cases program with
  | done result => exact stable result state state' held moved
  | act effect next => exact fun state'' later => held state'' (transitive moved later)

/-! ## Wherever the actions are taken -/

/-- Whatever the others do, every action of the program is a step of the relation. -/
def Always (steps : σ → σ → Prop) (program : Program σ ε α) : Prop :=
  ∀ state, Withstands (fun _ _ => True) steps (fun _ _ => True) program state

variable {steps : σ → σ → Prop}

theorem always_pure (value : α) : Always steps (pure value : Program σ ε α) := fun _ => trivial

theorem always_throw (error : ε) : Always steps (throw error : Program σ ε α) := fun _ => trivial

theorem Always.bind {program : Program σ ε α} {rest : α → Program σ ε β}
    (first : Always steps program) (later : ∀ value, Always steps (rest value)) :
    Always steps (program >>= rest) :=
  fun state => (first state).bind (fun value state _ => later value state) fun _ _ _ => trivial

theorem always_atomically {action : σ → Except ε α × σ}
    (held : ∀ state, steps state (action state).2) : Always steps (atomically action) :=
  fun _ state' _ => ⟨held state', trivial⟩

theorem always_step {action : σ → α × σ} (held : ∀ state, steps state (action state).2) :
    Always steps (step action : Program σ ε α) :=
  fun _ state' _ => ⟨held state', trivial⟩

theorem always_look (reflexive : ∀ state, steps state state) (view : σ → α) :
    Always steps (look view : Program σ ε α) :=
  always_step reflexive

theorem always_require (condition : Prop) [Decidable condition] (error : ε) :
    Always steps (require condition error : Program σ ε PUnit) := by
  rw [require]
  split
  · exact always_pure _
  · exact always_throw _

theorem always_orThrow (value : Option α) (error : ε) :
    Always steps (orThrow value error : Program σ ε α) := by
  cases value with
  | none => exact always_throw _
  | some value => exact always_pure _

theorem always_fromExcept (result : Except ε α) :
    Always steps (fromExcept result : Program σ ε α) :=
  fun _ => trivial

theorem Always.tryCatch {program : Program σ ε α} {handler : ε → Program σ ε α}
    (first : Always steps program) (handled : ∀ error, Always steps (handler error)) :
    Always steps (tryCatch program handler) := by
  change Always steps (program.tryCatch handler)
  induction program with
  | done result =>
    cases result with
    | ok value => exact always_pure value
    | error error => exact handled error
  | act effect next ih =>
    intro state state' moved
    obtain ⟨here, later⟩ := first state state' moved
    refine ⟨here, ih state' (fun state'' => ?_) (effect state')⟩
    exact later.rest (fun _ _ => trivial) (fun _ _ _ _ _ => trivial) trivial

theorem always_mapM {ι : Type w} {convert : ι → Program σ ε α} {items : List ι}
    (each : ∀ item, Always steps (convert item)) : Always steps (items.mapM convert) := by
  induction items with
  | nil => exact always_pure []
  | cons item items ih =>
    rw [List.mapM_cons]
    exact (each item).bind fun _ => ih.bind fun _ => always_pure _

theorem Always.mono {steps' : σ → σ → Prop} {program : Program σ ε α}
    (always : Always steps program) (weaker : ∀ before after, steps before after →
      steps' before after) : Always steps' program :=
  fun state => (always state).mono weaker fun _ _ held => held

/-- Actions that are allowed whenever they are taken need nothing to rely on. -/
theorem Always.withstands {program : Program σ ε α} (always : Always steps program)
    (allowed : ∀ before after, steps before after → guarantee before after) :
    Withstands rely guarantee (fun _ _ => True) program state := by
  have every := (always state).mono allowed fun _ _ held => held
  clear always
  induction program generalizing state with
  | done result => trivial
  | act effect next ih =>
    exact fun state' _ => ⟨(every state' trivial).1, ih state' (every state' trivial).2⟩

/-- The next action is allowed in any state, and so are those of the rest. -/
theorem Always.next {effect : σ → σ} {next : σ → Program σ ε α}
    (always : Always steps (act effect next)) (state : σ) :
    steps state (effect state) ∧ Always steps (next state) := by
  obtain ⟨first, later⟩ := always state state trivial
  refine ⟨first, fun state' => ?_⟩
  exact later.rest (fun _ _ => trivial) (fun _ _ _ _ _ => trivial) trivial

/-- Actions that are steps of a preorder make a whole run one. -/
theorem Always.run {program : Program σ ε α} (always : Always steps program)
    (reflexive : ∀ state, steps state state)
    (transitive : ∀ {first second third}, steps first second → steps second third →
      steps first third) (state : σ) : steps state (program.run state).2 := by
  induction program generalizing state with
  | done result => exact reflexive state
  | act effect next ih =>
    exact transitive (always.next state).1 (ih state (always.next state).2 (effect state))

/-- What the actions keep, and the others too, holds at the end. -/
theorem Always.withstands_keeping {program : Program σ ε α} {property : σ → Prop}
    (always : Always steps program)
    (kept : ∀ before after, steps before after → property before → property after)
    (stable : ∀ before after, rely before after → property before → property after)
    (held : property state) :
    Withstands rely (fun _ _ => True) (fun _ => property) program state := by
  induction program generalizing state with
  | done result => exact held
  | act effect next ih =>
    intro state' moved
    refine ⟨trivial, ih state' (always.next state').2 ?_⟩
    exact kept _ _ (always.next state').1 (stable _ _ moved held)

/-- Such actions may come first. -/
theorem Always.bind_withstands {program : Program σ ε α} {rest : α → Program σ ε β}
    (always : Always steps program)
    (allowed : ∀ before after, steps before after → guarantee before after)
    (later : ∀ value state, Withstands rely guarantee (fun _ _ => True) (rest value) state) :
    Withstands rely guarantee (fun _ _ => True) (program >>= rest) state := by
  apply Withstands.bind (always.withstands allowed)
  · exact fun value state _ => later value state
  · exact fun _ _ _ => trivial

/-! ## On a part of the state -/

/-- A program that acts on a part of a larger state. -/
def zoom {τ : Type w} (get : τ → σ) (put : σ → τ → τ) : Program σ ε α → Program τ ε α
  | done result => done result
  | act effect next =>
    act (fun whole => put (effect (get whole)) whole) fun whole => (next (get whole)).zoom get put

/-- What replacing the part keeps, a program on the part keeps. -/
theorem always_zoom {τ : Type w} {get : τ → σ} {put : σ → τ → τ} {steps : τ → τ → Prop}
    (kept : ∀ whole part, steps whole (put part whole)) (program : Program σ ε α) :
    Always steps (program.zoom get put) := by
  induction program with
  | done result => exact fun _ => trivial
  | act effect next ih => exact fun _ whole _ => ⟨kept whole _, ih (get whole) _⟩

/-- Actions that are allowed on the part are allowed on the whole, if replacing the part is. -/
theorem Always.zoom {τ : Type w} {get : τ → σ} {put : σ → τ → τ} {steps' : τ → τ → Prop}
    {program : Program σ ε α} (always : Always steps program)
    (allowed : ∀ whole part, steps (get whole) part → steps' whole (put part whole)) :
    Always steps' (program.zoom get put) := by
  induction program with
  | done result => exact fun _ => trivial
  | act effect next ih =>
    intro _ whole _
    obtain ⟨first, later⟩ := always.next (get whole)
    exact ⟨allowed whole _ first, ih (get whole) later _⟩

/-- On a part, a program throws what it throws. -/
theorem ThrowsOnly.zoom {τ : Type w} {get : τ → σ} {put : σ → τ → τ} {program : Program σ ε α}
    (throws : ThrowsOnly ways program) (fits : ∀ part whole, get (put part whole) = part) :
    ThrowsOnly ways (program.zoom get put) := by
  intro whole
  have held := throws (get whole)
  clear throws
  induction program generalizing whole with
  | done result => cases result <;> exact held
  | act effect next ih =>
    apply ih (get whole) (put (effect (get whole)) whole)
    rw [fits]
    exact held

/-- Alone, such a program does to the part what it does, and nothing to the rest. -/
theorem run_zoom {τ : Type w} {get : τ → σ} {put : σ → τ → τ}
    (get_put : ∀ part whole, get (put part whole) = part)
    (put_put : ∀ part part' whole, put part (put part' whole) = put part whole)
    (put_get : ∀ whole, put (get whole) whole = whole) (program : Program σ ε α) (whole : τ) :
    (program.zoom get put).run whole =
      ((program.run (get whole)).1, put (program.run (get whole)).2 whole) := by
  induction program generalizing whole with
  | done result => exact Prod.ext rfl (put_get whole).symm
  | act effect next ih =>
    rw [zoom, run, ih, get_put, put_put, run]

end Program

end Async
