import OpticsHub.Machine.Run
import OpticsHub.Script.Text
import OpticsHub.Table.Rows
import OpticsHub.Table.Sorted
import Mathlib.Algebra.Order.Floor.Ring
import Mathlib.Data.Rat.Floor
import Mathlib.Tactic.Linarith

/-!
# Codes that are sent to an address

A code is sent to an address, and registers whoever presents it for some time after it was issued.
Another one may be asked for after a shorter time, counted from when one was last sent. A code
that stays valid for that time at least is sent again, and keeps its time of issue; otherwise a
new one is issued. Dates are whole milliseconds, and what a date is made of is cut off at them.
-/
namespace OpticsHub

open Script Machine

namespace AuthService

/-! ## Dates -/

/-- `new Date(milliseconds).getTime()` -/
def dateOf (milliseconds : ℚ) : ℤ :=
  if 0 ≤ milliseconds then ⌊milliseconds⌋ else ⌈milliseconds⌉

@[simp]
theorem dateOf_intCast (n : ℤ) : dateOf n = n := by simp [dateOf]

theorem dateOf_mono {first second : ℚ} (le : first ≤ second) : dateOf first ≤ dateOf second := by
  unfold dateOf
  split_ifs with positive positive' positive'
  · exact Int.floor_le_floor le
  · exact absurd (positive.trans le) positive'
  · have before : ⌈first⌉ ≤ 0 := Int.ceil_le.mpr (by push_cast; linarith)
    exact before.trans (Int.floor_nonneg.mpr positive')
  · exact Int.ceil_le_ceil le

/-- What is before a date gives no later one. -/
theorem dateOf_le {milliseconds : ℚ} {n : ℤ} (le : milliseconds ≤ n) : dateOf milliseconds ≤ n :=
  (dateOf_mono le).trans_eq (dateOf_intCast n)

/-- A date a number of milliseconds later is not after one that is made from the date and
more. -/
theorem dateOf_add_le (start : ℚ) {later : ℤ} {more : ℚ} (nonneg : 0 ≤ later)
    (less : (later : ℚ) ≤ more) : dateOf (start + later) ≤ dateOf (dateOf start + more) := by
  have positive' : (0 : ℚ) ≤ later := by exact_mod_cast nonneg
  by_cases positive : 0 ≤ start
  · have whole : dateOf (start + later) = dateOf start + later := by
      rw [dateOf, dateOf, if_pos positive, if_pos (add_nonneg positive positive'),
        Int.floor_add_intCast]
    rw [whole, ← dateOf_intCast (dateOf start + later)]
    refine dateOf_mono ?_
    push_cast
    linarith
  · have cut : start ≤ dateOf start := by
      rw [dateOf, if_neg positive]
      exact Int.le_ceil start
    exact dateOf_mono (by linarith)

/-! ## The table -/

/-- A row of `verification`. -/
structure VerificationRow where
  verificationIndex : ℕ
  verificationEmail : Text
  verificationCode : Text
  verificationCreatedAt : ℤ
  verificationLastSentAt : ℤ
  verificationConsumedAt : Option ℤ := none
  deriving DecidableEq

instance : Keyed VerificationRow where
  key := VerificationRow.verificationIndex

/-- The table, and how many codes were drawn. -/
structure Verifications where
  verification : Table VerificationRow := Table.empty
  drawn : ℕ := 0

/-- The settings, of which the wait between two mails is no longer than a code is valid. -/
structure MailConfig where
  verificationTtlMinutes : ℚ
  verificationResendCooldownSeconds : ℚ
  cooldown_nonneg : 0 ≤ verificationResendCooldownSeconds
  cooldown_le : verificationResendCooldownSeconds ≤ verificationTtlMinutes * 60

/-- `findFirst` with an order, the latest first. -/
def findLatest (time : VerificationRow → ℤ) (selected : VerificationRow → Bool)
    (table : Table VerificationRow) : Option VerificationRow :=
  (table.rows.mergeSort fun first second => decide (time second ≤ time first)).find? selected

section Queries

variable {time : VerificationRow → ℤ} {selected : VerificationRow → Bool}
  {table : Table VerificationRow} {row : VerificationRow}

/-- The row that is found is selected, and none that is selected is later. -/
theorem findLatest_spec (found : findLatest time selected table = some row) :
    row ∈ table ∧ selected row = true ∧
      ∀ other ∈ table, selected other = true → time other ≤ time row := by
  obtain ⟨inside, chosen, least⟩ := List.least_of_find?_mergeSort
    (fun _ _ _ before after => by
      rw [decide_eq_true_eq] at before after ⊢
      exact after.trans before)
    (fun first second => by
      rw [Bool.or_eq_true, decide_eq_true_eq, decide_eq_true_eq]
      exact le_total _ _) found
  refine ⟨inside, chosen, fun other inside' chosen' => ?_⟩
  rcases least other inside' chosen' with rfl | before
  · exact le_rfl
  · exact of_decide_eq_true before

theorem findLatest_eq_none (none : findLatest time selected table = none) :
    ∀ row ∈ table, selected row = false := by
  intro row inside
  have missed := List.find?_eq_none.mp none row (List.mem_mergeSort.mpr inside)
  simpa using missed

/-- A row that is selected is found, or another is. -/
theorem isSome_findLatest (inside : row ∈ table) (chosen : selected row = true) :
    (findLatest time selected table).isSome = true := by
  cases found : findLatest time selected table with
  | none =>
    rw [findLatest_eq_none found row inside] at chosen
    cases chosen
  | some _ => rfl

end Queries

/-! ## Issuing -/

/-- Why no code is sent. -/
structure TooManyRequests where
  message : String
  retryAfterSeconds : ℤ
  deriving DecidableEq

section Issuing

variable (config : MailConfig) (randomUUID : ℕ → Text)

def cooldownMs : ℚ := config.verificationResendCooldownSeconds * 1000

def ttlMs : ℚ := config.verificationTtlMinutes * 60000

def verificationIssuedAfter (now : ℤ) : ℤ := dateOf (now - ttlMs config)

/-- The seconds until a mail may be sent, once one was sent at a time. -/
def remainingSeconds (lastSentAt now : ℤ) : ℤ :=
  ⌈(cooldownMs config - (now - lastSentAt)) / 1000⌉

/-- Why a mail may not be sent to an address yet. -/
def cooldownRefusal (email : Text) (now : ℤ) (state : Verifications) : Option TooManyRequests :=
  match findLatest VerificationRow.verificationLastSentAt
      (fun row => row.verificationEmail == email) state.verification with
  | none => none
  | some lastSent =>
    if 0 < remainingSeconds config lastSent.verificationLastSentAt now then
      some ⟨"Please wait before requesting another verification email.",
        remainingSeconds config lastSent.verificationLastSentAt now⟩
    else none

/-- The code that is sent again. -/
def findReusable (email : Text) (now : ℤ) (state : Verifications) : Option VerificationRow :=
  let reusableAfter := dateOf (verificationIssuedAfter config now + cooldownMs config)
  findLatest VerificationRow.verificationCreatedAt
    (fun row => row.verificationEmail == email && row.verificationConsumedAt.isNone &&
      decide (reusableAfter ≤ row.verificationCreatedAt)) state.verification

def issueOrReuseVerification (email : Text) (now : ℤ) (state : Verifications) :
    Except TooManyRequests VerificationRow × Verifications :=
  match cooldownRefusal config email now state with
  | some refusal => (.error refusal, state)
  | none =>
    match findReusable config email now state with
    | some reusable =>
      (.ok { reusable with verificationLastSentAt := now },
        { state with
          verification := state.verification.updateMany
            (fun row => row.verificationIndex == reusable.verificationIndex)
            fun row => { row with verificationLastSentAt := now } })
    | none =>
      let row (index : ℕ) : VerificationRow :=
        { verificationIndex := index
          verificationEmail := email
          verificationCode := randomUUID state.drawn
          verificationCreatedAt := now
          verificationLastSentAt := now }
      (.ok (row state.verification.next),
        { verification := state.verification.create row, drawn := state.drawn + 1 })

/-- Whether `register` accepts a code. -/
def accepts (code : Text) (now : ℤ) (state : Verifications) : Bool :=
  (findLatest VerificationRow.verificationCreatedAt
    (fun row => row.verificationCode == code && row.verificationConsumedAt.isNone &&
      decide (verificationIssuedAfter config now ≤ row.verificationCreatedAt))
    state.verification).isSome

end Issuing

/-! ## What one call does -/

section Steps

variable {config : MailConfig} {randomUUID : ℕ → Text} {email : Text} {now : ℤ}
  {state : Verifications}

theorem cooldownMs_nonneg : 0 ≤ cooldownMs config :=
  mul_nonneg config.cooldown_nonneg (by norm_num)

theorem cooldownMs_le : cooldownMs config ≤ ttlMs config := by
  have le := config.cooldown_le
  rw [cooldownMs, ttlMs]
  linarith

/-- Seconds remain as long as the wait is not over. -/
theorem remainingSeconds_pos_iff (lastSentAt : ℤ) :
    0 < remainingSeconds config lastSentAt now ↔ (now - lastSentAt : ℚ) < cooldownMs config := by
  rw [remainingSeconds, Int.ceil_pos]
  constructor
  · intro positive
    linarith
  · intro less
    linarith

/-- A mail may be sent once the wait is over since every mail to the address. -/
theorem cooldownRefusal_eq_none_iff :
    cooldownRefusal config email now state = none ↔
      ∀ row ∈ state.verification, row.verificationEmail = email →
        cooldownMs config ≤ (now - row.verificationLastSentAt : ℚ) := by
  rw [cooldownRefusal]
  split
  · rename_i none
    refine ⟨fun _ row inside here => ?_, fun _ => rfl⟩
    have missed := findLatest_eq_none none row inside
    rw [here, beq_self_eq_true] at missed
    cases missed
  · rename_i lastSent found
    obtain ⟨inside, chosen, latest⟩ := findLatest_spec found
    rw [ite_eq_right_iff, remainingSeconds_pos_iff]
    constructor
    · intro waited row inside' here
      have before : (row.verificationLastSentAt : ℚ) ≤ lastSent.verificationLastSentAt := by
        exact_mod_cast latest row inside' (beq_iff_eq.mpr here)
      by_contra less
      have refused := waited (by linarith)
      cases refused
    · intro waited less
      exact absurd (waited lastSent inside (beq_iff_eq.mp chosen)) (not_le.mpr less)

/-- A code was sent to an address: its row has the time of the call, stays valid until the next
may be sent, and no other row has changed. -/
structure Issued (config : MailConfig) (email : Text) (now : ℤ) (before : Verifications)
    (row : VerificationRow) (after : Verifications) : Prop where
  waited : cooldownRefusal config email now before = none
  here : row.verificationEmail = email
  unconsumed : row.verificationConsumedAt = none
  sent : row.verificationLastSentAt = now
  valid : ∀ moment, now ≤ moment → (moment - now : ℚ) < cooldownMs config →
    verificationIssuedAfter config moment ≤ row.verificationCreatedAt
  inside : row ∈ after.verification
  others : ∀ other ∈ after.verification, other = row ∨ other ∈ before.verification
  kept : ∀ other ∈ before.verification, other ∈ after.verification ∨
    other.verificationEmail = email ∧ other.verificationIndex = row.verificationIndex

/-- A code that may be sent again stays valid until the next may be sent. -/
theorem valid_of_reusable {created moment : ℤ} (after : now ≤ moment)
    (less : (moment - now : ℚ) < cooldownMs config)
    (reusable : dateOf (verificationIssuedAfter config now + cooldownMs config) ≤ created) :
    verificationIssuedAfter config moment ≤ created := by
  have later := @dateOf_add_le (now - ttlMs config) (moment - now) (cooldownMs config) (by omega)
    (by push_cast; exact less.le)
  have same : (now - ttlMs config + ((moment - now : ℤ) : ℚ)) = moment - ttlMs config := by
    push_cast
    ring
  rw [same] at later
  exact later.trans reusable

theorem valid_of_new {moment : ℤ} (less : (moment - now : ℚ) < cooldownMs config) :
    verificationIssuedAfter config moment ≤ now := by
  have le := @cooldownMs_le config
  exact dateOf_le (by linarith)

theorem mem_resent {table : Table VerificationRow} {reusable other : VerificationRow}
    (inside : reusable ∈ table) :
    other ∈ table.updateMany (fun row => row.verificationIndex == reusable.verificationIndex)
        (fun row => { row with verificationLastSentAt := now }) ↔
      other = { reusable with verificationLastSentAt := now } ∨
        other ∈ table ∧ other.verificationIndex ≠ reusable.verificationIndex :=
  Table.mem_updateMany_key inside

/-- A call is refused and changes nothing, or a code is sent. -/
theorem issueOrReuseVerification_cases :
    (∃ refusal, cooldownRefusal config email now state = some refusal ∧
      issueOrReuseVerification config randomUUID email now state = (.error refusal, state)) ∨
    ∃ row after, issueOrReuseVerification config randomUUID email now state = (.ok row, after) ∧
      Issued config email now state row after := by
  rw [issueOrReuseVerification]
  cases waited : cooldownRefusal config email now state with
  | some refusal => exact .inl ⟨refusal, rfl, rfl⟩
  | none =>
    right
    cases found : findReusable config email now state with
    | some reusable =>
      obtain ⟨inside, chosen, -⟩ := findLatest_spec found
      rw [Bool.and_eq_true, Bool.and_eq_true, beq_iff_eq, decide_eq_true_eq,
        Option.isNone_iff_eq_none] at chosen
      obtain ⟨⟨here, unconsumed⟩, fresh⟩ := chosen
      refine ⟨_, _, rfl, waited, here, unconsumed, rfl,
        fun moment after less => valid_of_reusable after less fresh, ?_, fun other changed => ?_,
        fun other known => ?_⟩
      · exact (mem_resent inside).mpr (.inl rfl)
      · exact ((mem_resent inside).mp changed).imp_right And.left
      · by_cases same : other.verificationIndex = reusable.verificationIndex
        · obtain rfl := Table.eq_of_key known inside same
          exact .inr ⟨here, rfl⟩
        · exact .inl ((mem_resent inside).mpr (.inr ⟨known, same⟩))
    | none =>
      refine ⟨_, _, rfl, waited, rfl, rfl, rfl, fun moment _ less => valid_of_new less, ?_,
        fun other changed => ?_, fun other known => .inl ?_⟩
      · exact Table.mem_create.mpr (.inr rfl)
      · exact (Table.mem_create.mp changed).symm
      · exact Table.mem_create.mpr (.inl known)

end Steps

/-! ## Runs -/

/-- A call for an address at one instant. -/
structure IssueCall where
  email : Text
  now : ℤ
  deriving DecidableEq

section Runs

variable (config : MailConfig) (randomUUID : ℕ → Text)

/-- One call after another. -/
abbrev issuing : Transition Verifications IssueCall (Except TooManyRequests VerificationRow) :=
  fun state call => issueOrReuseVerification config randomUUID call.email call.now state

/-- The code that a call returned for an address, and when. -/
def returned (email : Text) (event : IssueCall × Except TooManyRequests VerificationRow) :
    Option (ℤ × VerificationRow) :=
  match event.2 with
  | .ok row => if event.1.email = email then some (event.1.now, row) else none
  | .error _ => none

/-- The latest code that was returned for an address. -/
def latestReturned (email : Text)
    (events : List (IssueCall × Except TooManyRequests VerificationRow)) :
    Option (ℤ × VerificationRow) :=
  (events.filterMap (returned email)).getLast?

variable {config randomUUID} {email : Text}
  {past : List (IssueCall × Except TooManyRequests VerificationRow)} {state : Verifications}

theorem returned_eq_some_iff {event : IssueCall × Except TooManyRequests VerificationRow}
    {code : ℤ × VerificationRow} :
    returned email event = some code ↔
      event.1.email = email ∧ event.2 = .ok code.2 ∧ event.1.now = code.1 := by
  obtain ⟨call, outcome⟩ := event
  obtain ⟨sent, row⟩ := code
  cases outcome with
  | error refusal => simp [returned]
  | ok row' =>
    simp only [returned, Option.ite_none_right_eq_some, Option.some.injEq, Prod.mk.injEq,
      Except.ok.injEq]
    tauto

theorem latestReturned_append {event : IssueCall × Except TooManyRequests VerificationRow} :
    latestReturned email (past ++ [event]) =
      (returned email event).or (latestReturned email past) := by
  rw [latestReturned, List.filterMap_append]
  cases here : returned email event with
  | none => simp [latestReturned, here]
  | some code => simp [here]

/-- The table knows of every mail that was sent to an address, and the code that was returned last
stays valid until the next may be sent. -/
structure Remembers (config : MailConfig) (email : Text)
    (past : List (IssueCall × Except TooManyRequests VerificationRow)) (state : Verifications) :
    Prop where
  sent : ∀ event ∈ past, ∀ code, returned email event = some code →
    ∃ row ∈ state.verification, row.verificationEmail = email ∧
      code.1 ≤ row.verificationLastSentAt
  inside : ∀ code, latestReturned email past = some code →
    code.2 ∈ state.verification ∧ code.2.verificationEmail = email ∧
      code.2.verificationConsumedAt = none
  valid : ∀ code, latestReturned email past = some code → ∀ moment, code.1 ≤ moment →
    (moment - code.1 : ℚ) < cooldownMs config →
      verificationIssuedAfter config moment ≤ code.2.verificationCreatedAt
  latest : ∀ code, latestReturned email past = some code → ∀ row ∈ state.verification,
    row.verificationEmail = email → row.verificationLastSentAt ≤ code.1

theorem remembers_nil (state : Verifications) : Remembers config email [] state where
  sent event inside := absurd inside List.not_mem_nil
  inside code none := by cases none
  valid code none := by cases none
  latest code none := by cases none

/-- A call that returns no code for the address leaves what is known of it. -/
theorem Remembers.quiet (remembers : Remembers config email past state)
    {event : IssueCall × Except TooManyRequests VerificationRow} {after : Verifications}
    (silent : returned email event = none)
    (kept : ∀ row ∈ state.verification, row.verificationEmail = email → row ∈ after.verification)
    (known : ∀ row ∈ after.verification, row.verificationEmail = email →
      row ∈ state.verification) :
    Remembers config email (past ++ [event]) after where
  sent event' inside code found := by
    rcases List.mem_append.mp inside with before | last
    · obtain ⟨row, listed, here, le⟩ := remembers.sent event' before code found
      exact ⟨row, kept row listed here, here, le⟩
    · rw [List.mem_singleton.mp last, silent] at found
      cases found
  inside code found := by
    rw [latestReturned_append, silent, Option.none_or] at found
    obtain ⟨listed, here, unconsumed⟩ := remembers.inside code found
    exact ⟨kept _ listed here, here, unconsumed⟩
  valid code found := by
    rw [latestReturned_append, silent, Option.none_or] at found
    exact remembers.valid code found
  latest code found row listed here := by
    rw [latestReturned_append, silent, Option.none_or] at found
    exact remembers.latest code found row (known row listed here) here

/-- A code that is sent to the address is the latest. -/
theorem Remembers.issued (remembers : Remembers config email past state) {call : IssueCall}
    (addressed : call.email = email) {row : VerificationRow} {after : Verifications}
    (issued : Issued config call.email call.now state row after)
    (ordered : ∀ event ∈ past, event.1.now ≤ call.now) :
    Remembers config email (past ++ [(call, .ok row)]) after := by
  subst addressed
  have here : returned call.email (call, .ok row) = some (call.now, row) :=
    returned_eq_some_iff.mpr ⟨rfl, rfl, rfl⟩
  refine ⟨fun event inside code found => ?_, fun code found => ?_, fun code found => ?_,
    fun code found other listed there => ?_⟩
  · refine ⟨row, issued.inside, issued.here, ?_⟩
    rw [issued.sent, ← (returned_eq_some_iff.mp found).2.2]
    rcases List.mem_append.mp inside with before | last
    · exact ordered event before
    · rw [List.mem_singleton.mp last]
  · rw [latestReturned_append, here, Option.some_or] at found
    obtain rfl := Option.some.inj found
    exact ⟨issued.inside, issued.here, issued.unconsumed⟩
  · rw [latestReturned_append, here, Option.some_or] at found
    obtain rfl := Option.some.inj found
    exact issued.valid
  · rw [latestReturned_append, here, Option.some_or] at found
    obtain rfl := Option.some.inj found
    rcases issued.others other listed with rfl | before
    · exact issued.sent.le
    · have waited := cooldownRefusal_eq_none_iff.mp issued.waited other before there
      have nonneg := @cooldownMs_nonneg config
      have le : (other.verificationLastSentAt : ℚ) ≤ call.now := by linarith
      exact_mod_cast le

/-- What every call keeps, if the calls come in the order of their times. -/
theorem Remembers.step (remembers : Remembers config email past state) (call : IssueCall)
    (ordered : ∀ event ∈ past, event.1.now ≤ call.now) :
    Remembers config email (past ++ [(call, (issuing config randomUUID state call).1)])
      (issuing config randomUUID state call).2 := by
  rcases @issueOrReuseVerification_cases config randomUUID call.email call.now state with
    ⟨refusal, -, refused⟩ | ⟨row, after, sent, issued⟩
  · simp only [issuing, refused]
    exact remembers.quiet rfl (fun row listed _ => listed) fun row listed _ => listed
  · simp only [issuing, sent]
    by_cases addressed : call.email = email
    · exact remembers.issued addressed issued ordered
    · refine remembers.quiet (if_neg addressed) (fun other listed there => ?_)
        fun other listed there => ?_
      · rcases issued.kept other listed with kept | ⟨elsewhere, -⟩
        · exact kept
        · exact absurd (elsewhere.symm.trans there) addressed
      · rcases issued.others other listed with rfl | before
        · exact absurd (issued.here.symm.trans there) addressed
        · exact before

/-- A code is returned no sooner after another than the wait. -/
theorem Remembers.apart (remembers : Remembers config email past state) (call : IssueCall)
    {event : IssueCall × Except TooManyRequests VerificationRow} (inside : event ∈ past)
    {first second : ℤ × VerificationRow} (found : returned email event = some first)
    (found' : returned email (call, (issuing config randomUUID state call).1) = some second) :
    cooldownMs config ≤ (second.1 - first.1 : ℚ) := by
  obtain ⟨row, listed, here, le⟩ := remembers.sent event inside first found
  obtain ⟨addressed, sent, at_⟩ := returned_eq_some_iff.mp found'
  rcases @issueOrReuseVerification_cases config randomUUID call.email call.now state with
    ⟨refusal, -, refused⟩ | ⟨row', after, -, issued⟩
  · rw [issuing, refused] at sent
    cases sent
  · have waited := cooldownRefusal_eq_none_iff.mp issued.waited row listed
      (here.trans addressed.symm)
    have le' : (first.1 : ℚ) ≤ row.verificationLastSentAt := by exact_mod_cast le
    rw [← at_]
    linarith

/-- The latest code is accepted as long as the next is refused. -/
theorem Remembers.reaches (remembers : Remembers config email past state)
    {code : ℤ × VerificationRow} (found : latestReturned email past = some code) {moment : ℤ}
    (later : code.1 ≤ moment) :
    accepts config code.2.verificationCode moment state = true ∨
      cooldownRefusal config email moment state = none := by
  by_cases waited : (moment - code.1 : ℚ) < cooldownMs config
  · obtain ⟨listed, -, unconsumed⟩ := remembers.inside code found
    have valid := remembers.valid code found moment later waited
    exact .inl (isSome_findLatest listed (by simp [unconsumed, valid]))
  · refine .inr (cooldownRefusal_eq_none_iff.mpr fun row listed here => ?_)
    have le : (row.verificationLastSentAt : ℚ) ≤ code.1 := by
      exact_mod_cast remembers.latest code found row listed here
    linarith

variable {calls : List IssueCall}

theorem along_ordered (ordered : (calls.map IssueCall.now).Pairwise (· ≤ ·))
    (state : Verifications) :
    Along (issuing config randomUUID) (fun past _ call => ∀ event ∈ past, event.1.now ≤ call.now)
      [] state calls :=
  Along.of_pairwise _ [] state (fun first second : IssueCall => first.now ≤ second.now)
    (List.pairwise_map.mp ordered)

/-- At every moment of a run of calls, the code that was returned last for an address is accepted
or another may be asked for, and any two codes are returned no sooner than the wait after one
another. -/
theorem code_within_reach (email : Text) (start : Verifications)
    (ordered : (calls.map IssueCall.now).Pairwise (· ≤ ·)) :
    (∀ moment, (∀ call ∈ calls, call.now ≤ moment) → ∀ sent row,
      latestReturned email (trace (issuing config randomUUID) start calls) = some (sent, row) →
        accepts config row.verificationCode moment
            (final (issuing config randomUUID) start calls) = true ∨
          cooldownRefusal config email moment (final (issuing config randomUUID) start calls) =
            none) ∧
      (trace (issuing config randomUUID) start calls).Pairwise fun first second =>
        ∀ code code', returned email first = some code → returned email second = some code' →
          cooldownMs config ≤ (code'.1 - code.1 : ℚ) := by
  have held := @along_ordered config randomUUID calls ordered start
  have remembers := Along.invariant (Remembers config email)
    (fun _ _ call known ordered => known.step call ordered) held (remembers_nil start)
  rw [List.nil_append] at remembers
  constructor
  · intro moment after sent row found
    refine remembers.reaches found ?_
    obtain ⟨event, inside, here⟩ := List.mem_filterMap.mp (List.mem_of_getLast? found)
    have called := List.mem_map_of_mem (f := Prod.fst) inside
    rw [map_fst_trace] at called
    rw [← (returned_eq_some_iff.mp here).2.2]
    exact after _ called
  · exact Along.pairwise_trace (Remembers config email)
      (fun _ _ call known ordered => known.step call ordered)
      (fun _ _ call known _ event inside code code' here here' => known.apart call inside here here')
      held (remembers_nil start)

end Runs

/-- The settings where none are given. -/
def defaultMailConfig : MailConfig where
  verificationTtlMinutes := 10
  verificationResendCooldownSeconds := 90
  cooldown_nonneg := by norm_num
  cooldown_le := by norm_num

/-- Three requests, of which the second comes too early. -/
def threeCalls : List IssueCall := [⟨"a@b.c", 0⟩, ⟨"a@b.c", 89999⟩, ⟨"a@b.c", 90000⟩]

theorem code_within_reach_threeCalls :
    (∀ moment, (∀ call ∈ threeCalls, call.now ≤ moment) → ∀ sent row,
      latestReturned "a@b.c" (trace (issuing defaultMailConfig decimalText) {} threeCalls) =
          some (sent, row) →
        accepts defaultMailConfig row.verificationCode moment
            (final (issuing defaultMailConfig decimalText) {} threeCalls) = true ∨
          cooldownRefusal defaultMailConfig "a@b.c" moment
            (final (issuing defaultMailConfig decimalText) {} threeCalls) = none) ∧
      (trace (issuing defaultMailConfig decimalText) {} threeCalls).Pairwise fun first second =>
        ∀ code code', returned "a@b.c" first = some code → returned "a@b.c" second = some code' →
          cooldownMs defaultMailConfig ≤ (code'.1 - code.1 : ℚ) :=
  code_within_reach "a@b.c" {} (by decide)

end AuthService

end OpticsHub
