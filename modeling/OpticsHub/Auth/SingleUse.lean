import OpticsHub.Async.Once
import OpticsHub.Auth.TwoFactor

/-!
# Codes are for single use

A login, a guarded request and the confirmation of a set-up all check a code after the last
time step that the row of the user has, and record the step that they accept. The check
accepts only later steps, so a step could be accepted twice only if the row forgot that it
has been. It does so where two checks overlap: both read the row before either has written
it, and the one that writes last may even set the step back. The law here is that nothing
else goes wrong: when every check still finds the step it has read as it goes to write, no
step is accepted twice, whatever happens elsewhere in the table.
-/
namespace OpticsHub

open Script Async Program Machine

namespace TwoFactorAuthenticationService

/-! ## Verifications among other things -/

/-- The ways in which a code is presented. -/
inductive Verification where
  | login (email password : Text) (totpCode : Option Text)
  | guard (userIndex : Option ℕ) (header body : Option Value)
  | confirm (userIndex : ℕ) (token : Text)

/-- What the set-up of a second factor determines, and what the checks go by. -/
def totpOf (userIndex : ℕ) (accounts : Accounts) : Option (Option Text × Option ℤ) :=
  (findUser userIndex accounts).map fun user => (user.userTotpSecret, user.lastUsedTotpStep)

/-- Something else that happens at once, and neither sets up the second factor of a user nor
removes it. -/
structure Elsewhere (userIndex : ℕ) where
  change : Accounts → Accounts
  keeps : ∀ accounts, totpOf userIndex (change accounts) = totpOf userIndex accounts

def elsewhere {userIndex : ℕ} (accounts : Accounts) (event : Elsewhere userIndex) :
    Unit × Accounts :=
  ((), event.change accounts)

section Verifications

variable (authenticator : Authenticator)

def verification : Verification → AccountProgram (Option Accepted)
  | .login email password totpCode => login authenticator email password totpCode
  | .guard userIndex header body => canActivate authenticator userIndex header body
  | .confirm userIndex token => confirmTwoFactorAuthentication authenticator userIndex token

/-- Verifications that interleave, between two changes of the secret of a user. -/
abbrev verifications (userIndex : ℕ) : Transition
    (Config Verification Accounts Failure (Option Accepted))
    (Move Verification (Elsewhere userIndex)) (Shown Unit Accounts) :=
  observed (verification authenticator) elsewhere

end Verifications

/-! ## Steps that are used -/

/-- The last step of a user that was accepted, as the row has it. -/
def lastStep (userIndex : ℕ) (accounts : Accounts) : Option ℤ :=
  (findUser userIndex accounts).bind UserRow.lastUsedTotpStep

/-- A step is not after the last one. -/
def Used (userIndex : ℕ) (step : ℤ) (accounts : Accounts) : Prop :=
  ∃ last, lastStep userIndex accounts = some last ∧ step ≤ last

/-- The step of a user that a verification has accepted. -/
def acceptedStep (userIndex : ℕ) (_ : Verification) (accepted : Option Accepted) : Option ℤ :=
  (accepted.filter (·.userIndex = userIndex)).map Accepted.timeStep

/-- The queries that come before the one for the row that a code is checked with. -/
def Verification.earlier : Verification → ℕ
  | .login _ _ _ => 1
  | .guard _ _ _ => 1
  | .confirm _ _ => 0

/-- Whose code it is, as far as it is known from the states that were met. -/
def Verification.user (seen : List Accounts) : Verification → Option ℕ
  | .login email _ _ => (seen.head?.bind (findUserByEmail email)).map UserRow.userIndex
  | .guard userIndex _ _ => userIndex
  | .confirm userIndex _ => some userIndex

/-- A verification for a user that goes to record a step, after the query for the row and
the answer of the library, finds the last step as it has read it. -/
def FindsStepAsRead (userIndex : ℕ) (call : Verification) (seen : List Accounts)
    (accounts : Accounts) : Prop :=
  seen.length = call.earlier + 2 → call.user seen = some userIndex →
    ∀ read ∈ seen[call.earlier]?, lastStep userIndex accounts = lastStep userIndex read

instance (userIndex : ℕ) (call : Verification) (seen : List Accounts) (accounts : Accounts) :
    Decidable (FindsStepAsRead userIndex call seen accounts) :=
  inferInstanceAs (Decidable (_ → _ → _))

/-! ## What the parts of a verification do -/

section Parts

variable {authenticator : Authenticator} {userIndex other : ℕ} {accounts : Accounts}

theorem lastStep_eq (accounts : Accounts) :
    lastStep userIndex accounts = (totpOf userIndex accounts).bind Prod.snd := by
  rw [lastStep, totpOf, Option.bind_map]
  rfl

/-- Nothing that leaves the second factor of a user makes a used step unused. -/
theorem staysUsed_of_totpOf {after : Accounts}
    (same : totpOf userIndex after = totpOf userIndex accounts) :
    StaysUsed (Used userIndex) accounts after := by
  rintro step ⟨last, found, before⟩
  exact ⟨last, by rw [lastStep_eq, same, ← lastStep_eq, found], before⟩

/-- An update that does not select the row of a user leaves its second factor. -/
theorem always_updateUser {selected : UserRow → Bool} {change : ℤ → UserRow → UserRow}
    {keyed : ∀ now row, (change now row).userIndex = row.userIndex} :
    Always (fun before after =>
        (∀ user, findUser userIndex before = some user → selected user = false) →
          totpOf userIndex after = totpOf userIndex before)
      (updateUser selected change keyed) := by
  refine always_atomically fun accounts => ?_
  split
  · intro others
    rw [totpOf, findUser, Table.findFirst_updateMany fun row => by
      rw [show (change accounts.now row).userIndex = row.userIndex from keyed _ row]]
    change ((findUser userIndex accounts).map _).map _ = totpOf userIndex accounts
    rw [totpOf]
    cases found : findUser userIndex accounts with
    | none => rfl
    | some user => simp [others user found]
  · exact fun _ => rfl

/-- The set-up of another user is something that happens elsewhere. -/
theorem always_generate2FASecret (userEmail secret : Text) :
    Always (fun before after =>
        (∀ user, findUser userIndex before = some user → (user.userEmail == userEmail) = false) →
          totpOf userIndex after = totpOf userIndex before)
      (generate2FASecret userEmail secret) := by
  refine (always_look (fun _ _ => rfl) _).bind fun user => ?_
  exact (always_require _ _).bind fun _ => always_updateUser

/-- The check of a code writes nothing. -/
theorem always_verifyUserTotp {steps : Accounts → Accounts → Prop}
    (silent : ∀ accounts, steps accounts accounts) (token : Text) (requireActive : Bool) :
    Always steps (verifyUserTotp authenticator other token requireActive) := by
  refine (always_require _ _).bind fun _ => (always_look silent _).bind fun found => ?_
  refine (always_orThrow _ _).bind fun user => (always_orThrow _ _).bind fun secret => ?_
  refine (always_require _ _).bind fun _ => (always_look silent _).bind fun reply => ?_
  cases reply with
  | valid success => exact always_pure _
  | invalid => exact always_throw _
  | thrown => exact always_throw _

/-- So is the removal by another user. -/
theorem always_remove2FA (token : Text) (differ : userIndex ≠ other) :
    Always (fun before after => totpOf userIndex after = totpOf userIndex before)
      (remove2FA authenticator other token) := by
  have silent (accounts : Accounts) : totpOf userIndex accounts = totpOf userIndex accounts := rfl
  refine Always.bind (always_verifyUserTotp silent token true) fun _ => ?_
  refine always_updateUser.mono fun before after kept => kept fun user found => ?_
  rw [beq_iff_eq.mp (Table.mem_of_findFirst found).2]
  exact beq_false_of_ne differ

/-- What an update by the index does to the last step of a user. -/
theorem lastStep_updateUser {step : ℤ} {change : UserRow → UserRow}
    {keyed : ∀ row, (change row).userIndex = row.userIndex} :
    lastStep userIndex { accounts with
      users := accounts.users.updateMany (fun user => user.userIndex == other)
        (fun user => { change user with lastUsedTotpStep := some step }) keyed } =
      if userIndex = other then (findUser userIndex accounts).map fun _ => step
      else lastStep userIndex accounts := by
  rw [lastStep, findUser, Table.findFirst_updateMany fun row => by
    rw [show ({ change row with lastUsedTotpStep := some step } : UserRow).userIndex =
      row.userIndex from keyed row]]
  rw [Option.bind_map, lastStep, findUser]
  cases found : accounts.users.findFirst fun user => user.userIndex == userIndex with
  | none => simp
  | some user =>
    obtain rfl : user.userIndex = userIndex :=
      beq_iff_eq.mp (Table.mem_of_findFirst found).2
    by_cases same : user.userIndex = other <;> simp [same]

variable {fine : List Accounts → Accounts → Prop} {seen : List Accounts}

/-- A code that is accepted is of a step after the last one that the row had. -/
theorem heeds_verifyUserTotp {token : Text} {requireActive : Bool} :
    Heeds fine (fun _ => StaysUsed (Used userIndex)) (fun success later =>
        ∃ read asked step, later = seen ++ [read, asked] ∧ success.timeStep = some step ∧
          ∀ last, lastStep other read = some last → last < step)
      seen (verifyUserTotp authenticator other token requireActive) := by
  have silent (accounts : Accounts) : StaysUsed (Used userIndex) accounts accounts :=
    fun _ held => held
  apply Heeds.bind
  apply heeds_require
  intro digits
  apply Heeds.bind
  apply heeds_look fun _ => silent _
  intro read _
  apply Heeds.bind
  apply heeds_orThrow
  intro user found
  apply Heeds.bind
  apply heeds_orThrow
  intro secret configured
  apply Heeds.bind
  apply heeds_require
  intro active
  apply Heeds.bind
  apply heeds_look fun _ => silent _
  intro asked _
  cases reply : authenticator.totp.verify secret token authenticator.epochToleranceSeconds
      user.lastUsedTotpStep asked.now with
  | valid success =>
    obtain ⟨step, known, -, -, -, later⟩ := authenticator.totp.accepts reply
    refine heeds_pure ⟨read, asked, step, by simp, known, fun last recorded => later last ?_⟩
    rwa [lastStep, found] at recorded
  | invalid => exact trivial
  | thrown => exact trivial

/-- The record of a step, where the last step is still the one that was read. -/
theorem heeds_recordStep {step : ℤ} {change : ℤ → UserRow → UserRow}
    {keyed : ∀ now row, (change now row).userIndex = row.userIndex}
    (after : ∀ accounts last, fine seen accounts → other = userIndex →
      lastStep userIndex accounts = some last → last < step) :
    Heeds fine (fun _ => StaysUsed (Used userIndex)) (fun recorded later => recorded = step ∧
        ∃ last, later = seen ++ [last] ∧ (other = userIndex → ¬ Used userIndex step last))
      seen (recordStep other step change keyed) := by
  apply Heeds.bind
  apply heeds_require
  intro fits
  apply Heeds.bind
  apply heeds_atomically
  intro accounts met
  have unused (same : other = userIndex) : ¬ Used userIndex step accounts := by
    rintro ⟨last, found, before⟩
    exact absurd (after accounts last met same found) (by omega)
  refine ⟨?_, fun _ _ => heeds_pure ⟨rfl, accounts, rfl, unused⟩⟩
  split
  · rintro step' ⟨last, found, before⟩
    rw [Used, lastStep_updateUser]
    split
    · rename_i same
      have above := after accounts last met same.symm found
      rw [lastStep] at found
      cases there : findUser userIndex accounts with
      | none => simp [there] at found
      | some user => exact ⟨step, rfl, by omega⟩
    · exact ⟨last, found, before⟩
  · exact fun _ held => held

/-- After a step is recorded, it is used. -/
theorem spends_recordStep {step : ℤ} {change : ℤ → UserRow → UserRow}
    {keyed : ∀ now row, (change now row).userIndex = row.userIndex} {call : Verification}
    {rely : Accounts → Accounts → Prop} :
    (recordStep other step change keyed >>= fun recorded =>
        (pure (some ⟨other, recorded⟩) : AccountProgram (Option Accepted))).Withstands rely
      (fun _ _ => True) (Spent (Used userIndex) (acceptedStep userIndex) call) accounts := by
  rw [recordStep, bind_assoc']
  refine spends_bind fun _ accounts => ?_
  rw [bind_assoc', updateUser, withstands_bind, withstands_atomically]
  refine fun before _ => ⟨trivial, ?_⟩
  split
  · rename_i there
    intro value item ended claim
    obtain rfl := Except.ok.inj ended
    obtain ⟨⟨user, recorded⟩, accepted, rfl⟩ := Option.map_eq_some_iff.mp claim
    obtain ⟨same, mine⟩ := Option.filter_eq_some_iff.mp accepted
    obtain ⟨rfl, rfl⟩ := Accepted.mk.inj (Option.some.inj same)
    obtain rfl : other = userIndex := of_decide_eq_true mine
    obtain ⟨user, found⟩ := Option.isSome_iff_exists.mp there
    refine ⟨step, ?_, le_refl step⟩
    rw [lastStep_updateUser, if_pos rfl, findUser, found]
    rfl
  · intro value item ended
    cases ended

/-- A code that is checked and whose step is recorded, for the user of a call. -/
theorem careful_checked {call : Verification} {token : Text} {requireActive : Bool}
    {change : ℤ → UserRow → UserRow}
    {keyed : ∀ now row, (change now row).userIndex = row.userIndex}
    (earlier : seen.length = call.earlier) (user : ∀ later, call.user (seen ++ later) = some other) :
    Careful (Used userIndex) (acceptedStep userIndex) (FindsStepAsRead userIndex) call seen
      (verifyUserTotp authenticator other token requireActive >>= fun success =>
        recordStep other (getTimeStep authenticator success) change keyed >>= fun step =>
          pure (some ⟨other, step⟩)) := by
  apply Heeds.bind
  refine heeds_verifyUserTotp.mono ?_
  rintro success _ - ⟨read, asked, step, rfl, known, later⟩
  have length : (seen ++ [read, asked]).length = call.earlier + 2 := by simp [earlier]
  have here : (seen ++ [read, asked])[call.earlier]? = some read := by
    rw [← earlier, List.getElem?_append_right (Nat.le_refl _), Nat.sub_self]
    rfl
  apply Heeds.bind
  refine (heeds_recordStep fun accounts last finds mine recorded => ?_).mono ?_
  · subst mine
    rw [finds length (user _) read here] at recorded
    rw [getTimeStep, known]
    exact later last recorded
  · rintro recorded _ - ⟨rfl, last, rfl, unused⟩
    refine heeds_pure fun item claim => ⟨_, last, rfl, ?_⟩
    obtain ⟨⟨user, recorded⟩, accepted, rfl⟩ := Option.map_eq_some_iff.mp claim
    obtain ⟨same, mine⟩ := Option.filter_eq_some_iff.mp accepted
    obtain ⟨rfl, rfl⟩ := Accepted.mk.inj (Option.some.inj same)
    exact unused (of_decide_eq_true mine)

end Parts

/-! ## Runs -/

section Runs

variable (authenticator : Authenticator) (userIndex : ℕ)

theorem careful_verification (call : Verification) :
    Careful (Used userIndex) (acceptedStep userIndex) (FindsStepAsRead userIndex) call []
      (verification authenticator call) := by
  have silent (accounts : Accounts) : StaysUsed (Used userIndex) accounts accounts :=
    fun _ held => held
  cases call with
  | login email password totpCode =>
    apply Heeds.bind
    apply heeds_look fun _ => silent _
    intro first _
    apply Heeds.bind
    apply heeds_orThrow
    intro foundUser found
    apply Heeds.bind
    apply heeds_require
    intro matching
    split
    · apply Heeds.bind
      apply heeds_orThrow
      intro code presented
      rw [verifyActiveUserTotp, bind_assoc']
      exact careful_checked rfl fun later => by simp [Verification.user, found]
    · exact heeds_pure fun item claim => by cases claim
  | guard index header body =>
    apply Heeds.bind
    apply heeds_orThrow
    intro authenticated known
    apply Heeds.bind
    apply heeds_look fun _ => silent _
    intro first _
    apply Heeds.bind
    apply heeds_require
    intro active
    apply Heeds.bind
    apply heeds_fromExcept
    intro token extracted
    rw [verifyActiveUserTotp, bind_assoc']
    exact careful_checked rfl fun later => (Option.filter_eq_some_iff.mp known).1
  | confirm index token =>
    change Heeds _ _ _ _ (confirm2FA authenticator index token.trim >>= _)
    rw [confirm2FA, bind_assoc']
    exact careful_checked rfl fun later => rfl

theorem spends_verification (call : Verification) (accounts : Accounts) :
    (verification authenticator call).Withstands (StaysUsed (Used userIndex)) (fun _ _ => True)
      (Spent (Used userIndex) (acceptedStep userIndex) call) accounts := by
  cases call with
  | login email password totpCode =>
    refine spends_bind fun found accounts => spends_bind fun foundUser accounts =>
      spends_bind fun _ accounts => ?_
    split
    · refine spends_bind fun code accounts => ?_
      rw [verifyActiveUserTotp, bind_assoc']
      exact spends_bind fun success accounts => spends_recordStep
    · exact fun value item ended claim => by
        obtain rfl := Except.ok.inj ended
        cases claim
  | guard index header body =>
    refine spends_bind fun authenticated accounts => spends_bind fun user accounts =>
      spends_bind fun _ accounts => spends_bind fun token accounts => ?_
    rw [verifyActiveUserTotp, bind_assoc']
    exact spends_bind fun success accounts => spends_recordStep
  | confirm index token =>
    change (confirm2FA authenticator index token.trim >>= _).Withstands _ _ _ _
    rw [confirm2FA, bind_assoc']
    exact spends_bind fun success accounts => spends_recordStep

/-- Between two changes of the secret of a user, no time step of the user is accepted twice,
in any run of verifications in which each finds the last step as it has read it when it goes
to record its own. -/
theorem steps_accepted_once (start : Accounts)
    (moves : List (Move Verification (Elsewhere userIndex)))
    (met : Along (verifications authenticator userIndex) (Met (FindsStepAsRead userIndex)) []
      { state := start } moves) :
    ClaimedOnce (acceptedStep userIndex)
      (final (verifications authenticator userIndex) { state := start } moves) :=
  claimed_once_along (careful_verification authenticator userIndex)
    (spends_verification authenticator userIndex)
    (fun accounts event => staysUsed_of_totpOf (event.keeps accounts)) start moves met

end Runs

/-- A library whose codes are the last six digits of the step. -/
def plainTotp : TotpLibrary where
  stepAt epoch := ⌊epoch / 30⌋
  code _ step := (List.range 6).reverse.map fun place =>
    digitUnit (step.toNat / 10 ^ place % 10)
  verify _ token epochTolerance afterTimeStep now :=
    let step := now / 30000
    if token = ((List.range 6).reverse.map fun place =>
          digitUnit (step.toNat / 10 ^ place % 10)) ∧
        ⌊((now : ℚ) / 1000 - epochTolerance) / 30⌋ ≤ step ∧
        step ≤ ⌊((now : ℚ) / 1000 + epochTolerance) / 30⌋ ∧
        ∀ last ∈ afterTimeStep, last < step then
      .valid ⟨now / 1000, some step⟩
    else .invalid
  accepts := by
    intro secret token epochTolerance afterTimeStep now success valid
    dsimp only at valid
    split at valid
    · rename_i accepted
      obtain rfl := TotpReply.valid.inj valid
      exact ⟨now / 30000, rfl, accepted⟩
    · cases valid

def plainAuthenticator : Authenticator where
  totp := plainTotp
  compare password hashed := password == hashed
  epochToleranceSeconds := 30
  periodSeconds := 30
  period_pos := by decide +kernel
  tolerance_nonneg := by decide +kernel

/-- One user with a second factor, in the fifth step. -/
def protectedAccount : Accounts where
  users := Table.empty.create fun index =>
    { userIndex := index
      userEmail := "user@optics.example"
      userPassword := "password"
      userTotpSecret := some "secret"
      userTotpActive := true }
  now := 150000

def fifthCode : Verification := .guard (some 1) (some (.string "000005")) none

/-- A guarded request, and a second one with the same code after it has ended. -/
def repeatedCode : List (Move Verification (Elsewhere 1)) :=
  [.start fifthCode, .resume 0, .resume 0, .resume 0, .resume 0,
    .start fifthCode, .resume 1, .resume 1, .resume 1, .resume 1]

theorem steps_accepted_once_repeated :
    ClaimedOnce (acceptedStep 1)
        (final (verifications plainAuthenticator 1) { state := protectedAccount } repeatedCode) ∧
      lastStep 1 (final (verifications plainAuthenticator 1) { state := protectedAccount }
        repeatedCode).state = some 5 :=
  ⟨steps_accepted_once plainAuthenticator 1 protectedAccount repeatedCode (by decide +kernel),
    by decide +kernel⟩

/-- Two guarded requests with the same code, each of which reads the row before the other has
written it. -/
def overlappingCodes : List (Move Verification (Elsewhere 1)) :=
  [.start fifthCode, .start fifthCode, .resume 0, .resume 0, .resume 0, .resume 1, .resume 1,
    .resume 1, .resume 0, .resume 1]

/-- Both are accepted. -/
theorem not_steps_accepted_once_overlapping :
    ¬ ClaimedOnce (acceptedStep 1)
      (final (verifications plainAuthenticator 1) { state := protectedAccount }
        overlappingCodes) := by
  intro once
  have ends (index : ℕ) (small : index < 2) :
      ((final (verifications plainAuthenticator 1) { state := protectedAccount }
        overlappingCodes).threads[index]?).bind Thread.result = some (.ok (some ⟨1, 5⟩)) := by
    interval_cases index <;> decide +kernel
  obtain ⟨thread, found, result⟩ := Option.bind_eq_some_iff.mp (ends 0 (by decide))
  obtain ⟨thread', found', result'⟩ := Option.bind_eq_some_iff.mp (ends 1 (by decide))
  exact absurd (once 0 1 thread thread' 5 found found' ⟨_, result, rfl⟩ ⟨_, result', rfl⟩)
    (by decide)

end TwoFactorAuthenticationService

end OpticsHub
