import Mathlib.Algebra.Order.Floor.Ring
import Mathlib.Data.Rat.Floor
import OpticsHub.Hub.State
import OpticsHub.Table.Rows

/-!
# The second factor of a login

A user who has set up a second factor presents six digits with a login or with a sensitive
request. The digits are checked by a library, against a secret in the row of the user and
after the last time step whose digits were accepted. The row is read first, the library
answers later, and the step that it has accepted is written last, whatever the row has
become by then. The source returns `true` where a code is accepted. Here the step that is
accepted is returned, because that is what the purpose of the checks speaks about.
-/
namespace OpticsHub

open Script Async Program

namespace TwoFactorAuthenticationService

/-! ## Users -/

/-- A row of `users`, as far as a login and the second factor read or write it. -/
structure UserRow where
  userIndex : ℕ
  userEmail : Text
  userPassword : Text
  userTotpSecret : Option Text := none
  userTotpActive : Bool := false
  lastUsedTotpStep : Option ℤ := none
  userTotpActiveAt : Option ℤ := none
  deriving DecidableEq

instance : Keyed UserRow where
  key := UserRow.userIndex

/-- The table and the clock, in milliseconds. -/
structure Accounts where
  users : Table UserRow
  now : ℤ

abbrev AccountProgram (α : Type) := Program Accounts Failure α

/-! ## The library -/

/-- What the library says of a code that it accepts. -/
structure TotpVerifySuccess where
  epoch : ℤ
  timeStep : Option ℤ := none

/-- What the library answers, unless it throws. -/
inductive TotpReply where
  | valid (success : TotpVerifySuccess)
  | invalid
  | thrown

/-- The library for time-based codes: the step of a moment, the code of a step under a
secret, and a check that accepts nothing but the code of a step within the tolerance and after
the last one, which it returns. -/
structure TotpLibrary where
  stepAt : (epoch : ℚ) → ℤ
  code : (secret : Text) → (step : ℤ) → Text
  verify : (secret token : Text) → (epochTolerance : ℚ) → (afterTimeStep : Option ℤ) →
    (now : ℤ) → TotpReply
  accepts : ∀ {secret token epochTolerance afterTimeStep now success},
    verify secret token epochTolerance afterTimeStep now = .valid success →
      ∃ step, success.timeStep = some step ∧ token = code secret step ∧
        stepAt (now / 1000 - epochTolerance) ≤ step ∧
        step ≤ stepAt (now / 1000 + epochTolerance) ∧
        ∀ last, afterTimeStep = some last → last < step

/-- What comes from outside: the library, the comparison with a hashed password, and the
settings, which the constructor of the service checks. -/
structure Authenticator where
  totp : TotpLibrary
  compare : (password hashed : Text) → Bool
  epochToleranceSeconds : ℚ
  periodSeconds : ℚ
  period_pos : 0 < periodSeconds
  tolerance_nonneg : 0 ≤ epochToleranceSeconds

/-! ## Failures -/

def unauthorized (message : String) : Failure := .http 401 message
def notSixDigits : Failure := .badRequest "TOTP code must be 6 digits."
def totpNotConfigured : Failure := unauthorized "TOTP is not configured."
def totpNotActive : Failure := unauthorized "TOTP is not active."
def invalidTotpCode : Failure := unauthorized "Invalid TOTP code."
def totpAlreadyActive : Failure :=
  .conflict "Disable the existing 2FA before setting up a new one."
def noMatchingUser : Failure := .conflict "Matching Email and Password Not Found."
def totpCodeRequired : Failure := unauthorized "TOTP code is required."
def authenticationRequired : Failure := unauthorized "Authentication is required."
def twoFactorNotEnabled : Failure := .http 403 "Two Factor Authentication must be enabled."
def severalTotpCodes : Failure := .badRequest "TOTP code must be a single value."
def noTotpCode : Failure := .badRequest "TOTP code is required."

/-! ## Queries -/

/-- `findUnique` by the index. -/
def findUser (userIndex : ℕ) (accounts : Accounts) : Option UserRow :=
  accounts.users.findFirst fun user => user.userIndex == userIndex

/-- A query by the email. -/
def findUserByEmail (email : Text) (accounts : Accounts) : Option UserRow :=
  accounts.users.findFirst fun user => user.userEmail == email

/-- `update` on `users`, which throws if the row is not there. -/
def updateUser (selected : UserRow → Bool) (change : ℤ → UserRow → UserRow)
    (keyed : ∀ now row, (change now row).userIndex = row.userIndex := by intros; rfl) :
    AccountProgram Unit :=
  atomically fun accounts =>
    if (accounts.users.findFirst selected).isSome then
      (.ok (), { accounts with
        users := accounts.users.updateMany selected (change accounts.now) (keyed accounts.now) })
    else (.error .internal, accounts)

/-! ## The service -/

/-- Whether a text matches `^\d{6}$`. -/
def isSixDigits (token : Text) : Bool := token.length == 6 && token.all CodeUnit.isDigit

/-- The secret of a user, unless it is missing or empty. -/
def configuredSecret (user : UserRow) : Option Text := user.userTotpSecret.filter (· ≠ [])

section Service

variable (authenticator : Authenticator)

/-- The check of a code that all ways to present one share. -/
def verifyUserTotp (userIndex : ℕ) (token : Text) (requireActive : Bool) :
    AccountProgram TotpVerifySuccess := do
  require (isSixDigits token = true) notSixDigits
  let found ← look (findUser userIndex)
  let user ← orThrow found totpNotConfigured
  let secret ← orThrow (configuredSecret user) totpNotConfigured
  require (requireActive = true → user.userTotpActive = true) totpNotActive
  let reply ← look fun accounts => authenticator.totp.verify secret token
    authenticator.epochToleranceSeconds user.lastUsedTotpStep accounts.now
  match reply with
  | .valid success => return success
  | .invalid => throw invalidTotpCode
  | .thrown => throw .internal

/-- The step of a code that was accepted, which the library may leave to its epoch. -/
def getTimeStep (success : TotpVerifySuccess) : ℤ :=
  success.timeStep.getD ⌊(success.epoch : ℚ) / authenticator.periodSeconds⌋

/-- Whether a number fits into an integer column. -/
def fitsColumn (number : ℤ) : Bool := -2 ^ 31 ≤ number && number < 2 ^ 31

/-- The update that records a step. A number that the column does not take is refused. -/
def recordStep (userIndex : ℕ) (step : ℤ) (change : ℤ → UserRow → UserRow)
    (keyed : ∀ now row, (change now row).userIndex = row.userIndex := by intros; rfl) :
    AccountProgram ℤ := do
  require (fitsColumn step = true) .internal
  updateUser (fun user => user.userIndex == userIndex)
    (fun now user => { change now user with lastUsedTotpStep := some step })
    (fun now user => keyed now user)
  return step

/-- `confirm2FA`: the first code after the set-up turns the second factor on. -/
def confirm2FA (userIndex : ℕ) (token : Text) : AccountProgram ℤ := do
  let success ← verifyUserTotp authenticator userIndex token false
  recordStep userIndex (getTimeStep authenticator success) fun now user =>
    { user with userTotpActive := true, userTotpActiveAt := some now }

/-- `verifyActiveUserTotp`: a code with a login or a sensitive request. -/
def verifyActiveUserTotp (userIndex : ℕ) (token : Text) : AccountProgram ℤ := do
  let success ← verifyUserTotp authenticator userIndex token true
  recordStep userIndex (getTimeStep authenticator success) fun _ user => user

/-- `generate2FASecret`, with the secret that is drawn. -/
def generate2FASecret (userEmail secret : Text) : AccountProgram Unit := do
  let user ← look (findUserByEmail userEmail)
  require (user.all (fun user => !user.userTotpActive) = true) totpAlreadyActive
  updateUser (fun user => user.userEmail == userEmail) fun _ user =>
    { user with
      userTotpSecret := some secret
      userTotpActive := false
      userTotpActiveAt := none
      lastUsedTotpStep := none }

/-- `remove2FA`. -/
def remove2FA (userIndex : ℕ) (token : Text) : AccountProgram Unit := do
  let _ ← verifyUserTotp authenticator userIndex token true
  updateUser (fun user => user.userIndex == userIndex) fun _ user =>
    { user with
      userTotpActive := false
      userTotpSecret := none
      userTotpActiveAt := none
      lastUsedTotpStep := none }

/-! ## Where codes are presented -/

/-- A step that was accepted, and for whom. -/
structure Accepted where
  userIndex : ℕ
  timeStep : ℤ
  deriving DecidableEq

/-- `login`, up to the tokens that it goes on to sign: the step that it has accepted, if the
account has a second factor. -/
def login (email password : Text) (totpCode : Option Text) : AccountProgram (Option Accepted) := do
  let found ← look (findUserByEmail email)
  let foundUser ← orThrow found noMatchingUser
  require (authenticator.compare password foundUser.userPassword = true) noMatchingUser
  if foundUser.userTotpActive then do
    let code ← orThrow (totpCode.filter (· ≠ [])) totpCodeRequired
    let step ← verifyActiveUserTotp authenticator foundUser.userIndex code
    return some ⟨foundUser.userIndex, step⟩
  else return none

/-- `extractToken`: the header, or the member of the body in its absence. -/
def extractToken (header body : Option Value) : Except Failure Text :=
  match header.or body with
  | some (.array _) => .error severalTotpCodes
  | some (.string token) => .ok token.trim
  | _ => .error noTotpCode

/-- `TwoFactorGuard.canActivate`, for the user whom the guard before it has found. -/
def canActivate (userIndex : Option ℕ) (header body : Option Value) :
    AccountProgram (Option Accepted) := do
  let userIndex ← orThrow (userIndex.filter (· ≠ 0)) authenticationRequired
  let user ← look (findUser userIndex)
  require (user.any UserRow.userTotpActive = true) twoFactorNotEnabled
  let token ← fromExcept (extractToken header body)
  let step ← verifyActiveUserTotp authenticator userIndex token
  return some ⟨userIndex, step⟩

/-- The handler of `2fa/confirm`, for a member of the body. -/
def confirmTwoFactorAuthentication (userIndex : ℕ) (token : Text) :
    AccountProgram (Option Accepted) := do
  let step ← confirm2FA authenticator userIndex token.trim
  return some ⟨userIndex, step⟩

end Service

end TwoFactorAuthenticationService

end OpticsHub
