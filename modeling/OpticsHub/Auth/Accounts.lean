import OpticsHub.Async.Program
import OpticsHub.Auth.JwtStrategy
import OpticsHub.Auth.Verifications

/-!
# Accounts and the addresses they belong to

Who wants an account asks for a code, which is mailed to an address, and presents it with a
password. Who had an account before codes were mailed confirms its address in the same way. Every
query is an action of its own, and the time a date is made of is read where the source makes the
date, before the query that uses it. A code is drawn when the row is made that keeps it. The two
writes at the end of a registration or of a confirmation are one transaction, which is undone if
one of them fails: no two accounts have one address.
-/
namespace OpticsHub

open Script Async Program

namespace AuthService

namespace Accounts

open Auth (UserPermission)

/-! ## The tables -/

/-- A row of `users`, as far as a registration, a confirmation or a change of the password reads or
writes it. -/
structure AccountRow where
  userIndex : ℕ
  userDisplay : Text
  userEmail : Text
  userPassword : Text
  userPermission : UserPermission := .verified
  deriving DecidableEq

instance : Keyed AccountRow where
  key := AccountRow.userIndex

/-- A mail with a code, and the time that it tells as the time of the request. -/
structure Mail where
  email : Text
  code : Text
  requestedAt : ℤ
  forExisting : Bool
  deriving DecidableEq

/-- The tables, the mails that were sent, and the time. -/
structure AccountStore extends Verifications where
  users : Table AccountRow := Table.empty
  mails : List Mail := []
  now : ℤ

/-- The settings, and what comes from outside: identifiers, the library for passwords, and the
server for mails. -/
structure AccountPlatform where
  config : MailConfig
  randomUUID : ℕ → Text
  hash : (password salt : Text) → Text
  compare : (password hashed : Text) → Bool
  delivers : (mail : Mail) → (now : ℤ) → Bool

/-! ## Failures -/

/-- What a request fails with. Whoever has to wait is told for how long. -/
inductive AccountFailure where
  | http (status : ℕ) (message : String)
  | tooManyRequests (refusal : TooManyRequests)
  | internal
  deriving DecidableEq

abbrev AccountProgram := Program AccountStore AccountFailure

def alreadyExists : AccountFailure := .http 409 "Already exists"
def mustWait (retryAfterSeconds : ℤ) : AccountFailure :=
  .tooManyRequests ⟨"Please wait before requesting another verification email.",
    retryAfterSeconds⟩
def userNotFound : AccountFailure := .http 401 "User Not Found."
def emailAlreadyVerified : AccountFailure := .http 409 "Email Already Verified."
def invalidOrExpiredCode : AccountFailure := .http 400 "Invalid or Expired Verification Code."
def noAccountForCode : AccountFailure := .http 400 "No Account For This Verification Code."
def passwordConfirmDoesNotMatch : AccountFailure := .http 400 "Password Confirm Does Not Match."
def alreadyUsingEmail : AccountFailure := .http 409 "Already Using Email."
def currentPasswordDoesNotMatch : AccountFailure :=
  .http 401 "Current Password Does Not Match."

/-! ## Queries -/

def findUser (userIndex : ℕ) (store : AccountStore) : Option AccountRow :=
  store.users.findFirst fun user => user.userIndex == userIndex

def findUserByEmail (email : Text) (store : AccountStore) : Option AccountRow :=
  store.users.findFirst fun user => user.userEmail == email

/-- The row of a code that is neither consumed nor expired. -/
def findUsable (code : Text) (issuedAfter : ℤ) (store : AccountStore) : Option VerificationRow :=
  findLatest VerificationRow.verificationCreatedAt
    (fun row => row.verificationCode == code && row.verificationConsumedAt.isNone &&
      decide (issuedAfter ≤ row.verificationCreatedAt)) store.verification

/-- The row of a code that is sent again. -/
def resent (sentAt : ℤ) (row : VerificationRow) : VerificationRow :=
  { row with verificationLastSentAt := sentAt }

/-- `update` of the time at which a code was last sent, which throws if the row is not there. -/
def resend (verificationIndex : ℕ) (sentAt : ℤ) : AccountProgram VerificationRow :=
  atomically fun store =>
    match store.verification.findFirst fun row => row.verificationIndex == verificationIndex with
    | none => (.error .internal, store)
    | some row => (.ok (resent sentAt row), { store with
        verification := store.verification.updateMany
          (fun row => row.verificationIndex == verificationIndex) (resent sentAt) })

/-- `create` of a row for a new code. -/
def issue (platform : AccountPlatform) (email : Text) : AccountProgram VerificationRow :=
  step fun store =>
    let row (index : ℕ) : VerificationRow :=
      { verificationIndex := index
        verificationEmail := email
        verificationCode := platform.randomUUID store.drawn
        verificationCreatedAt := store.now
        verificationLastSentAt := store.now }
    (row store.verification.next, { store with
      verification := store.verification.create row, drawn := store.drawn + 1 })

/-- The table after a code was consumed. -/
def consumed (verificationIndex : ℕ) (consumedAt : ℤ) (table : Table VerificationRow) :
    Table VerificationRow :=
  table.updateMany (fun row => row.verificationIndex == verificationIndex)
    fun row => { row with verificationConsumedAt := some consumedAt }

/-- The row of a new account. The permission is the default of the table. -/
def accountRow (display email password : Text) (index : ℕ) : AccountRow where
  userIndex := index
  userDisplay := display
  userEmail := email
  userPassword := password

/-- The transaction of a registration. -/
def createAccount (display email password : Text) (verificationIndex : ℕ) (consumedAt : ℤ) :
    AccountProgram ℕ :=
  atomically fun store =>
    if (findUserByEmail email store).isSome then (.error .internal, store)
    else if (store.verification.findFirst fun row =>
        row.verificationIndex == verificationIndex).isNone then (.error .internal, store)
    else (.ok store.users.next, { store with
      users := store.users.create (accountRow display email password)
      verification := consumed verificationIndex consumedAt store.verification })

/-- The transaction of a confirmation. -/
def confirmAccount (userIndex verificationIndex : ℕ) (consumedAt : ℤ) : AccountProgram Unit :=
  atomically fun store =>
    if (findUser userIndex store).isNone then (.error .internal, store)
    else if (store.verification.findFirst fun row =>
        row.verificationIndex == verificationIndex).isNone then (.error .internal, store)
    else (.ok (), { store with
      users := store.users.updateMany (fun user => user.userIndex == userIndex)
        fun user => { user with userPermission := .verified }
      verification := consumed verificationIndex consumedAt store.verification })

/-- `update` of the password, which throws if the user is not there. -/
def writePassword (userIndex : ℕ) (password : Text) : AccountProgram Unit :=
  atomically fun store =>
    if (findUser userIndex store).isNone then (.error .internal, store)
    else (.ok (), { store with
      users := store.users.updateMany (fun user => user.userIndex == userIndex)
        fun user => { user with userPassword := password } })

/-- A mail that is not delivered is an error. -/
def sendMail (platform : AccountPlatform) (mail : Mail) : AccountProgram Unit :=
  atomically fun store =>
    if platform.delivers mail store.now then (.ok (), { store with mails := store.mails ++ [mail] })
    else (.error .internal, store)

/-! ## The service -/

structure RegisterDTO where
  verificationCode : Text
  password : Text
  passwordConfirm : Text
  display : Text

structure ChangePasswordDTO where
  currentPassword : Text
  newPassword : Text
  newPasswordConfirm : Text

/-- Why a code is not valid. -/
inductive CodeRefusal where
  | notFound
  | consumed
  | expired
  deriving DecidableEq

/-- What a request is answered. The tokens of a login are those of a user. -/
inductive AccountReply where
  | exists (known : Bool)
  | empty
  | valid (email : Text)
  | invalid (reason : CodeRefusal)
  | email (email : Text)
  | loginTokens (userIndex : ℕ)

section Service

variable (platform : AccountPlatform)

def checkEmail (email : Text) : AccountProgram AccountReply := do
  let user ← look (findUserByEmail email)
  return .exists user.isSome

/-- How long to wait before a code may be sent again, which is over if it is not positive. -/
def retryAfterSeconds (lastSent : Option VerificationRow) (now : ℤ) : ℤ :=
  match lastSent with
  | none => 0
  | some lastSent => remainingSeconds platform.config lastSent.verificationLastSentAt now

def issueOrReuseVerification (email : Text) : AccountProgram VerificationRow := do
  let lastSent ← look fun store => findLatest VerificationRow.verificationLastSentAt
    (fun row => row.verificationEmail == email) store.verification
  let now ← look AccountStore.now
  require (retryAfterSeconds platform lastSent now ≤ 0)
    (mustWait (retryAfterSeconds platform lastSent now))
  let reusable ← look fun store => findReusable platform.config email now store.toVerifications
  match reusable with
  | some reusable => do
    let sentAt ← look AccountStore.now
    resend reusable.verificationIndex sentAt
  | none => issue platform email

def verifyEmail (email : Text) : AccountProgram AccountReply := do
  let user ← look (findUserByEmail email)
  require user.isNone alreadyExists
  let verification ← issueOrReuseVerification platform email
  sendMail platform ⟨email, verification.verificationCode, verification.verificationCreatedAt,
    false⟩
  return .empty

def requestExistingEmailVerification (userIndex : ℕ) : AccountProgram AccountReply := do
  let user ← look (findUser userIndex)
  let user ← orThrow user userNotFound
  require (user.userPermission = .unverified) emailAlreadyVerified
  let verification ← issueOrReuseVerification platform user.userEmail
  sendMail platform ⟨user.userEmail, verification.verificationCode,
    verification.verificationCreatedAt, true⟩
  return .empty

def verifyExistingEmail (code : Text) : AccountProgram AccountReply := do
  let issuedAfter ← look fun store => verificationIssuedAfter platform.config store.now
  let verification ← look (findUsable code issuedAfter)
  let verification ← orThrow verification invalidOrExpiredCode
  let user ← look (findUserByEmail verification.verificationEmail)
  let user ← orThrow user noAccountForCode
  let consumedAt ← look AccountStore.now
  confirmAccount user.userIndex verification.verificationIndex consumedAt
  return .email user.userEmail

def isValidVerificationCode (code : Text) : AccountProgram AccountReply := do
  let issuedAfter ← look fun store => verificationIssuedAfter platform.config store.now
  let verification ← look fun store => findLatest VerificationRow.verificationCreatedAt
    (fun row => row.verificationCode == code) store.verification
  match verification with
  | none => return .invalid .notFound
  | some verification =>
    if verification.verificationConsumedAt.isSome then return .invalid .consumed
    else if verification.verificationCreatedAt < issuedAfter then return .invalid .expired
    else return .valid verification.verificationEmail

def register (dto : RegisterDTO) (salt : Text) : AccountProgram AccountReply := do
  require (dto.password = dto.passwordConfirm) passwordConfirmDoesNotMatch
  let issuedAfter ← look fun store => verificationIssuedAfter platform.config store.now
  let verification ← look (findUsable dto.verificationCode issuedAfter)
  let verification ← orThrow verification invalidOrExpiredCode
  let user ← look (findUserByEmail verification.verificationEmail)
  require user.isNone alreadyUsingEmail
  let consumedAt ← look AccountStore.now
  let userIndex ← createAccount dto.display verification.verificationEmail
    (platform.hash dto.password salt) verification.verificationIndex consumedAt
  return .loginTokens userIndex

def changePassword (userIndex : ℕ) (dto : ChangePasswordDTO) (salt : Text) :
    AccountProgram AccountReply := do
  require (dto.newPassword = dto.newPasswordConfirm) passwordConfirmDoesNotMatch
  let user ← look (findUser userIndex)
  let user ← orThrow user userNotFound
  require (platform.compare dto.currentPassword user.userPassword) currentPasswordDoesNotMatch
  writePassword userIndex (platform.hash dto.newPassword salt)
  return .empty

/-- A request. The user of one that needs a login is the one that is logged in, and a password is
hashed with a salt that is drawn for it. -/
inductive AccountCall where
  | checkEmail (email : Text)
  | verifyEmail (email : Text)
  | requestExistingEmailVerification (userIndex : ℕ)
  | verifyExistingEmail (code : Text)
  | isValidVerificationCode (code : Text)
  | register (dto : RegisterDTO) (salt : Text)
  | changePassword (userIndex : ℕ) (dto : ChangePasswordDTO) (salt : Text)

def accountProgram : AccountCall → AccountProgram AccountReply
  | .checkEmail email => Accounts.checkEmail email
  | .verifyEmail email => Accounts.verifyEmail platform email
  | .requestExistingEmailVerification userIndex =>
    Accounts.requestExistingEmailVerification platform userIndex
  | .verifyExistingEmail code => Accounts.verifyExistingEmail platform code
  | .isValidVerificationCode code => Accounts.isValidVerificationCode platform code
  | .register dto salt => Accounts.register platform dto salt
  | .changePassword userIndex dto salt => Accounts.changePassword platform userIndex dto salt

end Service

/-- The time goes on. -/
def AccountStore.passes (store : AccountStore) (ms : ℕ) : Unit × AccountStore :=
  ((), { store with now := store.now + ms })

end Accounts

end AuthService

end OpticsHub
