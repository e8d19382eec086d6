import OpticsHub.Auth.Ownership

/-!
# A password is changed by whom it is known to

Whoever changes the password of an account presents the one it has. Other calls may have changed it
again until the new one is written, so what was presented is one that the account has had. From the
password that the account ends with, what was presented leads back from change to change, to the
password that the account had at first or was made with.
-/
namespace OpticsHub

open Script Async Program Machine

namespace AuthService

namespace Accounts

section Runs

variable {platform : AccountPlatform} {start : AccountStore}
  {config : Config AccountCall AccountStore AccountFailure AccountReply}

/-- A password that an account has come to have: each was presented by the call that set the next
one. -/
inductive Acquired (platform : AccountPlatform) (start : AccountStore)
    (config : Config AccountCall AccountStore AccountFailure AccountReply) (userIndex : ℕ) :
    Text → Prop
  | given (old : AccountRow) (inside : old ∈ start.users) (same : old.userIndex = userIndex) :
      Acquired platform start config userIndex old.userPassword
  | registered (dto : RegisterDTO) (salt : Text) (asked : Asked (.register dto salt) config)
      (user : AccountRow) (inside : user ∈ config.state.users) (same : user.userIndex = userIndex)
      (mailed : MailedOnlyTo user.userEmail dto.verificationCode config.state) :
      Acquired platform start config userIndex (platform.hash dto.password salt)
  | changed (earlier : Text) (has : Acquired platform start config userIndex earlier)
      (dto : ChangePasswordDTO) (salt : Text)
      (asked : Asked (.changePassword userIndex dto salt) config)
      (presented : platform.compare dto.currentPassword earlier = true) :
      Acquired platform start config userIndex (platform.hash dto.newPassword salt)

/-- All passwords of a state are ones that their accounts have come to have. -/
def AllAcquired (platform : AccountPlatform) (start : AccountStore)
    (config : Config AccountCall AccountStore AccountFailure AccountReply) (store : AccountStore) :
    Prop :=
  ∀ user ∈ store.users, Acquired platform start config user.userIndex user.userPassword

/-- What an account has come to have is so after a move. -/
theorem Acquired.move {userIndex : ℕ} {password : Text}
    (acquired : Acquired platform start config userIndex password) {input : Move AccountCall ℕ}
    (sound : Sound platform (accountService platform config input).2.state)
    (grows : Grows config.state (accountService platform config input).2.state) :
    Acquired platform start (accountService platform config input).2 userIndex password := by
  induction acquired with
  | given old inside same => exact .given old inside same
  | registered dto salt asked user inside same mailed =>
    obtain ⟨user', inside', index, email⟩ := grows.accounts user inside
    refine .registered dto salt (asked.move input) user' inside' (index.trans same) ?_
    rw [email]
    exact sound.mailedOnlyTo (mailed.1.grows grows)
  | changed earlier has dto salt asked presented ih =>
    exact .changed earlier ih dto salt (asked.move input) presented

theorem AllAcquired.move {store : AccountStore}
    (acquired : AllAcquired platform start config store) {input : Move AccountCall ℕ}
    (sound : Sound platform (accountService platform config input).2.state)
    (grows : Grows config.state (accountService platform config input).2.state) :
    AllAcquired platform start (accountService platform config input).2 store :=
  fun user inside => (acquired user inside).move sound grows

end Runs

end Accounts

end AuthService

end OpticsHub
