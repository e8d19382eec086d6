import OpticsHub.Auth.JwtUtil

/-!
# The identity behind an access cookie

The guard takes any unexpired token signed with the secret and looks its user up
by the claim `userIndex`. It does not look at the purpose. A refresh token carries
the claim as an access token does. A purpose token names its subject in `sub` and
has no such claim unless its caller adds one, and an undefined claim drops the
condition on the index, so that the first unrestricted user of the table is
found. The law here says, for each way a token is minted, exactly which tables
keep the guard from accepting a token of another purpose or under another user.
-/
namespace OpticsHub

open Script

namespace Auth

inductive UserPermission where
  | unverified
  | verified
  | moderator
  | administrator
  deriving DecidableEq, Repr

/-- A row of `users`, as far as the guard reads it. -/
structure User where
  userIndex : Int32
  userDisplay : Text
  userEmail : Text
  userPermission : UserPermission := .verified
  userRestriction : Bool := false
  deriving DecidableEq

section Validate

variable (environment : Environment) (users : List User)

/-- The ways a token comes to be signed for a user. -/
inductive Minting where
  | access
  | refresh (jti : Text)
  | purposeToken (purpose : TokenPurpose) (claims : JsonObject) (jti : Text)

/-- The purpose a token is minted with. -/
def Minting.tokenPurpose : Minting → TokenPurpose
  | .access => .access
  | .refresh _ => .refresh
  | .purposeToken purpose _ _ => purpose

/-- The payload that is signed, if the call does not throw. -/
def Minting.payload (userIndex : Int32) (now : ℤ) : Minting → Option (Members Value)
  | .access => accessPayload environment userIndex now
  | .refresh jti => refreshPayload environment userIndex now jti
  | .purposeToken purpose claims jti =>
    signPurposeToken environment userIndex purpose claims now jti

/-- The claim by which the guard looks the user up. -/
def Minting.userClaim (userIndex : Int32) : Minting → Option Value
  | .access => some (indexValue userIndex)
  | .refresh _ => some (indexValue userIndex)
  | .purposeToken _ claims _ => Members.own claims.members userIndexClaim

/-- The unrestricted users that a claim lets through, in the order of the table. -/
def unrestrictedUsers (userClaim : Option Value) : List User :=
  match indexFilter environment userClaim with
  | none => []
  | some owner => users.filter fun user => owner user.userIndex && user.userRestriction == false

/-- No unrestricted user is let through, or the token is an access token and the first
one is its user. -/
def LookupSafe (userIndex : Int32) (minting : Minting) : Prop :=
  match unrestrictedUsers environment users (minting.userClaim userIndex) with
  | [] => True
  | first :: _ => minting.tokenPurpose = .access ∧ first.userIndex = userIndex

end Validate

variable {environment : Environment} {users : List User} {userIndex : Int32} {now : ℤ}

/-- A login token's claim lets through exactly its user. -/
theorem unrestrictedUsers_indexValue (environment : Environment) (users : List User)
    (userIndex : Int32) :
    ∀ user ∈ unrestrictedUsers environment users (some (indexValue userIndex)),
      user.userIndex = userIndex := by
  intro user inside
  rw [unrestrictedUsers, indexFilter_indexValue] at inside
  have kept := (List.mem_filter.mp inside).2
  simp only [Bool.and_eq_true, beq_iff_eq] at kept
  exact kept.1

/-- An access token is accepted only as its user, whatever the table. -/
theorem lookupSafe_access (environment : Environment) (users : List User) (userIndex : Int32) :
    LookupSafe environment users userIndex .access := by
  unfold LookupSafe
  cases found : unrestrictedUsers environment users (Minting.access.userClaim userIndex) with
  | nil => trivial
  | cons first rest =>
    exact ⟨rfl, unrestrictedUsers_indexValue environment users userIndex first
      (found ▸ List.mem_cons_self)⟩

end Auth

end OpticsHub
