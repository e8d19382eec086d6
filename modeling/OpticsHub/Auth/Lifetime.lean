import OpticsHub.Auth.Sessions

/-!
# How long a refresh token lives

The lifetime of a refresh token is written into its body and nowhere else. A
refresh does not look at it: it asks the rows whether the token is in use, and a
row that nobody rotates or revokes stays in use. A token past its lifetime is
therefore refused exactly when every row that its claim selects is spent, whatever
else the table holds.
-/
namespace OpticsHub

open Script Machine

namespace Auth

/-- A row no longer brings tokens: it expired before the grace. -/
def RefreshToken.Spent (row : RefreshToken) (now : ℤ) : Prop :=
  ∃ expiredAt, row.tokenExpiredAt = some expiredAt ∧ expiredAt < now - refreshRotationGraceMs

/-- The call refreshes a token that was returned earlier, later than the second its
lifetime ended. -/
def Late (environment : Environment) (past : List Event) (timed : TimedCall) (token : Text) :
    Prop :=
  timed.call = .refresh (some token) ∧
    ∃ issue ∈ past, issued issue = some token ∧
      ∃ expiry, expiresAt environment .refresh issue.1.now = some expiry ∧
        1000 * expiry < timed.now

/-- A refresh past the lifetime of its token returns no tokens. -/
def LifetimeRule (environment : Environment) (past : List Event) (event : Event) : Prop :=
  ∀ token, Late environment past event.1 token → event.2 = .pair (.ok .null)

/-- Every row of the user named by a token, with the text of the token, is spent. -/
def RowsSpent (environment : Environment) (sessions : Sessions) (token : Text) (now : ℤ) : Prop :=
  ∀ row ∈ sessions.refreshToken, row.token = token →
    claim (environment.decode token) userIndexClaim = some (indexValue row.tokenOwner) →
    row.Spent now

/-- A refresh past the lifetime of its token finds only spent rows of it. -/
def LateRowsSpent (environment : Environment) (past : List Event) (sessions : Sessions)
    (timed : TimedCall) : Prop :=
  ∀ token, Late environment past timed token → RowsSpent environment sessions token timed.now

/-- What a token returned by a call is. -/
def Genuine (environment : Environment) (token : Text) : Prop :=
  Configured environment ∧ ∃ owner jti, IsRefreshToken environment owner jti token

variable {environment : Environment} {sessions : Sessions}

/-! ## What is returned is a refresh token -/

theorem genuine_of_signLoginTokens {userIndex : Int32} {now : ℤ} {token : Text}
    (outcome : returned (signLoginTokens environment userIndex now sessions).1 = some token) :
    Genuine environment token := by
  rcases signLoginTokens_cases environment userIndex now sessions with
    ⟨-, error, drawn, -, same⟩ | ⟨configured, access, refresh, genuine, same⟩
  · rw [same] at outcome
    exact absurd outcome (by simp [returned])
  · rw [same] at outcome
    cases outcome
    exact ⟨configured, userIndex, _, genuine⟩

theorem genuine_of_signLoginTokensFor {userIndex : Option Value} {now : ℤ} {token : Text}
    (outcome : returned (signLoginTokensFor environment userIndex now sessions).1 = some token) :
    Genuine environment token := by
  rw [signLoginTokensFor] at outcome
  cases index : userIndex.bind valueIndex with
  | none =>
    rw [index] at outcome
    exact absurd outcome (by simp [returned])
  | some index' =>
    rw [index] at outcome
    exact genuine_of_signLoginTokens outcome

theorem genuine_of_refresh {presented : Option Text} {now : ℤ} {token : Text}
    (outcome : returned (refresh environment presented now sessions).1 = some token) :
    Genuine environment token := by
  have empty : returned (.ok .null) ≠ some token := by simp [returned, TokenPair.null]
  rw [refresh.eq_def] at outcome
  split at outcome
  · exact absurd outcome empty
  · exact absurd outcome empty
  · dsimp only at outcome
    split at outcome
    · exact absurd outcome empty
    · exact absurd outcome empty
    · split at outcome
      · exact absurd outcome (by simp [returned])
      · split at outcome
        · exact genuine_of_signLoginTokensFor outcome
        · split at outcome
          · exact genuine_of_signLoginTokensFor outcome
          · exact absurd outcome empty

theorem genuine_of_perform {timed : TimedCall} {token : Text}
    (outcome : issued (timed, (perform environment sessions timed).1) = some token) :
    Genuine environment token := by
  obtain ⟨call, now⟩ := timed
  cases call with
  | signLoginTokens userIndex => exact genuine_of_signLoginTokens outcome
  | refresh presented => exact genuine_of_refresh outcome
  | revokeRefreshToken presented => exact absurd outcome (by simp [issued, perform])

/-! ## What a refresh past the lifetime returns -/

/-- With both lifetimes configured, issuing tokens returns some. -/
theorem signLoginTokens_ne_null (configured : Configured environment) (userIndex : Int32)
    (now : ℤ) (sessions : Sessions) :
    (signLoginTokens environment userIndex now sessions).1 ≠ .ok .null := by
  rcases signLoginTokens_cases environment userIndex now sessions with
    ⟨missing, -⟩ | ⟨-, access, refresh, -, same⟩
  · exact absurd configured missing
  · rw [same]
    simp [TokenPair.null]

/-- A refresh of a token that was issued returns none exactly when its rows are spent. -/
theorem refresh_eq_null_iff {token : Text} (genuine : Genuine environment token) (now : ℤ) :
    (refresh environment (some token) now sessions).1 = .ok .null ↔
      RowsSpent environment sessions token now := by
  obtain ⟨configured, owner, jti, issued⟩ := genuine
  obtain ⟨nonempty, claimed, -⟩ := issued.claims
  have named : ∀ row : RefreshToken,
      claim (environment.decode token) userIndexClaim = some (indexValue row.tokenOwner) ↔
        row.tokenOwner = owner := by
    intro row
    rw [claimed, Option.some.injEq]
    constructor
    · intro same
      have indexes := congrArg valueIndex same
      rw [valueIndex_indexValue, valueIndex_indexValue] at indexes
      exact (Option.some.inj indexes).symm
    · exact fun same => by rw [same]
  have signs : ∀ sessions, (signLoginTokensFor environment (some (indexValue owner)) now
      sessions).1 ≠ .ok .null := by
    intro sessions
    rw [signLoginTokensFor, Option.bind_some, valueIndex_indexValue]
    exact signLoginTokens_ne_null configured owner now sessions
  rw [refresh_of_filter nonempty claimed (by simp [indexValue])
    (indexFilter_indexValue environment owner)]
  cases active : sessions.refreshToken.find?
      (RefreshToken.active (fun candidate => candidate == owner) token) with
  | some row =>
    have chosen := List.find?_some active
    simp only [RefreshToken.active, Bool.and_eq_true, beq_iff_eq,
      Option.isNone_iff_eq_none] at chosen
    refine iff_of_false (signs _) fun spent => ?_
    obtain ⟨expiredAt, expired, -⟩ := spent row (List.mem_of_find?_eq_some active) chosen.1.2
      ((named row).mpr chosen.1.1)
    simp [chosen.2] at expired
  | none =>
    cases recent : sessions.refreshToken.find?
        (RefreshToken.recentlyExpired (fun candidate => candidate == owner) token now) with
    | some row =>
      have chosen := List.find?_some recent
      simp only [RefreshToken.recentlyExpired, Bool.and_eq_true, beq_iff_eq] at chosen
      refine iff_of_false (signs _) fun spent => ?_
      obtain ⟨expiredAt, expired, before⟩ := spent row (List.mem_of_find?_eq_some recent)
        chosen.1.2 ((named row).mpr chosen.1.1)
      have within : now - refreshRotationGraceMs ≤ expiredAt := by
        simpa [expired] using chosen.2
      omega
    | none =>
      refine iff_of_true rfl fun row inside text owned => ?_
      have ended := List.find?_eq_none.mp active row inside
      have older := List.find?_eq_none.mp recent row inside
      simp only [RefreshToken.active, RefreshToken.recentlyExpired, text, (named row).mp owned,
        beq_self_eq_true, Bool.true_and, Option.isNone_iff_eq_none] at ended older
      obtain ⟨expiredAt, expired⟩ := Option.ne_none_iff_exists'.mp ended
      have outside : ¬ now - refreshRotationGraceMs ≤ expiredAt := by
        simpa only [expired, Option.any_some, decide_eq_true_eq] using older
      exact ⟨expiredAt, expired, by omega⟩

/-! ## Runs -/

/-- When every token returned so far is a refresh token, a call is within the rule
exactly when it finds only spent rows. -/
theorem lifetimeRule_iff {past : List Event}
    (genuine : ∀ event ∈ past, ∀ token, issued event = some token → Genuine environment token)
    (timed : TimedCall) :
    LifetimeRule environment past (timed, (perform environment sessions timed).1) ↔
      LateRowsSpent environment past sessions timed := by
  obtain ⟨call, now⟩ := timed
  refine forall_congr' fun token => forall_congr' fun late => ?_
  obtain ⟨asked, issue, inside, gave, -⟩ := id late
  cases asked
  rw [← refresh_eq_null_iff (genuine issue inside token gave) now]
  exact Outcome.pair.injEq _ _ ▸ Iff.rfl

/-- In a run from any table, every refresh past the lifetime of a token returned
earlier brings no tokens, exactly when each such refresh finds only spent rows of its
token. -/
theorem lifetime_rule_iff_late_rows_spent (environment : Environment) (sessions : Sessions)
    (calls : List TimedCall) :
    (∀ before event after,
      trace (perform environment) sessions calls = before ++ event :: after →
        LifetimeRule environment before event) ↔
      Along (perform environment) (LateRowsSpent environment) [] sessions calls := by
  have events := along_events_iff (perform environment) (LifetimeRule environment) [] sessions
    calls
  simp only [List.nil_append] at events
  rw [← events]
  apply along_congr fun past _ =>
    ∀ event ∈ past, ∀ token, issued event = some token → Genuine environment token
  · intro past sessions timed genuine event inside token gave
    rcases List.mem_append.mp inside with before | last
    · exact genuine event before token gave
    · rw [List.mem_singleton.mp last] at gave
      exact genuine_of_perform gave
  · exact fun past sessions timed genuine => lifetimeRule_iff genuine timed
  · exact fun event inside => absurd inside List.not_mem_nil

/-- A login, and a refresh with its token fifteen days later. -/
noncomputable def fortnightRun : List TimedCall :=
  [⟨.signLoginTokens 1, 1756000000000⟩, ⟨.refresh (some firstToken), 1757296000000⟩]

theorem firstToken_issued :
    IsRefreshToken plainEnvironment 1 (plainEnvironment.randomUUID 0) firstToken :=
  ⟨1756000000000, _, rfl, rfl⟩

theorem firstToken_genuine : Genuine plainEnvironment firstToken :=
  ⟨⟨rfl, rfl⟩, 1, plainEnvironment.randomUUID 0, firstToken_issued⟩

theorem late_fortnightRun :
    Late plainEnvironment ((trace (perform plainEnvironment) {} fortnightRun).take 1)
      ⟨.refresh (some firstToken), 1757296000000⟩ firstToken := by
  refine ⟨rfl, _, List.mem_cons_self, rfl, 1757209600, ?_, by decide⟩
  have ttl : lifetime plainEnvironment .refresh = some 1209600 := rfl
  rw [expiresAt, ttl, Option.map_some, Option.some.injEq, Int.floor_eq_iff]
  norm_num

/-- A token of a fortnight is still exchanged after fifteen days. -/
theorem not_lifetime_rule_fortnightRun :
    ¬ ∀ before event after,
      trace (perform plainEnvironment) {} fortnightRun = before ++ event :: after →
        LifetimeRule plainEnvironment before event := by
  intro rule
  have refused := rule [_] _ [] rfl firstToken late_fortnightRun
  have spent := (refresh_eq_null_iff firstToken_genuine _).mp (Outcome.pair.inj refused)
  obtain ⟨expiredAt, expired, -⟩ := spent ⟨1, 1, firstToken, 1756000000000, none⟩
    (show _ ∈ [_] from List.mem_cons_self) rfl firstToken_issued.claims.2.1
  cases expired

end Auth

end OpticsHub
