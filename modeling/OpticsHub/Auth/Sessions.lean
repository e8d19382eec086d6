import OpticsHub.Auth.JwtUtil
import OpticsHub.Machine.Run

/-!
# When a refresh token is accepted

Every refresh token handed out has a status: active until it is rotated by a
refresh or revoked by a logout, whichever comes first. The status is a function
of the calls made so far. The table keeps less than that: a row records only when
its token left use, and rotation and logout write the same column. A run keeps
the two in step, one row for each token issued, so what a refresh decides from
the rows can be read from the statuses. It accepts a token rotated a moment ago,
as it means to, and in the same way a token revoked a moment ago.
-/
namespace OpticsHub

open Script Machine

namespace Auth

/-- A call of the login or logout interface. -/
inductive Call where
  | signLoginTokens (userIndex : Int32)
  | refresh (token : Option Text)
  | revokeRefreshToken (token : Option Text)

/-- A call and the time at which it is made. -/
structure TimedCall where
  call : Call
  now : ℤ

inductive Outcome where
  | pair (result : Except AuthError TokenPair)
  | revoked (result : Except AuthError Unit)

abbrev Event := TimedCall × Outcome

/-- Calls are made one after another on one table. -/
def perform (environment : Environment) : Transition Sessions TimedCall Outcome :=
  fun sessions timed =>
    match timed.call with
    | .signLoginTokens userIndex =>
      let outcome := signLoginTokens environment userIndex timed.now sessions
      (.pair outcome.1, outcome.2)
    | .refresh token =>
      let outcome := Auth.refresh environment token timed.now sessions
      (.pair outcome.1, outcome.2)
    | .revokeRefreshToken token =>
      let outcome := Auth.revokeRefreshToken environment token timed.now sessions
      (.revoked outcome.1, outcome.2)

/-! ## The status of a token -/

inductive Status where
  | unknown
  | active
  | rotated (moment : ℤ)
  | revoked (moment : ℤ)
  deriving DecidableEq, Repr

/-- The refresh token a result returns. -/
def returned (result : Except AuthError TokenPair) : Option Text :=
  match result with
  | .ok pair => pair.refreshToken
  | .error _ => none

/-- The refresh token a call returned. -/
def issued (event : Event) : Option Text :=
  match event.2 with
  | .pair result => returned result
  | .revoked _ => none

/-- A refresh or a logout that presents an active token ends it. -/
def retire (status : Text → Status) (timed : TimedCall) : Text → Status :=
  match timed.call with
  | .refresh (some token) =>
    if status token = .active then Function.update status token (.rotated timed.now) else status
  | .revokeRefreshToken (some token) =>
    if status token = .active then Function.update status token (.revoked timed.now) else status
  | _ => status

/-- A token that is returned becomes active. -/
def activate (status : Text → Status) : Option Text → Text → Status
  | none => status
  | some token => Function.update status token .active

/-- The status of every token after the calls made so far. -/
def statusOf (past : List Event) : Text → Status :=
  past.foldl (fun status event => activate (retire status event.1) (issued event))
    fun _ => .unknown

theorem statusOf_append (past : List Event) (event : Event) :
    statusOf (past ++ [event]) = activate (retire (statusOf past) event.1) (issued event) := by
  simp [statusOf]

/-! ## The table and the statuses -/

/-- The time of expiry a status stands for in the table. -/
def Status.Recorded : Status → Option ℤ → Prop
  | .unknown, _ => False
  | .active, expiredAt => expiredAt = none
  | .rotated moment, expiredAt => expiredAt = some moment
  | .revoked moment, expiredAt => expiredAt = some moment

/-- The lifetimes of both login tokens are configured. -/
def Configured (environment : Environment) : Prop :=
  (lifetime environment .access).isSome ∧ (lifetime environment .refresh).isSome

/-- The table has one row for every token issued, with the expiry its status stands for. -/
structure Tracks (environment : Environment) (status : Text → Status) (sessions : Sessions) :
    Prop where
  fresh : ∀ row ∈ sessions.refreshToken, row.tokenIndex < sessions.nextIndex
  indexes : (sessions.refreshToken.map RefreshToken.tokenIndex).Nodup
  tokens : (sessions.refreshToken.map RefreshToken.token).Nodup
  genuine : ∀ row ∈ sessions.refreshToken, ∃ drawn < sessions.drawn,
    IsRefreshToken environment row.tokenOwner (environment.randomUUID drawn) row.token
  configured : ∀ row ∈ sessions.refreshToken, Configured environment
  recorded : ∀ row ∈ sessions.refreshToken, (status row.token).Recorded row.tokenExpiredAt
  unknown : ∀ token, token ∉ sessions.refreshToken.map RefreshToken.token →
    status token = .unknown

variable {environment : Environment} {status : Text → Status} {sessions : Sessions}

theorem Tracks.row_eq_of_index (tracks : Tracks environment status sessions)
    {row row' : RefreshToken} (inside : row ∈ sessions.refreshToken)
    (inside' : row' ∈ sessions.refreshToken) (same : row.tokenIndex = row'.tokenIndex) :
    row = row' :=
  List.inj_on_of_nodup_map tracks.indexes inside inside' same

theorem Tracks.row_eq_of_token (tracks : Tracks environment status sessions)
    {row row' : RefreshToken} (inside : row ∈ sessions.refreshToken)
    (inside' : row' ∈ sessions.refreshToken) (same : row.token = row'.token) : row = row' :=
  List.inj_on_of_nodup_map tracks.tokens inside inside' same

/-- Drawing an identifier that is not used keeps the table in step. -/
theorem Tracks.draw (tracks : Tracks environment status sessions) {drawn : ℕ}
    (later : sessions.drawn ≤ drawn) :
    Tracks environment status { sessions with drawn := drawn } where
  fresh := tracks.fresh
  indexes := tracks.indexes
  tokens := tracks.tokens
  genuine row inside := by
    obtain ⟨number, before, token⟩ := tracks.genuine row inside
    exact ⟨number, by dsimp only; omega, token⟩
  configured := tracks.configured
  recorded := tracks.recorded
  unknown := tracks.unknown

/-- Ending the active row of a token is ending the token. -/
theorem Tracks.expire (tracks : Tracks environment status sessions) {token : Text} {now : ℤ}
    {ended : Status} (records : ended.Recorded (some now)) {selected : RefreshToken → Bool}
    (selects : ∀ row ∈ sessions.refreshToken, selected row = true ↔ row.token = token)
    (known : token ∈ sessions.refreshToken.map RefreshToken.token) :
    Tracks environment (Function.update status token ended) (sessions.expire selected now) := by
  have kept : ∀ {γ : Type} (field : RefreshToken → γ),
      (∀ row expiredAt, field { row with tokenExpiredAt := expiredAt } = field row) →
      (sessions.expire selected now).refreshToken.map field = sessions.refreshToken.map field := by
    intro γ field same
    rw [Sessions.expire, List.map_map]
    apply List.map_congr_left
    intro row _
    rw [Function.comp_apply]
    split
    · exact same row _
    · rfl
  have origin : ∀ row' ∈ (sessions.expire selected now).refreshToken,
      ∃ row ∈ sessions.refreshToken, row'.tokenIndex = row.tokenIndex ∧
        row'.tokenOwner = row.tokenOwner ∧ row'.token = row.token ∧
        row'.tokenExpiredAt = if row.token = token then some now else row.tokenExpiredAt := by
    intro row' inside
    obtain ⟨row, original, rfl⟩ := List.mem_map.mp inside
    refine ⟨row, original, ?_⟩
    by_cases chosen : row.token = token
    · simp [(selects row original).mpr chosen, chosen]
    · simp [mt (selects row original).mp chosen, chosen]
  refine ⟨?_, ?_, ?_, ?_, ?_, ?_, ?_⟩
  · intro row' inside
    obtain ⟨row, original, index, -⟩ := origin row' inside
    exact index ▸ tracks.fresh row original
  · rw [kept _ fun _ _ => rfl]
    exact tracks.indexes
  · rw [kept _ fun _ _ => rfl]
    exact tracks.tokens
  · intro row' inside
    obtain ⟨row, original, -, owner, text, -⟩ := origin row' inside
    rw [owner, text]
    exact tracks.genuine row original
  · intro row' inside
    obtain ⟨row, original, -⟩ := origin row' inside
    exact tracks.configured row original
  · intro row' inside
    obtain ⟨row, original, -, -, text, expired⟩ := origin row' inside
    rw [text, expired]
    by_cases chosen : row.token = token
    · rw [chosen, Function.update_self, if_pos rfl]
      exact records
    · rw [Function.update_of_ne chosen, if_neg chosen]
      exact tracks.recorded row original
  · intro other absent
    rw [kept _ fun _ _ => rfl] at absent
    have differs : other ≠ token := by
      rintro rfl
      exact absent known
    rw [Function.update_of_ne differs]
    exact tracks.unknown other absent

/-- A token with a new identifier has no row yet. -/
theorem Tracks.not_known (tracks : Tracks environment status sessions) {owner : Int32}
    {token : Text}
    (genuine : IsRefreshToken environment owner (environment.randomUUID sessions.drawn) token) :
    token ∉ sessions.refreshToken.map RefreshToken.token := by
  intro known
  obtain ⟨row, inside, rfl⟩ := List.mem_map.mp known
  obtain ⟨drawn, before, issued⟩ := tracks.genuine row inside
  have same := environment.randomUUID_injective (issued.jti_eq genuine)
  omega

/-- Recording a new token makes it active. -/
theorem Tracks.issue (tracks : Tracks environment status sessions)
    (configured : Configured environment) {owner : Int32} {token : Text}
    (genuine : IsRefreshToken environment owner (environment.randomUUID sessions.drawn) token)
    (now : ℤ) :
    Tracks environment (Function.update status token .active)
      { refreshToken := sessions.refreshToken ++
          [{ tokenIndex := sessions.nextIndex
             tokenOwner := owner
             token := token
             tokenCreatedAt := now
             tokenExpiredAt := none }]
        nextIndex := sessions.nextIndex + 1
        drawn := sessions.drawn + 1 } := by
  have absent := tracks.not_known genuine
  refine ⟨?_, ?_, ?_, ?_, ?_, ?_, ?_⟩
  · intro row inside
    rcases List.mem_append.mp inside with before | last
    · exact Nat.lt_succ_of_lt (tracks.fresh row before)
    · rw [List.mem_singleton.mp last]
      exact Nat.lt_succ_self _
  · rw [List.map_append, List.map_singleton]
    refine List.nodup_append.mpr ⟨tracks.indexes, List.nodup_singleton _, ?_⟩
    rintro index known _ last rfl
    obtain ⟨row, inside, rfl⟩ := List.mem_map.mp known
    have before := tracks.fresh row inside
    rw [List.mem_singleton.mp last] at before
    exact absurd before (lt_irrefl _)
  · rw [List.map_append, List.map_singleton]
    refine List.nodup_append.mpr ⟨tracks.tokens, List.nodup_singleton _, ?_⟩
    rintro text known _ last rfl
    rw [List.mem_singleton.mp last] at known
    exact absent known
  · intro row inside
    rcases List.mem_append.mp inside with before | last
    · obtain ⟨drawn, earlier, issued⟩ := tracks.genuine row before
      exact ⟨drawn, Nat.lt_succ_of_lt earlier, issued⟩
    · rw [List.mem_singleton.mp last]
      exact ⟨sessions.drawn, Nat.lt_succ_self _, genuine⟩
  · exact fun _ _ => configured
  · intro row inside
    rcases List.mem_append.mp inside with before | last
    · have differs : row.token ≠ token := by
        rintro rfl
        exact absent (List.mem_map_of_mem before)
      rw [Function.update_of_ne differs]
      exact tracks.recorded row before
    · rw [List.mem_singleton.mp last, Function.update_self]
      rfl
  · intro other missing
    rw [List.map_append, List.mem_append, not_or, List.map_singleton, List.mem_singleton] at missing
    rw [Function.update_of_ne missing.2]
    exact tracks.unknown other missing.1

/-! ## What the calls do to a table in step -/

/-- Issuing tokens fails and leaves the rows when a lifetime is not configured, and
otherwise returns a pair whose refresh token is new and recorded. -/
theorem signLoginTokens_cases (environment : Environment) (userIndex : Int32) (now : ℤ)
    (sessions : Sessions) :
    (¬ Configured environment ∧ ∃ error drawn, sessions.drawn ≤ drawn ∧
      signLoginTokens environment userIndex now sessions =
        (.error error, { sessions with drawn := drawn })) ∨
    (Configured environment ∧ ∃ access token,
      IsRefreshToken environment userIndex (environment.randomUUID sessions.drawn) token ∧
      signLoginTokens environment userIndex now sessions =
        (.ok ⟨some access, some token⟩,
          { refreshToken := sessions.refreshToken ++
              [{ tokenIndex := sessions.nextIndex
                 tokenOwner := userIndex
                 token := token
                 tokenCreatedAt := now
                 tokenExpiredAt := none }]
            nextIndex := sessions.nextIndex + 1
            drawn := sessions.drawn + 1 })) := by
  have accesses := accessPayload_isSome environment userIndex now
  have refreshes := refreshPayload_isSome environment userIndex now
    (environment.randomUUID sessions.drawn)
  unfold signLoginTokens Configured
  rw [← accesses, ← refreshes]
  cases accessPayload environment userIndex now with
  | none => exact .inl ⟨by simp, _, sessions.drawn, le_refl _, rfl⟩
  | some access =>
    cases minted : refreshPayload environment userIndex now
        (environment.randomUUID sessions.drawn) with
    | none =>
      refine .inl ⟨by simp, .tokenNotSigned, sessions.drawn + 1, Nat.le_succ _, ?_⟩
      simp only [minted]
    | some payload =>
      refine .inr ⟨by simp, environment.encode access, environment.encode payload,
        ⟨now, payload, minted, rfl⟩, ?_⟩
      simp only [minted]

/-- Issuing tokens keeps the table in step and activates what it returns. -/
theorem Tracks.signLoginTokens (tracks : Tracks environment status sessions)
    (userIndex : Int32) (now : ℤ) :
    Tracks environment
      (activate status (returned (Auth.signLoginTokens environment userIndex now sessions).1))
      (Auth.signLoginTokens environment userIndex now sessions).2 := by
  rcases signLoginTokens_cases environment userIndex now sessions with
    ⟨-, error, drawn, later, outcome⟩ | ⟨configured, access, token, genuine, outcome⟩
  · rw [outcome]
    exact tracks.draw later
  · rw [outcome]
    exact tracks.issue configured genuine now

/-- A search finds the only member that satisfies its condition. -/
theorem find?_eq_some_of_unique {α : Type*} {condition : α → Bool} {members : List α} {member : α}
    (inside : member ∈ members) (holds : condition member = true)
    (unique : ∀ other ∈ members, condition other = true → other = member) :
    members.find? condition = some member := by
  cases found : members.find? condition with
  | none => exact absurd holds (List.find?_eq_none.mp found member inside)
  | some other =>
    rw [unique other (List.mem_of_find?_eq_some found) (List.find?_some found)]

/-- The search for an active row finds the row of a token exactly while it is active. -/
theorem Tracks.find_active (tracks : Tracks environment status sessions) {row : RefreshToken}
    (inside : row ∈ sessions.refreshToken) :
    sessions.refreshToken.find?
        (RefreshToken.active (fun candidate => candidate == row.tokenOwner) row.token) =
      if row.tokenExpiredAt = none then some row else none := by
  have unique : ∀ other ∈ sessions.refreshToken,
      RefreshToken.active (fun candidate => candidate == row.tokenOwner) row.token other = true →
        other = row := by
    intro other present chosen
    simp only [RefreshToken.active, Bool.and_eq_true, beq_iff_eq] at chosen
    exact tracks.row_eq_of_token present inside chosen.1.2
  split
  · rename_i active
    exact find?_eq_some_of_unique inside (by simp [RefreshToken.active, active]) unique
  · rename_i expired
    refine List.find?_eq_none.mpr fun other present chosen => ?_
    rw [unique other present chosen] at chosen
    simp [RefreshToken.active, expired] at chosen

/-- The search for a row that expired a moment ago finds the row of a token exactly
within the grace. -/
theorem Tracks.find_recentlyExpired (tracks : Tracks environment status sessions)
    {row : RefreshToken} (inside : row ∈ sessions.refreshToken) (now : ℤ) :
    sessions.refreshToken.find? (RefreshToken.recentlyExpired
        (fun candidate => candidate == row.tokenOwner) row.token now) =
      if row.tokenExpiredAt.any fun expiredAt => decide (now - refreshRotationGraceMs ≤ expiredAt)
        then some row else none := by
  have unique : ∀ other ∈ sessions.refreshToken,
      RefreshToken.recentlyExpired (fun candidate => candidate == row.tokenOwner) row.token now
        other = true → other = row := by
    intro other present chosen
    simp only [RefreshToken.recentlyExpired, Bool.and_eq_true, beq_iff_eq] at chosen
    exact tracks.row_eq_of_token present inside chosen.1.2
  split
  · rename_i recent
    exact find?_eq_some_of_unique inside
      (by simp only [RefreshToken.recentlyExpired, beq_self_eq_true, Bool.true_and]; exact recent)
      unique
  · rename_i older
    refine List.find?_eq_none.mpr fun other present chosen => ?_
    rw [unique other present chosen] at chosen
    simp only [RefreshToken.recentlyExpired, beq_self_eq_true, Bool.true_and] at chosen
    exact older chosen

/-- A refresh of a token that has a row. -/
theorem Tracks.refresh_known (tracks : Tracks environment status sessions) {row : RefreshToken}
    (inside : row ∈ sessions.refreshToken) (now : ℤ) :
    Auth.refresh environment (some row.token) now sessions =
      match row.tokenExpiredAt with
      | none =>
        Auth.signLoginTokens environment row.tokenOwner now
          (sessions.expire (fun other => other.tokenIndex == row.tokenIndex) now)
      | some expiredAt =>
        if now - refreshRotationGraceMs ≤ expiredAt then
          Auth.signLoginTokens environment row.tokenOwner now sessions
        else (.ok .null, sessions) := by
  obtain ⟨drawn, -, genuine⟩ := tracks.genuine row inside
  obtain ⟨nonempty, owner, -⟩ := genuine.claims
  have signs : ∀ sessions, signLoginTokensFor environment (some (indexValue row.tokenOwner)) now
      sessions = Auth.signLoginTokens environment row.tokenOwner now sessions := by
    intro sessions
    rw [signLoginTokensFor, Option.bind_some, valueIndex_indexValue]
  rw [refresh_of_filter nonempty owner (by simp [indexValue])
    (indexFilter_indexValue environment row.tokenOwner), tracks.find_active inside,
    tracks.find_recentlyExpired inside]
  cases row.tokenExpiredAt with
  | none => simp only [if_true, signs]
  | some expiredAt =>
    by_cases recent : now - refreshRotationGraceMs ≤ expiredAt
    · simp only [reduceCtorEq, if_false, Option.any_some, decide_eq_true recent, if_pos recent,
        if_true, signs]
    · simp only [reduceCtorEq, if_false, Option.any_some, decide_eq_false recent, if_neg recent,
        Bool.false_eq_true]

/-- A refresh keeps the table in step: it rotates an active token, and activates the
token it returns. -/
theorem Tracks.refresh (tracks : Tracks environment status sessions) (token : Option Text)
    (now : ℤ) :
    Tracks environment
      (activate (retire status ⟨.refresh token, now⟩)
        (returned (Auth.refresh environment token now sessions).1))
      (Auth.refresh environment token now sessions).2 := by
  cases token with
  | none => exact tracks
  | some token =>
    by_cases known : token ∈ sessions.refreshToken.map RefreshToken.token
    · obtain ⟨row, inside, rfl⟩ := List.mem_map.mp known
      have recorded := tracks.recorded row inside
      rw [tracks.refresh_known inside]
      cases expiry : row.tokenExpiredAt with
      | none =>
        rw [expiry] at recorded
        have active : status row.token = .active := by
          cases current : status row.token <;> simp_all [Status.Recorded]
        have selects : ∀ other ∈ sessions.refreshToken,
            (other.tokenIndex == row.tokenIndex) = true ↔ other.token = row.token := by
          intro other present
          rw [beq_iff_eq]
          constructor
          · exact fun same => congrArg _ (tracks.row_eq_of_index present inside same)
          · exact fun same => congrArg _ (tracks.row_eq_of_token present inside same)
        have rotated : (Status.rotated now).Recorded (some now) := rfl
        simp only [retire, if_pos active]
        exact (tracks.expire rotated selects known).signLoginTokens row.tokenOwner now
      | some expiredAt =>
        rw [expiry] at recorded
        have ended : status row.token ≠ .active := by
          intro active
          simp [active, Status.Recorded] at recorded
        simp only [retire, if_neg ended]
        split
        · exact tracks.signLoginTokens row.tokenOwner now
        · exact tracks
    · have unknown := tracks.unknown token known
      obtain ⟨result, outcome, empty⟩ := refresh_of_no_row environment now
        fun row inside same => known (List.mem_map.mpr ⟨row, inside, same⟩)
      have nothing : returned result = none := by
        cases result with
        | error error => rfl
        | ok pair => rw [empty pair rfl]; rfl
      rw [outcome, nothing]
      simpa [retire, unknown, activate] using tracks

/-- A logout keeps the table in step: it revokes an active token. -/
theorem Tracks.revokeRefreshToken (tracks : Tracks environment status sessions)
    (token : Option Text) (now : ℤ) :
    Tracks environment (retire status ⟨.revokeRefreshToken token, now⟩)
      (Auth.revokeRefreshToken environment token now sessions).2 := by
  cases token with
  | none => exact tracks
  | some token =>
    by_cases known : token ∈ sessions.refreshToken.map RefreshToken.token
    · obtain ⟨row, inside, rfl⟩ := List.mem_map.mp known
      have recorded := tracks.recorded row inside
      obtain ⟨drawn, -, genuine⟩ := tracks.genuine row inside
      obtain ⟨nonempty, owner, -⟩ := genuine.claims
      rw [revokeRefreshToken_of_filter nonempty owner (by simp [indexValue])
        (indexFilter_indexValue environment row.tokenOwner)]
      by_cases active : row.tokenExpiredAt = none
      · rw [active] at recorded
        have current : status row.token = .active := by
          cases current : status row.token <;> simp_all [Status.Recorded]
        have selects : ∀ other ∈ sessions.refreshToken, RefreshToken.active
            (fun candidate => candidate == row.tokenOwner) row.token other = true ↔
              other.token = row.token := by
          intro other present
          constructor
          · intro chosen
            simp only [RefreshToken.active, Bool.and_eq_true, beq_iff_eq] at chosen
            exact chosen.1.2
          · intro same
            rw [tracks.row_eq_of_token present inside same]
            simp [RefreshToken.active, active]
        have revoked : (Status.revoked now).Recorded (some now) := rfl
        simp only [retire, if_pos current]
        exact tracks.expire revoked selects known
      · have ended : status row.token ≠ .active := by
          intro current
          exact active (by simpa [current, Status.Recorded] using recorded)
        have nothing : ∀ other ∈ sessions.refreshToken, RefreshToken.active
            (fun candidate => candidate == row.tokenOwner) row.token other = false := by
          intro other present
          by_contra chosen
          simp only [Bool.not_eq_false, RefreshToken.active, Bool.and_eq_true, beq_iff_eq,
            Option.isNone_iff_eq_none] at chosen
          exact active (tracks.row_eq_of_token present inside chosen.1.2 ▸ chosen.2)
        simp only [retire, if_neg ended]
        rw [Sessions.expire_of_none nothing]
        exact tracks
    · have unknown := tracks.unknown token known
      rw [revokeRefreshToken_of_no_row environment now
        fun row inside same => known (List.mem_map.mpr ⟨row, inside, same⟩)]
      simpa [retire, unknown] using tracks

/-! ## Runs -/

/-- Every call keeps the table in step: it ends what it presents, if that is active, and
activates what it returns. -/
theorem Tracks.performed (tracks : Tracks environment status sessions) (timed : TimedCall) :
    Tracks environment
      (activate (retire status timed) (issued (timed, (Auth.perform environment sessions timed).1)))
      (Auth.perform environment sessions timed).2 := by
  obtain ⟨call, now⟩ := timed
  cases call with
  | signLoginTokens userIndex => exact tracks.signLoginTokens userIndex now
  | refresh token => exact tracks.refresh token now
  | revokeRefreshToken token => exact tracks.revokeRefreshToken token now

/-- Every call keeps the table in step with the statuses of the calls so far. -/
theorem Tracks.perform {past : List Event} (tracks : Tracks environment (statusOf past) sessions)
    (timed : TimedCall) :
    Tracks environment
      (statusOf (past ++ [(timed, (Auth.perform environment sessions timed).1)]))
      (Auth.perform environment sessions timed).2 := by
  rw [statusOf_append]
  exact tracks.performed timed

/-- The refresh token of the first login in the concrete environment. -/
noncomputable def firstToken : Text :=
  (returned (signLoginTokens plainEnvironment 1 1756000000000 {}).1).getD []

end Auth

end OpticsHub
