import OpticsHub.Auth.Lifetime

/-!
# One session does not disturb another

The refresh tokens of a user share one table and one owner, and a rotation or a
logout updates rows by the text of the token. Two runs are compared: a sequence
of calls, and the same sequence without the calls that present one token. What
came of that token exists in the first run only; every other token has the same
status in both, and whether a refresh succeeds is decided by the status alone.
-/
namespace OpticsHub

open Script Machine

namespace Auth

/-! ## What decides a refresh -/

/-- A refresh of the token succeeds at a time: it is active, or it left use within
the grace before. -/
def Status.usable (now : ℤ) : Status → Bool
  | .unknown => false
  | .active => true
  | .rotated moment | .revoked moment => decide (now - refreshRotationGraceMs ≤ moment)

variable {environment : Environment} {status status' : Text → Status}
  {sessions sessions' : Sessions}

/-- The tokens issued depend on the table only by the identifier drawn. -/
theorem signLoginTokens_fst_eq (environment : Environment) (userIndex : Int32) (now : ℤ)
    (same : sessions.drawn = sessions'.drawn) :
    (signLoginTokens environment userIndex now sessions).1 =
      (signLoginTokens environment userIndex now sessions').1 := by
  unfold signLoginTokens
  cases accessPayload environment userIndex now with
  | none => rfl
  | some access =>
    rw [same]
    cases minted : refreshPayload environment userIndex now
        (environment.randomUUID sessions'.drawn) with
    | none => simp only [minted]
    | some payload => simp only [minted]

theorem Status.usable_of_recorded {status : Status} {expiredAt : Option ℤ}
    (recorded : status.Recorded expiredAt) (now : ℤ) :
    status.usable now = expiredAt.all fun moment => decide (now - refreshRotationGraceMs ≤ moment)
    := by
  cases status with
  | unknown => exact absurd recorded id
  | active => rw [show expiredAt = none from recorded]; rfl
  | rotated moment => rw [show expiredAt = some moment from recorded]; rfl
  | revoked moment => rw [show expiredAt = some moment from recorded]; rfl

/-- A refresh of a token with a row returns what issuing tokens to its owner returns,
while the token is usable, and nothing otherwise. -/
theorem Tracks.returned_refresh (tracks : Tracks environment status sessions)
    {row : RefreshToken} (inside : row ∈ sessions.refreshToken) (now : ℤ) :
    returned (Auth.refresh environment (some row.token) now sessions).1 =
      if (status row.token).usable now then
        returned (Auth.signLoginTokens environment row.tokenOwner now sessions).1
      else none := by
  rw [tracks.refresh_known inside, Status.usable_of_recorded (tracks.recorded row inside)]
  cases row.tokenExpiredAt with
  | none => exact congrArg returned (signLoginTokens_fst_eq environment row.tokenOwner now rfl)
  | some expiredAt =>
    by_cases recent : now - refreshRotationGraceMs ≤ expiredAt
    · simp only [Option.all_some, decide_eq_true recent, if_pos recent, if_true]
    · simp only [Option.all_some, decide_eq_false recent, if_neg recent, Bool.false_eq_true,
        if_false, returned, TokenPair.null]

theorem Tracks.no_row_of_unknown (tracks : Tracks environment status sessions) {token : Text}
    (unknown : status token = .unknown) : ∀ row ∈ sessions.refreshToken, row.token ≠ token := by
  rintro row inside rfl
  have recorded := tracks.recorded row inside
  rw [unknown] at recorded
  exact recorded

/-- A refresh of a token that was never issued returns nothing and changes nothing. -/
theorem Tracks.refresh_unknown (tracks : Tracks environment status sessions) {token : Text}
    (unknown : status token = .unknown) (now : ℤ) :
    returned (Auth.refresh environment (some token) now sessions).1 = none ∧
      (Auth.refresh environment (some token) now sessions).2 = sessions := by
  obtain ⟨result, outcome, empty⟩ :=
    refresh_of_no_row environment now (tracks.no_row_of_unknown unknown)
  rw [outcome]
  cases result with
  | error error => exact ⟨rfl, rfl⟩
  | ok pair => exact ⟨by rw [empty pair rfl]; rfl, rfl⟩

theorem Tracks.row_of_known (tracks : Tracks environment status sessions) {token : Text}
    (known : status token ≠ .unknown) : ∃ row ∈ sessions.refreshToken, row.token = token := by
  by_contra absent
  exact known (tracks.unknown token fun inside => absent (List.mem_map.mp inside))

/-- Two tables in which a token has the same status return the same for its refresh, when
they are to draw the same identifier. -/
theorem Tracks.returned_refresh_eq (tracks : Tracks environment status sessions)
    (tracks' : Tracks environment status' sessions') {token : Text}
    (same : status token = status' token) (drawn : sessions.drawn = sessions'.drawn) (now : ℤ) :
    returned (Auth.refresh environment (some token) now sessions).1 =
      returned (Auth.refresh environment (some token) now sessions').1 := by
  by_cases unknown : status token = .unknown
  · rw [(tracks.refresh_unknown unknown now).1,
      (tracks'.refresh_unknown (same ▸ unknown) now).1]
  · obtain ⟨row, inside, text⟩ := tracks.row_of_known unknown
    obtain ⟨row', inside', text'⟩ := tracks'.row_of_known (same ▸ unknown)
    obtain ⟨number, -, genuine⟩ := tracks.genuine row inside
    obtain ⟨number', -, genuine'⟩ := tracks'.genuine row' inside'
    have owners : row.tokenOwner = row'.tokenOwner := by
      have filters := genuine.claims.2.1.symm.trans (text.trans text'.symm ▸ genuine'.claims.2.1)
      have values := congrArg valueIndex (Option.some.inj filters)
      rw [valueIndex_indexValue, valueIndex_indexValue] at values
      exact Option.some.inj values
    have first := tracks.returned_refresh inside now
    have second := tracks'.returned_refresh inside' now
    rw [text] at first
    rw [text'] at second
    rw [first, second, same, owners, signLoginTokens_fst_eq environment row'.tokenOwner now drawn]

/-! ## Two runs -/

/-- A call and its number. -/
abbrev Numbered := TimedCall × ℕ

/-- A call draws the identifier of its own number, so that the identifiers of the calls
stay the same when others are left out. -/
def performNumbered (environment : Environment) : Transition Sessions Numbered Outcome :=
  fun sessions numbered =>
    perform environment { sessions with drawn := numbered.2 } numbered.1

/-- The call is a refresh or a logout that presents the token. -/
def TimedCall.presents (token : Text) (timed : TimedCall) : Bool :=
  match timed.call with
  | .refresh (some other) | .revokeRefreshToken (some other) => other == token
  | _ => false

/-- The sequence from which every refresh and every logout of a token is removed. -/
def withoutToken (token : Text) (calls : List Numbered) : List Numbered :=
  calls.filter fun numbered => !numbered.1.presents token

/-- The tokens obtained by refreshing a token, directly or through further rotations. -/
inductive ObtainedFrom (events : List (Numbered × Outcome)) (source : Text) : Text → Prop
  | directly {event : Numbered × Outcome} {token : Text} (inside : event ∈ events)
      (refreshes : event.1.1.call = .refresh (some source))
      (returns : issued (event.1.1, event.2) = some token) : ObtainedFrom events source token
  | further {event : Numbered × Outcome} {parent token : Text}
      (earlier : ObtainedFrom events source parent) (inside : event ∈ events)
      (refreshes : event.1.1.call = .refresh (some parent))
      (returns : issued (event.1.1, event.2) = some token) : ObtainedFrom events source token

theorem ObtainedFrom.mono {events events' : List (Numbered × Outcome)} {source token : Text}
    (obtained : ObtainedFrom events source token) (more : events ⊆ events') :
    ObtainedFrom events' source token := by
  induction obtained with
  | directly inside refreshes returns => exact .directly (more inside) refreshes returns
  | further _ inside refreshes returns ih => exact .further ih (more inside) refreshes returns

/-- Two runs are apart by the descent of a token: its own calls and what they brought
happened in the first only, and every other token has one status. -/
structure Apart (environment : Environment) (source : Text) (descends : Text → Prop)
    (status status' : Text → Status) (sessions sessions' : Sessions) : Prop where
  first : Tracks environment status sessions
  second : Tracks environment status' sessions'
  self : descends source
  agrees : ∀ token, ¬ descends token → status token = status' token
  absent : ∀ token, descends token → token ≠ source →
    status token ≠ .unknown ∧ status' token = .unknown

/-- What issuing tokens returns carries the identifier it drew. -/
theorem genuine_of_returned {userIndex : Int32} {now : ℤ} {token : Text}
    (gave : returned (signLoginTokens environment userIndex now sessions).1 = some token) :
    IsRefreshToken environment userIndex (environment.randomUUID sessions.drawn) token := by
  rcases signLoginTokens_cases environment userIndex now sessions with
    ⟨-, error, drawn, -, outcome⟩ | ⟨-, access, refresh, genuine, outcome⟩
  · rw [outcome] at gave
    cases gave
  · rw [outcome] at gave
    exact Option.some.inj gave ▸ genuine

/-- What a call returns carries the identifier it drew. -/
theorem Tracks.issued_genuine (tracks : Tracks environment status sessions) {timed : TimedCall}
    {token : Text}
    (gave : issued (timed, (Auth.perform environment sessions timed).1) = some token) :
    ∃ owner, IsRefreshToken environment owner (environment.randomUUID sessions.drawn) token := by
  obtain ⟨call, now⟩ := timed
  cases call with
  | signLoginTokens userIndex => exact ⟨userIndex, genuine_of_returned gave⟩
  | revokeRefreshToken presented => cases gave
  | refresh presented =>
    cases presented with
    | none => cases gave
    | some parent =>
      by_cases unknown : status parent = .unknown
      · exact absurd ((tracks.refresh_unknown unknown now).1.symm.trans gave) (by simp)
      · obtain ⟨row, inside, rfl⟩ := tracks.row_of_known unknown
        have result := (tracks.returned_refresh inside now).symm.trans gave
        split at result
        · exact ⟨row.tokenOwner, genuine_of_returned result⟩
        · cases result

/-- A call draws one identifier at most. -/
theorem drawn_perform_le (environment : Environment) (sessions : Sessions) (timed : TimedCall) :
    (perform environment sessions timed).2.drawn ≤ sessions.drawn + 1 := by
  have signs : ∀ userIndex now (sessions : Sessions),
      (signLoginTokens environment userIndex now sessions).2.drawn ≤ sessions.drawn + 1 := by
    intro userIndex now sessions
    unfold signLoginTokens
    cases accessPayload environment userIndex now with
    | none => exact Nat.le_succ _
    | some access =>
      cases minted : refreshPayload environment userIndex now
          (environment.randomUUID sessions.drawn) with
      | none => simp only [minted, le_refl]
      | some payload => simp only [minted, le_refl]
  have signsFor : ∀ userIndex now (sessions : Sessions),
      (signLoginTokensFor environment userIndex now sessions).2.drawn ≤ sessions.drawn + 1 := by
    intro userIndex now sessions
    unfold signLoginTokensFor
    split
    · exact Nat.le_succ _
    · exact signs _ _ _
  obtain ⟨call, now⟩ := timed
  cases call with
  | signLoginTokens userIndex => exact signs userIndex now sessions
  | revokeRefreshToken token =>
    simp only [perform]
    unfold revokeRefreshToken
    split
    · exact Nat.le_succ _
    · exact Nat.le_succ _
    · dsimp only
      split
      · exact Nat.le_succ _
      · exact Nat.le_succ _
      · split
        · exact Nat.le_succ _
        · exact Nat.le_succ _
  | refresh token =>
    simp only [perform]
    unfold refresh
    split
    · exact Nat.le_succ _
    · exact Nat.le_succ _
    · dsimp only
      split
      · exact Nat.le_succ _
      · exact Nat.le_succ _
      · split
        · exact Nat.le_succ _
        · split
          · exact signsFor _ _ _
          · split
            · exact signsFor _ _ _
            · exact Nat.le_succ _

/-- Ending one token leaves the status of the others. -/
theorem retire_of_not_presents {timed : TimedCall} {token : Text}
    (other : timed.presents token = false) : retire status timed token = status token := by
  obtain ⟨call, now⟩ := timed
  have differs : ∀ {presented : Text}, (presented == token) = false → token ≠ presented := by
    rintro presented different rfl
    exact absurd different (by simp)
  cases call with
  | signLoginTokens userIndex => rfl
  | refresh presented =>
    cases presented with
    | none => rfl
    | some presented =>
      simp only [retire]
      split
      · exact Function.update_of_ne (differs other) _ _
      · rfl
  | revokeRefreshToken presented =>
    cases presented with
    | none => rfl
    | some presented =>
      simp only [retire]
      split
      · exact Function.update_of_ne (differs other) _ _
      · rfl

/-- A token that is returned is new to every table whose identifiers are older. -/
theorem Tracks.unknown_of_genuine (tracks : Tracks environment status sessions) {owner : Int32}
    {token : Text} {number : ℕ} (later : sessions.drawn ≤ number)
    (genuine : IsRefreshToken environment owner (environment.randomUUID number) token) :
    status token = .unknown :=
  tracks.unknown token ((tracks.draw later).not_known genuine)

/-- What a call makes of the status of a token depends on nothing but that status. -/
theorem retire_congr {token : Text} (same : status token = status' token) (timed : TimedCall) :
    retire status timed token = retire status' timed token := by
  obtain ⟨call, now⟩ := timed
  have ended : ∀ (presented : Text) (reason : Status),
      (if status presented = .active then Function.update status presented reason else status)
          token =
        (if status' presented = .active then Function.update status' presented reason
          else status') token := by
    intro presented reason
    by_cases chosen : token = presented
    · subst chosen
      rw [same]
      split
      · rw [Function.update_self, Function.update_self]
      · exact same
    · rw [apply_ite (fun status : Text → Status => status token),
        apply_ite (fun status : Text → Status => status token),
        Function.update_of_ne chosen, Function.update_of_ne chosen, ite_self, ite_self]
      exact same
  cases call with
  | signLoginTokens userIndex => exact same
  | refresh presented =>
    cases presented with
    | none => exact same
    | some presented => exact ended presented (.rotated now)
  | revokeRefreshToken presented =>
    cases presented with
    | none => exact same
    | some presented => exact ended presented (.revoked now)

/-- No call makes an issued token unknown. -/
theorem retire_ne_unknown {token : Text} (known : status token ≠ .unknown) (timed : TimedCall) :
    retire status timed token ≠ .unknown := by
  obtain ⟨call, now⟩ := timed
  have ended : ∀ (presented : Text) (reason : Status), reason ≠ .unknown →
      (if status presented = .active then Function.update status presented reason else status)
        token ≠ .unknown := by
    intro presented reason left
    split
    · by_cases chosen : token = presented
      · rw [chosen, Function.update_self]
        exact left
      · rw [Function.update_of_ne chosen]
        exact known
    · exact known
  cases call with
  | signLoginTokens userIndex => exact known
  | refresh presented =>
    cases presented with
    | none => exact known
    | some presented => exact ended presented (.rotated now) (by simp)
  | revokeRefreshToken presented =>
    cases presented with
    | none => exact known
    | some presented => exact ended presented (.revoked now) (by simp)

theorem activate_self (status : Text → Status) (token : Text) :
    activate status (some token) token = .active :=
  Function.update_self _ _ _

theorem activate_of_ne {given : Option Text} {token : Text} (other : given ≠ some token) :
    activate status given token = status token := by
  cases given with
  | none => rfl
  | some given => exact Function.update_of_ne (fun same => other (congrArg some same.symm)) _ _

theorem TimedCall.eq_of_presents {timed : TimedCall} {token token' : Text}
    (presented : timed.presents token = true) (presented' : timed.presents token' = true) :
    token = token' := by
  obtain ⟨call, now⟩ := timed
  cases call with
  | signLoginTokens userIndex => cases presented
  | refresh other =>
    cases other with
    | none => cases presented
    | some other => exact (eq_of_beq presented).symm.trans (eq_of_beq presented')
  | revokeRefreshToken other =>
    cases other with
    | none => cases presented
    | some other => exact (eq_of_beq presented).symm.trans (eq_of_beq presented')

/-- A call that presents a token and returns one is a refresh of the token presented. -/
theorem TimedCall.refreshes_of_issued {timed : TimedCall} {parent token : Text}
    (presented : timed.presents parent = true)
    (gave : issued (timed, (perform environment sessions timed).1) = some token) :
    timed.call = .refresh (some parent) := by
  obtain ⟨call, now⟩ := timed
  cases call with
  | signLoginTokens userIndex => cases presented
  | revokeRefreshToken other => cases gave
  | refresh other =>
    cases other with
    | none => cases presented
    | some other => rw [← eq_of_beq presented]

section
variable {source : Text} {descends : Text → Prop} {number : ℕ}

/-- A call of the first run that presents a token of the descent adds to the descent what
it returned. -/
theorem Apart.first_only
    (apart : Apart environment source descends status status' sessions sessions')
    (later : sessions.drawn ≤ number) (later' : sessions'.drawn ≤ number) {timed : TimedCall}
    {parent : Text} (descended : descends parent) (presented : timed.presents parent = true) :
    Apart environment source
      (fun token => descends token ∨
        issued (timed, (performNumbered environment sessions (timed, number)).1) = some token)
      (activate (retire status timed)
        (issued (timed, (performNumbered environment sessions (timed, number)).1)))
      status' (performNumbered environment sessions (timed, number)).2 sessions' where
  first := (apart.first.draw later).performed timed
  second := apart.second
  self := .inl apart.self
  agrees token outside := by
    rw [not_or] at outside
    have other : timed.presents token = false := by
      by_contra same
      rw [Bool.not_eq_false] at same
      exact outside.1 (TimedCall.eq_of_presents presented same ▸ descended)
    rw [activate_of_ne outside.2, retire_of_not_presents other]
    exact apart.agrees token outside.1
  absent token inside differs := by
    by_cases given :
        issued (timed, (performNumbered environment sessions (timed, number)).1) = some token
    · obtain ⟨owner, genuine⟩ := (apart.first.draw later).issued_genuine given
      refine ⟨?_, apart.second.unknown_of_genuine later' genuine⟩
      rw [given, activate_self]
      simp
    · obtain ⟨known, unknown⟩ := apart.absent token (inside.resolve_right given) differs
      refine ⟨?_, unknown⟩
      rw [activate_of_ne given]
      exact retire_ne_unknown known timed

/-- A call that presents no token of the descent returns the same in both runs. -/
theorem Apart.issued_eq
    (apart : Apart environment source descends status status' sessions sessions')
    (later : sessions.drawn ≤ number) (later' : sessions'.drawn ≤ number) {timed : TimedCall}
    (foreign : ∀ parent, descends parent → timed.presents parent = false) :
    issued (timed, (performNumbered environment sessions (timed, number)).1) =
      issued (timed, (performNumbered environment sessions' (timed, number)).1) := by
  obtain ⟨call, now⟩ := timed
  cases call with
  | signLoginTokens userIndex =>
    exact congrArg returned (signLoginTokens_fst_eq environment userIndex now rfl)
  | revokeRefreshToken presented => rfl
  | refresh presented =>
    cases presented with
    | none => rfl
    | some presented =>
      have outside : ¬ descends presented := by
        intro descended
        have differs := foreign presented descended
        simp [TimedCall.presents] at differs
      exact (apart.first.draw later).returned_refresh_eq (apart.second.draw later')
        (apart.agrees presented outside) rfl now

/-- A call that presents no token of the descent keeps the two runs apart by it. -/
theorem Apart.both
    (apart : Apart environment source descends status status' sessions sessions')
    (later : sessions.drawn ≤ number) (later' : sessions'.drawn ≤ number) {timed : TimedCall}
    (foreign : ∀ parent, descends parent → timed.presents parent = false) :
    Apart environment source descends
      (activate (retire status timed)
        (issued (timed, (performNumbered environment sessions (timed, number)).1)))
      (activate (retire status' timed)
        (issued (timed, (performNumbered environment sessions' (timed, number)).1)))
      (performNumbered environment sessions (timed, number)).2
      (performNumbered environment sessions' (timed, number)).2 where
  first := (apart.first.draw later).performed timed
  second := (apart.second.draw later').performed timed
  self := apart.self
  agrees token outside := by
    rw [apart.issued_eq later later' foreign]
    by_cases given :
        issued (timed, (performNumbered environment sessions' (timed, number)).1) = some token
    · rw [given, activate_self, activate_self]
    · rw [activate_of_ne given, activate_of_ne given]
      exact retire_congr (apart.agrees token outside) timed
  absent token inside differs := by
    obtain ⟨known, unknown⟩ := apart.absent token inside differs
    have other := foreign token inside
    -- what the call returned is new, and this token was there before
    have given :
        issued (timed, (performNumbered environment sessions (timed, number)).1) ≠
          some token := by
      intro given
      obtain ⟨owner, genuine⟩ := (apart.first.draw later).issued_genuine given
      exact known (apart.first.unknown_of_genuine later genuine)
    have given' := apart.issued_eq later later' foreign ▸ given
    rw [activate_of_ne given, activate_of_ne given', retire_of_not_presents other,
      retire_of_not_presents other]
    exact ⟨known, unknown⟩

/-- A call that presents a token of the descent other than its source does nothing in the
second run. -/
theorem Apart.second_idle
    (apart : Apart environment source descends status status' sessions sessions')
    (later' : sessions'.drawn ≤ number) {timed : TimedCall} {parent : Text}
    (descended : descends parent) (differs : parent ≠ source)
    (presented : timed.presents parent = true) :
    (performNumbered environment sessions' (timed, number)).2 =
      { sessions' with drawn := number } := by
  have unknown := (apart.absent parent descended differs).2
  have tracks := apart.second.draw later'
  obtain ⟨call, now⟩ := timed
  cases call with
  | signLoginTokens userIndex => cases presented
  | refresh other =>
    cases other with
    | none => cases presented
    | some other =>
      rw [← eq_of_beq presented] at unknown
      exact (tracks.refresh_unknown unknown now).2
  | revokeRefreshToken other =>
    cases other with
    | none => cases presented
    | some other =>
      rw [← eq_of_beq presented] at unknown
      exact revokeRefreshToken_of_no_row environment now (tracks.no_row_of_unknown unknown)

/-- Drawing an identifier in the second run keeps the two apart. -/
theorem Apart.draw_second
    (apart : Apart environment source descends status status' sessions sessions')
    (later' : sessions'.drawn ≤ number) :
    Apart environment source descends status status' sessions
      { sessions' with drawn := number } :=
  { apart with second := apart.second.draw later' }

/-- Two runs of one sequence, the second without the calls that present a token, stay apart
by the descent of the token, and the descent is what the first run obtained from it. -/
theorem Apart.run (calls : List TimedCall) (past : List (Numbered × Outcome))
    (apart : Apart environment source descends status status' sessions sessions')
    (later : sessions.drawn ≤ number) (later' : sessions'.drawn ≤ number)
    (obtained : ∀ token, descends token → token = source ∨ ObtainedFrom past source token) :
    ∃ descends status status',
      Apart environment source descends status status'
        (final (performNumbered environment) sessions (calls.zipIdx number))
        (final (performNumbered environment) sessions'
          (withoutToken source (calls.zipIdx number))) ∧
      ∀ token, descends token → token = source ∨
        ObtainedFrom (past ++ trace (performNumbered environment) sessions (calls.zipIdx number))
          source token := by
  induction calls generalizing descends status status' sessions sessions' past number with
  | nil =>
    refine ⟨descends, status, status', apart, ?_⟩
    simpa [trace] using obtained
  | cons timed calls ih =>
    rw [List.zipIdx_cons, trace, final, List.append_cons]
    have drew := drawn_perform_le environment { sessions with drawn := number } timed
    have drew' := drawn_perform_le environment { sessions' with drawn := number } timed
    -- what the first run obtained before this call it still has obtained after it
    have kept : ∀ token, descends token → token = source ∨
        ObtainedFrom (past ++ [((timed, number),
          (performNumbered environment sessions (timed, number)).1)]) source token := by
      intro token descended
      exact (obtained token descended).imp_right fun earlier =>
        earlier.mono (List.subset_append_left _ _)
    by_cases presented : ∃ parent, descends parent ∧ timed.presents parent = true
    · obtain ⟨parent, descended, presents⟩ := presented
      have more : ∀ token, (descends token ∨
          issued (timed, (performNumbered environment sessions (timed, number)).1) =
            some token) → token = source ∨
          ObtainedFrom (past ++ [((timed, number),
            (performNumbered environment sessions (timed, number)).1)]) source token := by
        rintro token (descended' | given)
        · exact kept token descended'
        · right
          have refreshes := TimedCall.refreshes_of_issued presents given
          have last := List.mem_append_right past (List.mem_singleton_self
            ((timed, number), (performNumbered environment sessions (timed, number)).1))
          rcases kept parent descended with rfl | earlier
          · exact .directly last refreshes given
          · exact .further earlier last refreshes given
      have next := apart.first_only later later' descended presents
      by_cases same : parent = source
      · have removed : withoutToken source ((timed, number) :: calls.zipIdx (number + 1)) =
            withoutToken source (calls.zipIdx (number + 1)) := by
          rw [withoutToken, List.filter_cons_of_neg (by simp [← same, presents]), ← withoutToken]
        rw [removed]
        exact ih _ next drew (later'.trans (Nat.le_succ _)) more
      · have left : withoutToken source ((timed, number) :: calls.zipIdx (number + 1)) =
            (timed, number) :: withoutToken source (calls.zipIdx (number + 1)) := by
          have foreign : timed.presents source = false := by
            by_contra also
            rw [Bool.not_eq_false] at also
            exact same (TimedCall.eq_of_presents presents also)
          rw [withoutToken, List.filter_cons_of_pos (by simp [foreign]), ← withoutToken]
        rw [left, final, apart.second_idle later' descended same presents]
        exact ih _ (next.draw_second later') drew (Nat.le_succ _) more
    · have foreign : ∀ parent, descends parent → timed.presents parent = false := by
        intro parent descended
        by_contra also
        rw [Bool.not_eq_false] at also
        exact presented ⟨parent, descended, also⟩
      have left : withoutToken source ((timed, number) :: calls.zipIdx (number + 1)) =
          (timed, number) :: withoutToken source (calls.zipIdx (number + 1)) := by
        rw [withoutToken, List.filter_cons_of_pos (by simp [foreign source apart.self]),
          ← withoutToken]
      rw [left, final]
      exact ih _ (apart.both later later' foreign) drew drew' kept

end

end Auth

end OpticsHub
