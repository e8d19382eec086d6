import OpticsHub.Script.Json
import Mathlib.Algebra.Order.Floor.Ring
import Mathlib.Data.Rat.Floor

/-!
# Login tokens, purpose tokens and the refresh table

One secret signs four kinds of token. An access token and a refresh token carry
the user's index in their body; a purpose token carries its subject as text and
whatever claims its caller adds. The refresh tokens handed out are rows of a
table, and a row leaves use by getting a time of expiry: rotation and logout
write the same column. A refresh decodes the token presented, without checking
its signature or its expiry, and decides from the rows.

What lies outside the repository is an environment: the configuration, the
library that signs and decodes tokens, and the source of random identifiers. A
signed payload is read back member by member, and identifiers never repeat. The
clock is in milliseconds, and one call reads it once. A filter of the database
client accepts an absent value as no restriction at all, an integer in range as
equality, and refuses any other plain value; what it makes of an object is again
part of the environment. Text columns compare unit by unit.
-/
namespace OpticsHub

open Script

namespace Auth

inductive TokenPurpose where
  | access
  | refresh
  | terminalSsh
  | verifyRegisterTotp
  deriving DecidableEq, Repr

/-- The purpose as the payload spells it. -/
def TokenPurpose.text : TokenPurpose → Text
  | .access => "access"
  | .refresh => "refresh"
  | .terminalSsh => "terminal_ssh"
  | .verifyRegisterTotp => "verify_register_totp"

def tokenTtlConfig : TokenPurpose → Text
  | .access => "SECURITY_ACCESS_TTL"
  | .refresh => "SECURITY_REFRESH_TTL"
  | .terminalSsh => "SECURITY_TERMINAL_SSH_TTL"
  | .verifyRegisterTotp => "SECURITY_VERIFY_REGISTER_TOTP_TTL"

def legacyTokenTtlConfig : TokenPurpose → Option Text
  | .access => some "SECURITY_ACCESS_EXPIRE_TIME"
  | .refresh => some "SECURITY_REFRESH_EXPIRE_TIME"
  | _ => none

def defaultTokenTtl : TokenPurpose → Option Text
  | .terminalSsh => some "2m"
  | .verifyRegisterTotp => some "5m"
  | _ => none

/-- The time for which a token just rotated is still accepted. -/
def refreshRotationGraceMs : ℤ := 10000

/-- A claim of a decoded token; a token that does not decode to an object has none. -/
def claim (decoded : Option Value) (key : Text) : Option Value :=
  match decoded with
  | some (.object members) => Members.own members key
  | _ => none

/-- What the tokens need from outside the repository. -/
structure Environment where
  /-- `configService.get`. -/
  config : Text → Option Text
  /-- The seconds a lifetime text denotes, if it denotes any. -/
  seconds : Text → Option ℚ
  /-- The signed compact text of a payload. -/
  encode : Members Value → Text
  /-- `jwtService.decode`: the payload, whatever its signature and expiry. -/
  decode : Text → Option Value
  /-- The index an object in a filter selects, if the database client accepts it. -/
  objectFilter : Members Value → Option (Int32 → Bool)
  /-- The identifiers in the order they are drawn. -/
  randomUUID : ℕ → Text
  encode_ne_nil : ∀ payload : JsonObject, encode payload.members ≠ []
  claim_encode : ∀ (payload : JsonObject) (key : Text),
    claim (decode (encode payload.members)) key =
      (Members.own payload.members key).map arranged
  randomUUID_injective : Function.Injective randomUUID

/-- An integer as a claim. -/
def indexValue (index : Int32) : Value := .number (.finite (Decimal.ofInt index.toInt))

/-- The index a claim denotes: an integer in the range of the column. -/
def valueIndex : Value → Option Int32
  | .number (.finite decimal) =>
    match decimal.toInt? with
    | some n => if -2 ^ 31 ≤ n ∧ n < 2 ^ 31 then some (Int32.ofInt n) else none
    | none => none
  | _ => none

theorem valueIndex_indexValue (index : Int32) : valueIndex (indexValue index) = some index := by
  have range : -2 ^ 31 ≤ index.toInt ∧ index.toInt < 2 ^ 31 :=
    ⟨index.le_toInt, index.toInt_lt⟩
  simp only [valueIndex, indexValue, Decimal.toInt?_ofInt, if_pos range, Int32.ofInt_toInt]

/-- The filter a claim makes when it stands for an index column: none at all when it
is undefined, and no query when the client refuses the value. -/
def indexFilter (environment : Environment) : Option Value → Option (Int32 → Bool)
  | none | some .undefined => some fun _ => true
  | some (.object members) => environment.objectFilter members
  | some value => (valueIndex value).map fun index candidate => candidate == index

theorem indexFilter_indexValue (environment : Environment) (index : Int32) :
    indexFilter environment (some (indexValue index)) =
      some fun candidate => candidate == index := by
  rw [indexValue, indexFilter, ← indexValue, valueIndex_indexValue]
  · rfl
  · simp
  · simp

/-! ## Signing -/

/-- The lifetime configured for a purpose. Without one, a login token needs the
legacy setting, and the others have a default. -/
def getTokenTtl (environment : Environment) (purpose : TokenPurpose) : Option Text :=
  match environment.config (tokenTtlConfig purpose) with
  | some (unit :: units) => some (unit :: units)
  | configured =>
    match legacyTokenTtlConfig purpose with
    | some legacyConfigKey => environment.config legacyConfigKey
    | none =>
      match defaultTokenTtl purpose with
      | some defaultTtl => some defaultTtl
      | none => configured

def purposeClaim : Text := "purpose"
def userIndexClaim : Text := "userIndex"
def issuedAtClaim : Text := "iat"
def expiresAtClaim : Text := "exp"
def notBeforeClaim : Text := "nbf"
def subjectClaim : Text := "sub"
def jwtIdClaim : Text := "jti"

/-- Whether a registered time claim is absent or a number. -/
def timeClaimValid (payload : Members Value) (key : Text) : Bool :=
  match Members.own payload key with
  | none | some .undefined | some (.number _) => true
  | _ => false

/-- Whether a claim is absent, so that an option may set it. -/
def unset (payload : Members Value) (key : Text) : Bool :=
  match Members.own payload key with
  | none | some .undefined => true
  | _ => false

/-- The second a token counts its lifetime from: its own claim when that is a number
other than zero, and the clock otherwise. -/
def issuedAt (payload : Members Value) (now : ℤ) : ℚ :=
  match Members.own payload issuedAtClaim with
  | some (.number (.finite decimal)) =>
    if decimal.mantissa = 0 then (now / 1000 : ℤ) else decimal.toRat
  | _ => (now / 1000 : ℤ)

/-- The claim that records the second of issue. -/
def issuedAtValue (payload : Members Value) (now : ℤ) : Value :=
  match Members.own payload issuedAtClaim with
  | some (.number (.finite decimal)) =>
    if decimal.mantissa = 0 then .number (.finite (Decimal.ofInt (now / 1000)))
    else .number (.finite decimal)
  | _ => .number (.finite (Decimal.ofInt (now / 1000)))

structure SignOptions where
  subject : Option Text := none
  jwtid : Option Text := none
  expiresIn : Text

/-- Define a claim for an option that is given. -/
def defineOption (payload : Members Value) (key : Text) : Option Text → Members Value
  | none => payload
  | some text => Members.define payload key (.string text)

/-- The payload that is signed: the one given with its times, subject and identifier.
A payload that already sets what an option sets is refused, and so is a lifetime
that denotes no time. -/
def signedPayload (environment : Environment) (payload : Members Value) (options : SignOptions)
    (now : ℤ) : Option (Members Value) :=
  if timeClaimValid payload issuedAtClaim && timeClaimValid payload notBeforeClaim &&
      unset payload expiresAtClaim && (options.subject.isNone || unset payload subjectClaim) &&
      (options.jwtid.isNone || unset payload jwtIdClaim) then
    (environment.seconds options.expiresIn).map fun lifetime =>
      let expiresAt := .number (.finite (Decimal.ofInt ⌊issuedAt payload now + lifetime⌋))
      let timed := Members.define payload issuedAtClaim (issuedAtValue payload now)
      let limited := Members.define timed expiresAtClaim expiresAt
      let owned := defineOption limited subjectClaim options.subject
      defineOption owned jwtIdClaim options.jwtid
  else none

/-- The payload of a login token. -/
def loginPayload (purpose : TokenPurpose) (userIndex : Int32) : Members Value :=
  [(purposeClaim, .string purpose.text), (userIndexClaim, indexValue userIndex)]

/-- The payload `signPurposeToken` hands to the library: the claims are spread after
the purpose, so a claim of that name replaces it. -/
def purposePayload (purpose : TokenPurpose) (claims : JsonObject) : Members Value :=
  Members.spread [(purposeClaim, .string purpose.text)] claims.members

/-- The payload signed by `signPurposeToken`. -/
def signPurposeToken (environment : Environment) (userIndex : Int32) (purpose : TokenPurpose)
    (claims : JsonObject) (now : ℤ) (jti : Text) : Option (Members Value) :=
  match getTokenTtl environment purpose with
  | none => none
  | some ttl =>
    signedPayload environment (purposePayload purpose claims)
      { subject := some ((Number.finite (Decimal.ofInt userIndex.toInt)).text)
        jwtid := some jti
        expiresIn := ttl } now

/-- The payload of the access token of `signLoginTokens`. -/
def accessPayload (environment : Environment) (userIndex : Int32) (now : ℤ) :
    Option (Members Value) :=
  match getTokenTtl environment .access with
  | none => none
  | some ttl => signedPayload environment (loginPayload .access userIndex) { expiresIn := ttl } now

/-- The payload of the refresh token of `signLoginTokens`. -/
def refreshPayload (environment : Environment) (userIndex : Int32) (now : ℤ) (jti : Text) :
    Option (Members Value) :=
  match getTokenTtl environment .refresh with
  | none => none
  | some ttl =>
    signedPayload environment (loginPayload .refresh userIndex)
      { jwtid := some jti, expiresIn := ttl } now

/-! ## The refresh table -/

/-- A row of `refresh_token`. -/
structure RefreshToken where
  tokenIndex : ℕ
  tokenOwner : Int32
  token : Text
  tokenCreatedAt : ℤ
  tokenExpiredAt : Option ℤ
  deriving DecidableEq

/-- The table, its next index, and how many identifiers have been drawn. -/
structure Sessions where
  refreshToken : List RefreshToken := []
  nextIndex : ℕ := 1
  drawn : ℕ := 0

/-- Why a call throws. -/
inductive AuthError where
  | tokenNotSigned
  | queryRefused
  | ownerRefused
  deriving DecidableEq, Repr

structure TokenPair where
  accessToken : Option Text
  refreshToken : Option Text
  deriving DecidableEq

/-- `{ accessToken: null, refreshToken: null }`. -/
def TokenPair.null : TokenPair := ⟨none, none⟩

/-- Issue an access and a refresh token and record the latter. An identifier is
drawn between the two. -/
def signLoginTokens (environment : Environment) (userIndex : Int32) (now : ℤ)
    (sessions : Sessions) : Except AuthError TokenPair × Sessions :=
  match accessPayload environment userIndex now with
  | none => (.error .tokenNotSigned, sessions)
  | some access =>
    let jti := environment.randomUUID sessions.drawn
    let drawn := { sessions with drawn := sessions.drawn + 1 }
    match refreshPayload environment userIndex now jti with
    | none => (.error .tokenNotSigned, drawn)
    | some refresh =>
      let row : RefreshToken :=
        { tokenIndex := drawn.nextIndex
          tokenOwner := userIndex
          token := environment.encode refresh
          tokenCreatedAt := now
          tokenExpiredAt := none }
      (.ok ⟨some (environment.encode access), some (environment.encode refresh)⟩,
        { drawn with
          refreshToken := drawn.refreshToken ++ [row]
          nextIndex := drawn.nextIndex + 1 })

/-- `signLoginTokens` with an index that was read from a token: the row it records
needs an integer. -/
def signLoginTokensFor (environment : Environment) (userIndex : Option Value) (now : ℤ)
    (sessions : Sessions) : Except AuthError TokenPair × Sessions :=
  match userIndex.bind valueIndex with
  | none => (.error .ownerRefused, sessions)
  | some index => signLoginTokens environment index now sessions

/-- Whether a row is the active one of a token. -/
def RefreshToken.active (owner : Int32 → Bool) (token : Text) (row : RefreshToken) : Bool :=
  owner row.tokenOwner && row.token == token && row.tokenExpiredAt.isNone

/-- Whether a row of a token expired within the grace before `now`. -/
def RefreshToken.recentlyExpired (owner : Int32 → Bool) (token : Text) (now : ℤ)
    (row : RefreshToken) : Bool :=
  owner row.tokenOwner && row.token == token &&
    row.tokenExpiredAt.any fun expiredAt => decide (now - refreshRotationGraceMs ≤ expiredAt)

/-- Set the time of expiry of the rows that a condition selects. -/
def Sessions.expire (sessions : Sessions) (selected : RefreshToken → Bool) (now : ℤ) : Sessions :=
  { sessions with
    refreshToken := sessions.refreshToken.map fun row =>
      if selected row then { row with tokenExpiredAt := some now } else row }

/-- Exchange a refresh token for a new pair. An active row is expired and replaced; a
row that expired a moment ago is taken for the same attempt and gives a new pair
as well. -/
def refresh (environment : Environment) (token : Option Text) (now : ℤ) (sessions : Sessions) :
    Except AuthError TokenPair × Sessions :=
  match token with
  | none | some [] => (.ok .null, sessions)
  | some token =>
    let userIndex := claim (environment.decode token) userIndexClaim
    match userIndex with
    | none | some .undefined => (.ok .null, sessions)
    | some _ =>
      match indexFilter environment userIndex with
      | none => (.error .queryRefused, sessions)
      | some owner =>
        match sessions.refreshToken.find? (RefreshToken.active owner token) with
        | some active =>
          signLoginTokensFor environment userIndex now
            (sessions.expire (fun row => row.tokenIndex == active.tokenIndex) now)
        | none =>
          -- the order by time of expiry picks among rows that are all good enough
          match sessions.refreshToken.find? (RefreshToken.recentlyExpired owner token now) with
          | some _ => signLoginTokensFor environment userIndex now sessions
          | none => (.ok .null, sessions)

/-- Log out: expire the active rows of the token presented. -/
def revokeRefreshToken (environment : Environment) (token : Option Text) (now : ℤ)
    (sessions : Sessions) : Except AuthError Unit × Sessions :=
  match token with
  | none | some [] => (.ok (), sessions)
  | some token =>
    let userIndex := claim (environment.decode token) userIndexClaim
    match userIndex with
    | none | some .undefined => (.ok (), sessions)
    | some _ =>
      match indexFilter environment userIndex with
      | none => (.error .queryRefused, sessions)
      | some owner => (.ok (), sessions.expire (RefreshToken.active owner token) now)

/-- A refresh whose claim makes a filter is decided by the rows. -/
theorem refresh_of_filter {environment : Environment} {token : Text} (nonempty : token ≠ [])
    {userIndex : Value}
    (claimed : claim (environment.decode token) userIndexClaim = some userIndex)
    (defined : userIndex ≠ .undefined) {owner : Int32 → Bool}
    (filtered : indexFilter environment (some userIndex) = some owner) (now : ℤ)
    (sessions : Sessions) :
    refresh environment (some token) now sessions =
      match sessions.refreshToken.find? (RefreshToken.active owner token) with
      | some active =>
        signLoginTokensFor environment (some userIndex) now
          (sessions.expire (fun row => row.tokenIndex == active.tokenIndex) now)
      | none =>
        match sessions.refreshToken.find? (RefreshToken.recentlyExpired owner token now) with
        | some _ => signLoginTokensFor environment (some userIndex) now sessions
        | none => (.ok .null, sessions) := by
  obtain ⟨unit, units, rfl⟩ := List.exists_cons_of_ne_nil nonempty
  unfold refresh
  simp only [claimed]
  cases userIndex with
  | undefined => exact absurd rfl defined
  | _ => simp only [filtered]

/-- Without a row of its text, a token changes nothing and brings no tokens. -/
theorem refresh_of_no_row (environment : Environment) {token : Text} (now : ℤ)
    {sessions : Sessions} (absent : ∀ row ∈ sessions.refreshToken, row.token ≠ token) :
    ∃ result, refresh environment (some token) now sessions = (result, sessions) ∧
      ∀ pair, result = .ok pair → pair = .null := by
  have inactive : ∀ owner,
      sessions.refreshToken.find? (RefreshToken.active owner token) = none := by
    intro owner
    refine List.find?_eq_none.mpr fun row inside chosen => absent row inside ?_
    simp only [RefreshToken.active, Bool.and_eq_true, beq_iff_eq] at chosen
    exact chosen.1.2
  have older : ∀ owner,
      sessions.refreshToken.find? (RefreshToken.recentlyExpired owner token now) = none := by
    intro owner
    refine List.find?_eq_none.mpr fun row inside chosen => absent row inside ?_
    simp only [RefreshToken.recentlyExpired, Bool.and_eq_true, beq_iff_eq] at chosen
    exact chosen.1.2
  cases token with
  | nil => exact ⟨_, rfl, by rintro pair same; cases same; rfl⟩
  | cons unit units =>
    unfold refresh
    dsimp only
    split
    · exact ⟨_, rfl, by rintro pair same; cases same; rfl⟩
    · exact ⟨_, rfl, by rintro pair same; cases same; rfl⟩
    · split
      · exact ⟨_, rfl, by rintro pair same; cases same⟩
      · rw [inactive, older]
        exact ⟨_, rfl, by rintro pair same; cases same; rfl⟩

/-- A logout expires the active rows that its claim selects, or changes nothing. -/
theorem revokeRefreshToken_of_filter {environment : Environment} {token : Text}
    (nonempty : token ≠ []) {userIndex : Value}
    (claimed : claim (environment.decode token) userIndexClaim = some userIndex)
    (defined : userIndex ≠ .undefined) {owner : Int32 → Bool}
    (filtered : indexFilter environment (some userIndex) = some owner) (now : ℤ)
    (sessions : Sessions) :
    revokeRefreshToken environment (some token) now sessions =
      (.ok (), sessions.expire (RefreshToken.active owner token) now) := by
  obtain ⟨unit, units, rfl⟩ := List.exists_cons_of_ne_nil nonempty
  unfold revokeRefreshToken
  simp only [claimed]
  cases userIndex with
  | undefined => exact absurd rfl defined
  | _ => simp only [filtered]

/-- Expiring rows of which there are none changes nothing. -/
theorem Sessions.expire_of_none {sessions : Sessions} {selected : RefreshToken → Bool} {now : ℤ}
    (none : ∀ row ∈ sessions.refreshToken, selected row = false) :
    sessions.expire selected now = sessions := by
  unfold Sessions.expire
  rw [List.map_congr_left (g := id), List.map_id]
  intro row inside
  rw [if_neg (by rw [none row inside]; decide), id]

theorem revokeRefreshToken_of_no_row (environment : Environment) {token : Text} (now : ℤ)
    {sessions : Sessions} (absent : ∀ row ∈ sessions.refreshToken, row.token ≠ token) :
    (revokeRefreshToken environment (some token) now sessions).2 = sessions := by
  have inactive : ∀ owner, sessions.expire (RefreshToken.active owner token) now = sessions := by
    intro owner
    refine Sessions.expire_of_none fun row inside => ?_
    simp [RefreshToken.active, absent row inside]
  cases token with
  | nil => rfl
  | cons unit units =>
    unfold revokeRefreshToken
    dsimp only
    split
    · rfl
    · rfl
    · split
      · rfl
      · exact inactive _

/-! ## What a login token carries -/

/-- The seconds a token of a purpose lives, if that is configured. -/
def lifetime (environment : Environment) (purpose : TokenPurpose) : Option ℚ :=
  (getTokenTtl environment purpose).bind environment.seconds

/-- The second after which a token issued at a time is expired. -/
def expiresAt (environment : Environment) (purpose : TokenPurpose) (now : ℤ) : Option ℤ :=
  (lifetime environment purpose).map fun seconds => ⌊((now / 1000 : ℤ) : ℚ) + seconds⌋

/-- An access token is issued exactly when its lifetime is configured. -/
theorem accessPayload_isSome (environment : Environment) (userIndex : Int32) (now : ℤ) :
    (accessPayload environment userIndex now).isSome =
      (lifetime environment .access).isSome := by
  unfold accessPayload lifetime
  cases getTokenTtl environment .access with
  | none => rfl
  | some ttl => exact Option.isSome_map

/-- The claims of a refresh token. -/
def refreshClaims (userIndex : Int32) (now expiry : ℤ) (jti : Text) : JsonObject where
  members :=
    [(purposeClaim, .string TokenPurpose.refresh.text), (userIndexClaim, indexValue userIndex),
      (issuedAtClaim, .number (.finite (Decimal.ofInt (now / 1000)))),
      (expiresAtClaim, .number (.finite (Decimal.ofInt expiry))), (jwtIdClaim, .string jti)]
  json := by
    rw [Value.isJson_object]
    exact ⟨show [purposeClaim, userIndexClaim, issuedAtClaim, expiresAtClaim, jwtIdClaim].Nodup by
      decide, by simp [indexValue, Value.isJson]⟩

theorem refreshPayload_eq (environment : Environment) (userIndex : Int32) (now : ℤ)
    (jti : Text) :
    refreshPayload environment userIndex now jti =
      (expiresAt environment .refresh now).map fun expiry =>
        (refreshClaims userIndex now expiry jti).members := by
  unfold refreshPayload expiresAt lifetime
  cases getTokenTtl environment .refresh with
  | none => rfl
  | some ttl =>
    rw [Option.bind_some, Option.map_map]
    rfl

/-- A refresh token is issued exactly when its lifetime is configured. -/
theorem refreshPayload_isSome (environment : Environment) (userIndex : Int32) (now : ℤ)
    (jti : Text) :
    (refreshPayload environment userIndex now jti).isSome =
      (lifetime environment .refresh).isSome := by
  rw [refreshPayload_eq, expiresAt, Option.map_map, Option.isSome_map]

/-- A text that was issued as a refresh token of a user with an identifier. -/
def IsRefreshToken (environment : Environment) (owner : Int32) (jti token : Text) : Prop :=
  ∃ now payload, refreshPayload environment owner now jti = some payload ∧
    token = environment.encode payload

/-- The claims by which a refresh token is told apart and looked up. -/
theorem IsRefreshToken.claims {environment : Environment} {owner : Int32} {jti token : Text}
    (issued : IsRefreshToken environment owner jti token) :
    token ≠ [] ∧
    claim (environment.decode token) userIndexClaim = some (indexValue owner) ∧
    claim (environment.decode token) jwtIdClaim = some (.string jti) := by
  obtain ⟨now, payload, minted, rfl⟩ := issued
  rw [refreshPayload_eq] at minted
  obtain ⟨expiry, -, rfl⟩ := Option.map_eq_some_iff.mp minted
  refine ⟨environment.encode_ne_nil _, ?_, ?_⟩
  · rw [environment.claim_encode]
    rfl
  · rw [environment.claim_encode]
    rfl

/-- Tokens with different identifiers are different texts. -/
theorem IsRefreshToken.jti_eq {environment : Environment} {owner owner' : Int32}
    {jti jti' token : Text} (issued : IsRefreshToken environment owner jti token)
    (issued' : IsRefreshToken environment owner' jti' token) : jti = jti' := by
  have same := issued.claims.2.2.symm.trans issued'.claims.2.2
  simpa using same

/-- The filter a refresh token makes selects the rows of its user. -/
theorem IsRefreshToken.filter {environment : Environment} {owner : Int32} {jti token : Text}
    (issued : IsRefreshToken environment owner jti token) :
    indexFilter environment (claim (environment.decode token) userIndexClaim) =
      some fun candidate => candidate == owner := by
  rw [issued.claims.2.1, indexFilter_indexValue]

/-! ## A concrete environment -/

/-- The payload whose JSON text this is, with its members in the order of the text. -/
noncomputable def readPayload (text : Text) : Option Value :=
  open Classical in
  if written : ∃ payload : JsonObject, stringify (.object payload.members) = some text then
    some (arranged (.object written.choose.members))
  else none

theorem readPayload_stringify (payload : JsonObject) {text : Text}
    (written : stringify (.object payload.members) = some text) :
    readPayload text = some (arranged (.object payload.members)) := by
  have exists_payload : ∃ payload : JsonObject,
      stringify (.object payload.members) = some text := ⟨payload, written⟩
  have chosen : write (arranged (.object exists_payload.choose.members)) =
      write (arranged (.object payload.members)) :=
    Option.some.inj (((stringify_eq_write exists_payload.choose.json).symm.trans
      exists_payload.choose_spec).trans (written.symm.trans (stringify_eq_write payload.json)))
  have ends : Ends [] := by simp [Ends, Delimited]
  obtain ⟨trees, -⟩ := write_append_cancel (arranged_isJson exists_payload.choose.json)
    (arranged_isJson payload.json) ends ends (congrArg (· ++ []) chosen)
  rw [readPayload, dif_pos exists_payload, trees]

/-- The claims of a payload in the order of its text. -/
theorem claim_arranged (payload : JsonObject) (key : Text) :
    claim (some (arranged (.object payload.members))) key =
      (Members.own payload.members key).map arranged := by
  have distinct := (Value.isJson_object payload.members).mp payload.json |>.1
  have renewed : (Members.keys (Members.mapValues arranged payload.members)).Nodup := by
    rwa [Members.keys_mapValues]
  have moved := Members.enumerate_perm (Members.mapValues arranged payload.members)
  calc claim (some (arranged (.object payload.members))) key
      = Members.own (Members.enumerate (Members.mapValues arranged payload.members)) key := by
        rw [arranged, Value.rebuild_object]
        rfl
    _ = Members.own (Members.mapValues arranged payload.members) key :=
        Members.own_perm ((Members.keys_perm moved).nodup_iff.mpr renewed) moved key
    _ = (Members.own payload.members key).map arranged := Members.own_mapValues _ _ _

/-- Tokens that are the JSON text of their payload, a quarter of an hour for an access
token and a fortnight for a refresh token. -/
noncomputable def plainEnvironment : Environment where
  config key :=
    if key = tokenTtlConfig .access then some "15m"
    else if key = tokenTtlConfig .refresh then some "14d"
    else none
  seconds text :=
    if text = Text.ofString "15m" then some 900
    else if text = Text.ofString "14d" then some 1209600
    else if text = Text.ofString "2m" then some 120
    else if text = Text.ofString "5m" then some 300
    else none
  encode payload := (stringify (.object payload)).getD []
  decode := readPayload
  objectFilter := fun _ => none
  randomUUID n := Text.ofString "00000000-0000-4000-8000-" ++ decimalText n
  encode_ne_nil payload := by
    rw [stringify_eq_write payload.json, arranged, Value.rebuild_object]
    simp [write]
  claim_encode payload key := by
    have written := stringify_eq_write payload.json
    rw [written, Option.getD_some, readPayload_stringify payload written, claim_arranged]
  randomUUID_injective := fun _ _ same => decimalText_injective (List.append_cancel_left same)

end Auth

end OpticsHub
