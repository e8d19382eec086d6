import OpticsHub.Global.TamperEvidence
import OpticsHub.Script.RoundTrip

/-!
# A signed payload on the wire

The signer computes the digest over the values it holds, and the verifier over what has come
through JSON. Both see one canonical text: the normalization drops undefined members, applies
`toJSON` and sorts the keys, and to its result as to the payload itself only its form as JSON
counts. The envelope is set aside on both sides before that, whatever fields of its names the
payload had. So the signature is the one the verifier computes, and what is left of the checks is
the time.
-/
namespace OpticsHub

open Script Script.Value Script.Members

namespace Hash

/-! ## The canonical text of a value and of its form as JSON -/

theorem isDefined_normalize (value : Value) : (normalize value).isDefined = value.isDefined := by
  cases value with
  | date iso => cases iso <;> rfl
  | _ => rfl

theorem isDefined_asJson (value : Value) : (asJson value).isDefined = true := by
  cases value with
  | number value => cases value <;> rfl
  | date iso => cases iso <;> rfl
  | _ => rfl

/-- The members that are not undefined are normalized in their places. -/
theorem normalizeMembers_eq_defined (members : Members Value) :
    normalizeMembers members = mapValues normalize (definedMembers members) := by
  induction members with
  | nil => rfl
  | cons entry rest ih =>
    obtain ⟨key, value⟩ := entry
    rw [definedMembers_cons]
    cases value with
    | undefined => exact ih
    | _ => exact congrArg _ ih

/-- An object is normalized to its defined members in the order of their keys. -/
theorem normalize_object {members : Members Value} (distinct : (keys members).Nodup) :
    normalize (.object members) =
      .object ((sortByKey (mapValues normalize (definedMembers members))).filter
        fun entry => entry.1 != protoKey) := by
  have sorted : (keys (sortByKey (mapValues normalize (definedMembers members)))).Nodup := by
    rw [(keys_perm (sortByKey_perm _)).nodup_iff, keys_mapValues]
    exact nodup_keys_definedMembers distinct
  have created := foldl_assign (sortByKey (mapValues normalize (definedMembers members))) []
    sorted (by simp [keys])
  rw [normalize, normalizeMembers_eq_defined, created, List.nil_append]

theorem definedMembers_eq_self {members : Members Value}
    (defined : ∀ entry ∈ members, entry.2.isDefined = true) : definedMembers members = members :=
  List.filter_eq_self.mpr defined

theorem definedMembers_mapValues_asJson (members : Members Value) :
    definedMembers (mapValues asJson members) = mapValues asJson members :=
  definedMembers_eq_self (List.forall_mem_map.mpr fun entry _ => isDefined_asJson entry.2)

/-- It makes no difference whether the form as JSON is taken before or after normalization. -/
theorem asJson_normalize {value : Value} (formed : value.WellFormed) :
    asJson (normalize value) = normalize (asJson value) := by
  induction value with
  | undefined | null | boolean _ | string _ => rfl
  | number value => cases value <;> rfl
  | date iso => cases iso <;> rfl
  | array elements ih =>
    rw [wellFormed_array] at formed
    rw [asJson_array, normalize, normalize, asJson_array, normalizeElements_eq,
      normalizeElements_eq, List.map_map, List.map_map]
    exact congrArg Value.array
      (List.map_congr_left fun element inside => ih element inside (formed element inside))
  | object members ih =>
    rw [wellFormed_object] at formed
    have distinct := nodup_keys_definedMembers formed.1
    have renewed : (keys (mapValues asJson (definedMembers members))).Nodup := by
      rwa [keys_mapValues]
    have inner : mapValues asJson (mapValues normalize (definedMembers members)) =
        mapValues normalize (mapValues asJson (definedMembers members)) := by
      rw [mapValues_mapValues, mapValues_mapValues]
      refine mapValues_congr fun entry inside => ?_
      have member := List.mem_of_mem_filter inside
      exact ih entry member (formed.2 entry member)
    have defined : ∀ entry ∈ (sortByKey (mapValues normalize (definedMembers members))).filter
        (fun entry => entry.1 != protoKey), entry.2.isDefined = true := by
      intro entry inside
      have sorted := (sortByKey_perm _).mem_iff.mp (List.mem_of_mem_filter inside)
      obtain ⟨original, member, rfl⟩ := List.mem_map.mp sorted
      rw [isDefined_normalize]
      exact (List.mem_filter.mp member).2
    rw [normalize_object formed.1, asJson_object, asJson_object, normalize_object renewed,
      definedMembers_eq_self defined, definedMembers_mapValues_asJson, ← inner,
      sortByKey_mapValues asJson]
    exact congrArg Value.object (filter_mapValues asJson (fun key => key != protoKey) _).symm

/-- The canonical text does not tell a value from its form as JSON. -/
theorem canonicalize_asJson {value : Value} (defined : value.isDefined = true)
    (formed : value.WellFormed) : canonicalize (asJson value) = canonicalize value := by
  have present : (normalize value).isDefined = true := (isDefined_normalize value).trans defined
  rw [canonicalize, canonicalize, ← asJson_normalize formed, stringify_asJson present]

/-- Nor does it tell in which order the members of a JSON value come. -/
theorem normalize_arranged {value : Value} (json : value.isJson = true) :
    normalize (arranged value) = normalize value := by
  rw [normalize_eq_sorted (arranged_isJson json), normalize_eq_sorted json, arranged,
    withoutProto, withoutProto, sorted, sorted]
  rw [rebuild_rebuild keyWise_enumerate,
    rebuild_rebuild (keyWise_filter fun key => key != protoKey),
    rebuild_rebuild ((keyWise_filter fun key => key != protoKey).comp keyWise_enumerate)]
  refine rebuild_congr (fun members distinct => ?_) json
  have moved := (enumerate_perm members).filter fun entry => entry.1 != protoKey
  refine sortByKey_eq_of_perm ?_ moved
  exact ((keys_perm (enumerate_perm members)).nodup_iff.mpr distinct).sublist
    (List.filter_sublist.map Prod.fst)

/-- The order of the members of an object does not change what it is normalized to. -/
theorem normalize_perm {members members' : Members Value} (distinct : (keys members).Nodup)
    (moved : members.Perm members') :
    normalize (.object members) = normalize (.object members') := by
  have distinct' := (keys_perm moved).nodup_iff.mp distinct
  have renewed : (keys (mapValues normalize (definedMembers members))).Nodup := by
    rw [keys_mapValues]
    exact nodup_keys_definedMembers distinct
  have same : (mapValues normalize (definedMembers members)).Perm
      (mapValues normalize (definedMembers members')) := (moved.filter _).map _
  rw [normalize_object distinct, normalize_object distinct', sortByKey_eq_of_perm renewed same]

/-! ## The envelope set aside -/

theorem foldl_erase (fields : List Text) (members : Members Value) :
    fields.foldl Members.erase members = members.filter fun entry => !fields.contains entry.1 := by
  induction fields generalizing members with
  | nil => simp
  | cons field rest ih =>
    rw [List.foldl_cons, ih, Members.erase, List.filter_filter]
    refine List.filter_congr fun entry _ => ?_
    rw [List.contains_cons, Bool.not_or, Bool.and_comm, bne]

/-- The members that are not of the envelope. -/
def bodyMembers (members : Members Value) : Members Value :=
  members.filter fun entry => !envelopeFields.contains entry.1

theorem stripEnvelope_object (members : Members Value) :
    stripEnvelope (.object members) = .object (bodyMembers (enumerate members)) := by
  rw [stripEnvelope, foldl_erase, bodyMembers]

/-- A field of the envelope leaves the body as it was, also where it takes the place of a
member. -/
theorem bodyMembers_define {field : Text} (inside : field ∈ envelopeFields)
    (members : Members Value) (value : Value) :
    bodyMembers (define members field value) = bodyMembers members := by
  have dropped : (!envelopeFields.contains field) = false := by
    rw [List.contains_iff_mem.mpr inside, Bool.not_true]
  unfold bodyMembers
  by_cases present : field ∈ keys members
  · rw [define, if_pos present]
    clear present
    induction members with
    | nil => rfl
    | cons entry rest ih =>
      rw [List.map_cons, List.filter_cons, List.filter_cons, ih]
      by_cases same : entry.1 = field
      · simp [same, inside]
      · simp only [if_neg same]
  · rw [define_of_notMem present, List.filter_append, List.filter_cons, dropped]
    simp

theorem nodup_keys_define {members : Members Value} (distinct : (keys members).Nodup)
    (key : Text) (value : Value) : (keys (define members key value)).Nodup := by
  by_cases present : key ∈ keys members
  · have same : keys (define members key value) = keys members := by
      rw [define, if_pos present, keys, keys, List.map_map]
      refine List.map_congr_left fun entry _ => ?_
      rw [Function.comp_apply]
      split
      · rename_i equal
        exact equal.symm
      · rfl
    rwa [same]
  · rw [define_of_notMem present, keys, List.map_append]
    exact distinct.append (List.nodup_singleton _)
      (by simpa [List.disjoint_singleton] using present)

theorem wellFormed_define {members : Members Value} {value : Value}
    (formed : (Value.object members).WellFormed) (part : value.WellFormed) (key : Text) :
    (Value.object (define members key value)).WellFormed := by
  rw [wellFormed_object] at formed ⊢
  refine ⟨nodup_keys_define formed.1 key value, ?_⟩
  unfold define
  split
  · refine List.forall_mem_map.mpr fun entry inside => ?_
    split
    · exact part
    · exact formed.2 entry inside
  · exact List.forall_mem_append.mpr ⟨formed.2, List.forall_mem_singleton.mpr part⟩

theorem wellFormed_perm {members members' : Members Value} (moved : members.Perm members') :
    (Value.object members).WellFormed ↔ (Value.object members').WellFormed := by
  rw [wellFormed_object, wellFormed_object, (keys_perm moved).nodup_iff]
  refine and_congr_right fun _ => forall_congr' fun entry => ?_
  rw [moved.mem_iff]

theorem wellFormed_bodyMembers {members : Members Value}
    (formed : (Value.object members).WellFormed) :
    (Value.object (bodyMembers members)).WellFormed := by
  rw [wellFormed_object] at formed ⊢
  exact ⟨formed.1.sublist (List.filter_sublist.map Prod.fst),
    fun entry inside => formed.2 entry (List.mem_of_mem_filter inside)⟩

/-! ## The packet that arrives -/

/-- The members of an object after it has been through JSON. -/
def received (members : Members Value) : Members Value :=
  enumerate (mapValues arranged (mapValues asJson (definedMembers members)))

theorem arranged_asJson_object (members : Members Value) :
    arranged (asJson (.object members)) = .object (received members) := by
  rw [asJson_object, arranged, rebuild_object]
  rfl

/-- What is found in a received packet under a key is what was there, as JSON has it. -/
theorem own_received {members : Members Value} (distinct : (keys members).Nodup) {key : Text}
    {value : Value} (found : own members key = some value) (defined : value.isDefined = true) :
    own (received members) key = some (arranged (asJson value)) := by
  have present := nodup_keys_definedMembers distinct
  have renewed : (keys (mapValues arranged (mapValues asJson (definedMembers members)))).Nodup := by
    rwa [keys_mapValues, keys_mapValues]
  have moved := enumerate_perm (mapValues arranged (mapValues asJson (definedMembers members)))
  have inside : own (definedMembers members) key = some value :=
    (own_eq_some_iff present).mpr
      (List.mem_filter.mpr ⟨(own_eq_some_iff distinct).mp found, defined⟩)
  rw [received, ← own_perm renewed moved.symm, own_mapValues, own_mapValues, inside]
  rfl

/-- A packet with the body of a payload has its canonical text when it arrives. -/
theorem canonicalize_received {packet payload : Members Value}
    (formed : (Value.object payload).WellFormed)
    (body : bodyMembers packet = bodyMembers (enumerate payload)) :
    canonicalize (stripEnvelope (.object (received packet))) =
      canonicalize (stripEnvelope (.object payload)) := by
  have kept := wellFormed_bodyMembers ((wellFormed_perm (enumerate_perm payload)).mpr formed)
  have json := isJson_asJson kept
  rw [asJson_object] at json
  have distinct := ((isJson_object _).mp json).1
  -- the received body, up to the order of its members
  have selected : bodyMembers (mapValues arranged (mapValues asJson (definedMembers packet))) =
      mapValues arranged (mapValues asJson (definedMembers (bodyMembers (enumerate payload)))) := by
    have swap : bodyMembers (definedMembers packet) = definedMembers (bodyMembers packet) :=
      List.filter_comm _ _ packet
    rw [← body, ← swap, bodyMembers, bodyMembers,
      filter_mapValues arranged fun key => !envelopeFields.contains key,
      filter_mapValues asJson fun key => !envelopeFields.contains key]
  have moved : (bodyMembers (enumerate (received packet))).Perm (mapValues arranged
      (mapValues asJson (definedMembers (bodyMembers (enumerate payload))))) := by
    rw [← selected]
    exact ((enumerate_perm _).trans (enumerate_perm _)).filter _
  have renewed : (keys (mapValues arranged
      (mapValues asJson (definedMembers (bodyMembers (enumerate payload)))))).Nodup := by
    rwa [keys_mapValues]
  have same : normalize (.object (bodyMembers (enumerate (received packet)))) =
      normalize (asJson (.object (bodyMembers (enumerate payload)))) := by
    calc normalize (.object (bodyMembers (enumerate (received packet))))
        = normalize (.object (mapValues arranged
            (mapValues asJson (definedMembers (bodyMembers (enumerate payload)))))) :=
          (normalize_perm renewed moved.symm).symm
      _ = normalize (arranged (asJson (.object (bodyMembers (enumerate payload))))) := by
          rw [arranged_asJson_object, received]
          exact normalize_perm renewed (enumerate_perm _).symm
      _ = normalize (asJson (.object (bodyMembers (enumerate payload)))) := by
          rw [normalize_arranged (isJson_asJson kept)]
  rw [stripEnvelope_object, stripEnvelope_object, ← canonicalize_asJson rfl kept, canonicalize,
    canonicalize, same]

section Signing

variable (mac : Mac) (event : Text) (payload : Members Value) {secret : Text}
  (timestamp : Number) (nonce : Text)

/-- With a secret, a payload is copied and the envelope defined on the copy. -/
theorem sign_eq (present : secret ≠ []) :
    sign mac event payload (some secret) timestamp nonce =
      define (define (define (enumerate payload) timestampField (.number timestamp))
        nonceField (.string nonce)) signatureField
          (.string (digest mac event timestamp nonce (.object payload) secret)) := by
  cases secret with
  | nil => exact absurd rfl present
  | cons unit units => rfl

/-- Signing leaves the body as it was. -/
theorem bodyMembers_sign (present : secret ≠ []) :
    bodyMembers (sign mac event payload (some secret) timestamp nonce) =
      bodyMembers (enumerate payload) := by
  rw [sign_eq mac event payload timestamp nonce present,
    bodyMembers_define (by decide), bodyMembers_define (by decide),
    bodyMembers_define (by decide)]

/-- A signed payload carries the envelope it was given. -/
theorem own_sign_envelope (present : secret ≠ []) :
    own (sign mac event payload (some secret) timestamp nonce) signatureField =
        some (.string (digest mac event timestamp nonce (.object payload) secret)) ∧
      own (sign mac event payload (some secret) timestamp nonce) timestampField =
        some (.number timestamp) ∧
      own (sign mac event payload (some secret) timestamp nonce) nonceField =
        some (.string nonce) := by
  rw [sign_eq mac event payload timestamp nonce present]
  refine ⟨own_define _ _ _, ?_, ?_⟩
  · rw [own_define_ne _ (by decide), own_define_ne _ (by decide), own_define]
  · rw [own_define_ne _ (by decide), own_define]

theorem wellFormed_sign (formed : (Value.object payload).WellFormed)
    (double : (Value.number timestamp).WellFormed) (present : secret ≠ []) :
    (Value.object (sign mac event payload (some secret) timestamp nonce)).WellFormed := by
  rw [sign_eq mac event payload timestamp nonce present]
  have copied := (wellFormed_perm (enumerate_perm payload)).mpr formed
  have text : ∀ text, (Value.string text).WellFormed := fun _ => trivial
  exact wellFormed_define (wellFormed_define (wellFormed_define copied double _) (text _) _)
    (text _) _

end Signing

/-! ## The round trip -/

/-- What arrives of a value that is sent as JSON. -/
def wire (value : Value) : Option Value := (stringify value).bind Text.parseJson

/-- A received packet carries the envelope it was signed with. -/
theorem readEnvelope_received {mac : Mac} (nonempty : ∀ secret material, mac secret material ≠ [])
    (event : Text) {payload : Members Value} (formed : (Value.object payload).WellFormed)
    {secret : Text} (present : secret ≠ []) {timestamp : Decimal}
    (double : (Value.number (.finite timestamp)).WellFormed) {nonce : Text} (some : nonce ≠ []) :
    readEnvelope (received (sign mac event payload (Option.some secret) (.finite timestamp) nonce)) =
      .ok ⟨digest mac event (.finite timestamp) nonce (.object payload) secret, timestamp,
        nonce⟩ := by
  have distinct := ((wellFormed_object _).mp
    (wellFormed_sign mac event payload (.finite timestamp) nonce formed double present)).1
  obtain ⟨signature, stamp, mark⟩ :=
    own_sign_envelope mac event payload (.finite timestamp) nonce present
  refine readEnvelope_eq_ok_iff.mpr ⟨own_received distinct signature rfl, ?_, ?_,
    own_received distinct stamp rfl, own_received distinct mark rfl, some⟩
  · rw [digest, Ne, hexText_eq_nil]
    exact nonempty _ _
  · exact List.all_eq_true.mpr (hexText_isHexDigit _)

/-- A signature that has been through JSON is the one the verifier computes. -/
theorem signed_received {mac : Mac} (nonempty : ∀ secret material, mac secret material ≠ [])
    (event : Text) {payload : Members Value} (formed : (Value.object payload).WellFormed)
    {secret : Text} (present : secret ≠ []) (timestamp : Decimal) (nonce : Text) :
    signed mac event
      (received (sign mac event payload (some secret) (.finite timestamp) nonce)) secret
      ⟨digest mac event (.finite timestamp) nonce (.object payload) secret, timestamp, nonce⟩ =
        true := by
  have body := bodyMembers_sign mac event payload (.finite timestamp) nonce present
  have same : signingMaterial event (.finite timestamp) nonce
      (.object (received (sign mac event payload (some secret) (.finite timestamp) nonce))) =
        signingMaterial event (.finite timestamp) nonce (.object payload) := by
    rw [signingMaterial, signingMaterial, canonicalize_received formed body]
  unfold signed digest
  rw [equalsInConstantTime_hexText, same]
  exact ⟨rfl, nonempty _ _⟩

/-- A payload that is signed, sent as JSON and verified with the same secret for the same event
is accepted while the clock is within the allowed skew of its timestamp. -/
theorem verify_wire_sign {mac : Mac} (nonempty : ∀ secret material, mac secret material ≠ [])
    (event : Text) {payload : Members Value} (formed : (Value.object payload).WellFormed)
    {secret : Text} (present : secret ≠ []) {timestamp : Decimal}
    (double : (Value.number (.finite timestamp)).WellFormed) {nonce : Text} (some : nonce ≠ [])
    (options : VerifyOptions)
    (timely : |options.now - timestamp.toRat| ≤ options.maxClockSkewMs) :
    (wire (.object (sign mac event payload (Option.some secret) (.finite timestamp) nonce))).map
        (fun packet => (verify mac event packet (Option.some secret) options none).1) =
      Option.some .ok := by
  have parts := wellFormed_sign mac event payload (.finite timestamp) nonce formed double present
  have fresh : ¬ options.stale timestamp := fun stale => not_lt.mpr timely stale.2
  have read := readEnvelope_received nonempty event formed present double some
  have valid := signed_received nonempty event formed present timestamp nonce
  rw [wire, parseJson_stringify rfl parts, arranged_asJson_object, Option.map_some,
    verify_object mac event _ present, read]
  dsimp only
  rw [if_pos valid, judge, if_neg fresh]

theorem wellFormed_natCast {n : ℕ} (positive : 0 < n) (small : n < 2 ^ 52) :
    (Value.number (.finite (Decimal.ofInt n))).WellFormed := by
  rw [WellFormed, Decimal.toRat_ofInt, Int.cast_natCast]
  exact Number.ofRat_natCast positive (small.trans (by decide))

/-- A payload with a field of the envelope, members and elements without a value, numbers that
JSON does not have and dates. -/
def liveMembers : Members Value :=
  [("status", .string "running"), ("_sig", .string "stale"), ("absent", .undefined),
    ("7", .array [.undefined, .number .nan, .number (.finite (Decimal.ofInt (3 : ℕ)))]),
    ("startedAt", .date (some "2025-08-24T00:00:00.000Z")), ("endedAt", .date none),
    ("nested", .object [("z", .number (.infinity true)), ("a", .undefined), ("10", .null),
      ("2", .boolean false)])]

theorem wellFormed_liveMembers : (Value.object liveMembers).WellFormed := by
  have three : (Value.number (.finite (Decimal.ofInt (3 : ℕ)))).WellFormed :=
    wellFormed_natCast (by decide) (by decide)
  have outer : (keys liveMembers).Nodup := by decide
  have inner : (keys [(Text.ofString "z", Value.number (.infinity true)), ("a", .undefined),
    ("10", .null), ("2", .boolean false)]).Nodup := by decide
  refine (wellFormed_object _).mpr ⟨outer, ?_⟩
  simp only [liveMembers, List.forall_mem_cons, wellFormed_object, wellFormed_array, inner, three]
  simp [WellFormed]

/-- Four minutes after it was signed, the payload is still accepted. -/
theorem verify_wire_sign_liveMembers :
    (wire (.object (sign fixedMac "service-status" liveMembers (some fixedSecret)
        (.finite (Decimal.ofInt (1756000000000 : ℕ))) "fixednonce"))).map
        (fun packet => (verify fixedMac "service-status" packet (some fixedSecret)
          { now := 1756000240000 } none).1) = some .ok := by
  have timely : |(1756000240000 : ℚ) - (Decimal.ofInt (1756000000000 : ℕ)).toRat| ≤
      (defaultMaxClockSkewMs : ℚ) := by
    rw [Decimal.toRat_ofInt, defaultMaxClockSkewMs]
    norm_num [abs_le]
  exact verify_wire_sign fixedMac_ne_nil "service-status" wellFormed_liveMembers (by decide)
    (wellFormed_natCast (by decide) (by decide)) (by decide) { now := 1756000240000 } timely

end Hash

end OpticsHub
