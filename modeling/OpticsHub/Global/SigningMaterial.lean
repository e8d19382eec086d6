import OpticsHub.Global.Hash

/-!
# What the signing material determines

The signed text joins the scheme, the event, the timestamp, the nonce and the
canonical body by newlines. The verifier's event and nonce come from outside and
may contain newlines, and only the signer's are known not to. Counting settles
it: the signer's text has exactly four newlines, so a verifier's text equal to it
has none left for its event or its nonce, and the pieces are recovered one after
another. The canonical body then determines the payload up to the order of its
members, once every member named `__proto__` is set aside.
-/
namespace OpticsHub

open Script

namespace Hash

/-- The value without the members named `__proto__`, at any depth. -/
def withoutProto (value : Value) : Value :=
  value.rebuild (List.filter fun entry => entry.1 != protoKey)

theorem normalizeElements_eq (elements : List Value) :
    normalizeElements elements = elements.map normalize := by
  induction elements with
  | nil => rfl
  | cons element rest ih => rw [normalizeElements, ih, List.map_cons]

/-- JSON data has no member to skip. -/
theorem normalizeMembers_eq {members : Members Value}
    (json : ∀ entry ∈ members, entry.2.isJson = true) :
    normalizeMembers members = Members.mapValues normalize members := by
  induction members with
  | nil => rfl
  | cons entry rest ih =>
    rw [List.forall_mem_cons] at json
    obtain ⟨key, value⟩ := entry
    have defined : value ≠ .undefined := by
      rintro rfl
      simp [Value.isJson] at json
    rw [normalizeMembers.eq_def]
    cases value with
    | undefined => exact absurd rfl defined
    | _ => simp only [ih json.2]; rfl

/-- Normalizing JSON data sorts what remains without the members `__proto__`. -/
theorem normalize_eq_sorted {value : Value} (json : value.isJson = true) :
    normalize value = (withoutProto value).sorted := by
  unfold withoutProto Value.sorted
  rw [Value.rebuild_rebuild (Value.keyWise_filter fun key => key != protoKey)]
  induction value with
  | undefined | date _ => simp [Value.isJson] at json
  | null | boolean _ | number _ | string _ => simp only [normalize, Value.rebuild]
  | array elements ih =>
    rw [Value.isJson_array] at json
    rw [normalize, normalizeElements_eq, Value.rebuild_array]
    exact congrArg Value.array
      (List.map_congr_left fun element inside => ih element inside (json element inside))
  | object members ih =>
    rw [Value.isJson_object] at json
    rw [normalize, normalizeMembers_eq json.2, Members.mapValues_congr fun entry inside =>
      ih entry inside (json.2 entry inside), Value.rebuild_object, Function.comp_apply]
    generalize renewed : Members.mapValues _ members = members'
    have distinct : (Members.keys members').Nodup := by
      rw [← renewed, Members.keys_mapValues]
      exact json.1
    have created := Members.foldl_assign (Members.sortByKey members') []
      ((Members.keys_perm (Members.sortByKey_perm _)).nodup_iff.mpr distinct)
      (by simp [Members.keys])
    rw [created, List.nil_append, Members.filter_sortByKey distinct]

theorem isJson_withoutProto {value : Value} (json : value.isJson = true) :
    (withoutProto value).isJson = true :=
  Value.isJson_rebuild (fun _ => List.filter_sublist.subperm) json

theorem isJson_sorted {value : Value} (json : value.isJson = true) :
    value.sorted.isJson = true :=
  Value.isJson_rebuild (fun members => (Members.sortByKey_perm members).subperm) json

/-- Payloads have one canonical text exactly when they are equal JSON values apart
from the members the normalization loses. -/
theorem canonicalize_eq_iff {left right : Value} (json : left.isJson = true)
    (json' : right.isJson = true) :
    canonicalize left = canonicalize right ↔
      Value.Equivalent (withoutProto left) (withoutProto right) := by
  have sorted := isJson_sorted (isJson_withoutProto json)
  have sorted' := isJson_sorted (isJson_withoutProto json')
  unfold canonicalize
  rw [normalize_eq_sorted json, normalize_eq_sorted json']
  constructor
  · intro same
    rw [stringify_eq_write sorted, stringify_eq_write sorted', Option.getD_some,
      Option.getD_some] at same
    have equivalent := equivalent_of_stringify sorted sorted'
      (by rw [stringify_eq_write sorted, stringify_eq_write sorted', same])
    unfold Value.Equivalent at equivalent ⊢
    rwa [Value.sorted_sorted (isJson_withoutProto json),
      Value.sorted_sorted (isJson_withoutProto json')] at equivalent
  · intro equivalent
    unfold Value.Equivalent at equivalent
    rw [equivalent]

theorem newline_notMem_canonicalize {value : Value} (json : value.isJson = true) :
    CodeUnit.newline ∉ canonicalize value := by
  have sorted := isJson_sorted (isJson_withoutProto json)
  unfold canonicalize
  rw [normalize_eq_sorted json, stringify_eq_write sorted, Option.getD_some]
  exact newline_notMem_write (arranged_isJson sorted)

theorem isJson_stripEnvelope (payload : JsonObject) :
    (stripEnvelope (.object payload.members)).isJson = true := by
  have json := payload.json
  rw [Value.isJson_object] at json
  have moved := Members.enumerate_perm payload.members
  have kept : (envelopeFields.foldl Members.erase (Members.enumerate payload.members)).Sublist
      (Members.enumerate payload.members) :=
    List.filter_sublist.trans (List.filter_sublist.trans List.filter_sublist)
  rw [stripEnvelope, Value.isJson_object]
  refine ⟨?_, fun entry inside => json.2 entry (moved.mem_iff.mp (kept.subset inside))⟩
  exact ((Members.keys_perm moved).nodup_iff.mpr json.1).sublist (kept.map Prod.fst)

/-- The newlines of the material are its four separators and those of the event
and the nonce. -/
theorem count_newline_signingMaterial (event : Text) (timestamp : Number) (nonce : Text)
    (payload : JsonObject) :
    (signingMaterial event timestamp nonce (.object payload.members)).count CodeUnit.newline =
      4 + event.count CodeUnit.newline + nonce.count CodeUnit.newline := by
  have scheme : (Text.ofString "v" ++ decimalText signatureSchemeVersion).count
      CodeUnit.newline = 0 := by decide
  have number : timestamp.text.count CodeUnit.newline = 0 :=
    List.count_eq_zero.mpr timestamp.newline_notMem_text
  have body : (canonicalize (stripEnvelope (.object payload.members))).count
      CodeUnit.newline = 0 :=
    List.count_eq_zero.mpr (newline_notMem_canonicalize (isJson_stripEnvelope payload))
  unfold signingMaterial
  rw [List.count_append, scheme]
  simp only [List.count_append, List.count_cons_self, number, body]
  omega

/-- Material equal to that of a signer whose event and nonce are single lines has
the signer's event, timestamp and nonce, and an equal canonical body. -/
theorem signingMaterial_injective {event event' nonce nonce' : Text}
    {timestamp timestamp' : Number} {payload payload' : JsonObject}
    (eventLine : CodeUnit.newline ∉ event) (nonceLine : CodeUnit.newline ∉ nonce)
    (same : signingMaterial event timestamp nonce (.object payload.members) =
      signingMaterial event' timestamp' nonce' (.object payload'.members)) :
    event = event' ∧ timestamp = timestamp' ∧ nonce = nonce' ∧
      canonicalize (stripEnvelope (.object payload.members)) =
        canonicalize (stripEnvelope (.object payload'.members)) := by
  have counts := congrArg (List.count CodeUnit.newline) same
  rw [count_newline_signingMaterial, count_newline_signingMaterial,
    List.count_eq_zero.mpr eventLine, List.count_eq_zero.mpr nonceLine] at counts
  have eventLine' : CodeUnit.newline ∉ event' := List.count_eq_zero.mp (by omega)
  have nonceLine' : CodeUnit.newline ∉ nonce' := List.count_eq_zero.mp (by omega)
  unfold signingMaterial at same
  have rest := (List.cons.inj (List.append_cancel_left same)).2
  obtain ⟨events, rest⟩ := separator_append_cancel eventLine eventLine' rest
  obtain ⟨timestamps, rest⟩ := separator_append_cancel timestamp.newline_notMem_text
    timestamp'.newline_notMem_text rest
  obtain ⟨nonces, bodies⟩ := separator_append_cancel nonceLine nonceLine' rest
  exact ⟨events, Number.text_injective timestamps, nonces, bodies⟩

end Hash

end OpticsHub
