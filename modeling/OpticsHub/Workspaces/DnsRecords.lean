import OpticsHub.Workspaces.Subdomains

/-!
# DNS records and the table of workspaces

The record of an active subdomain lives at the DNS provider and its identifier in the row of
the workspace. When the calls follow one another, each of them is one of a few steps that
change the row and the records together, and these keep the two in agreement: the records
are those that the rows refer to, under the subdomains of the rows, and the active
subdomains are those with a record. One kind of step breaks it. Where a subdomain is
deactivated or removed, the identifier is dropped from the row even if the provider has not
deleted the record, which nothing refers to from then on; a deletion of the workspace stops
at this point. So the agreement holds in every state of a run exactly if the provider
deletes the record whenever a subdomain with one is deactivated or removed.
-/
namespace OpticsHub

open Script Async Program Machine

namespace WorkspaceService

/-! ## The agreement -/

/-- A workspace refers to a record, and the record names its subdomain. -/
def RefersTo (row : WorkspaceRow) (record : Text × Text) : Prop :=
  row.workspaceDnsRecordId = some record.1 ∧ row.workspaceSubdomain = some record.2

/-- The records are those that the workspaces refer to, each under the subdomain of its
workspace, and the active workspaces are those that refer to one. -/
structure RecordsMatch (workspaces : Table WorkspaceRow) (records : Members Text) : Prop where
  referenced : ∀ record ∈ records, ∃ row ∈ workspaces, RefersTo row record
  recorded : ∀ row ∈ workspaces, ∀ recordId, row.workspaceDnsRecordId = some recordId →
    ∃ record ∈ records, record.1 = recordId ∧ RefersTo row record
  active : ∀ row ∈ workspaces,
    row.workspaceSubdomainActive = true ↔ row.workspaceDnsRecordId ≠ none

/-- Two workspaces do not refer to one record. -/
def OwnRecord (row row' : WorkspaceRow) : Prop :=
  ∀ recordId, row.workspaceDnsRecordId = some recordId → row'.workspaceDnsRecordId ≠ some recordId

theorem OwnRecord.symm {row row' : WorkspaceRow} (own : OwnRecord row row') : OwnRecord row' row :=
  fun recordId refers refers' => own recordId refers' refers

/-! ## Steps on the table and the records -/

/-- What a call does to the table and the records, when it loses no record. A new record has an
identifier that was made for it. -/
inductive RecordStep (made : Text → Prop) (workspaces : Table WorkspaceRow)
    (records : Members Text) : Table WorkspaceRow → Members Text → Prop
  | nothing : RecordStep made workspaces records workspaces records
  | plain {row : WorkspaceRow} (inside : row ∈ workspaces)
      (unrecorded : row.workspaceDnsRecordId = none) {change : WorkspaceRow → WorkspaceRow}
      (keyed : ∀ row, (change row).workspaceIndex = row.workspaceIndex)
      (inactive : (change row).workspaceSubdomainActive = false)
      (unrecorded' : (change row).workspaceDnsRecordId = none) :
      RecordStep made workspaces records
        (workspaces.updateMany (fun other => other.workspaceIndex == row.workspaceIndex) change
          keyed) records
  | drop {row : WorkspaceRow} (inside : row ∈ workspaces) {recordId : Text}
      (recorded : row.workspaceDnsRecordId = some recordId) {change : WorkspaceRow → WorkspaceRow}
      (releases : Releases change) :
      RecordStep made workspaces records
        (workspaces.updateMany (fun other => other.workspaceIndex == row.workspaceIndex) change
          releases.keyed) (records.filter fun record => record.1 ≠ recordId)
  | createInactive (owner : Int32) (name : Text) (subdomain : Option Text) (now : ℤ) :
      RecordStep made workspaces records
        (workspaces.create (newRow owner name subdomain none now)) records
  | create (owner : Int32) (name subdomain : Text) {recordId : Text} (now : ℤ)
      (new : made recordId) :
      RecordStep made workspaces records
        (workspaces.create (newRow owner name (some subdomain) (some recordId) now))
        (records ++ [(recordId, subdomain)])
  | activate {row : WorkspaceRow} (inside : row ∈ workspaces) {subdomain recordId : Text}
      (named : row.workspaceSubdomain = some subdomain)
      (unrecorded : row.workspaceDnsRecordId = none) (new : made recordId) :
      RecordStep made workspaces records
        (workspaces.updateMany (fun other => other.workspaceIndex == row.workspaceIndex)
          (activatedRow (some recordId)) fun _ => rfl) (records ++ [(recordId, subdomain)])
  | rename {row : WorkspaceRow} (inside : row ∈ workspaces) {recordId : Text}
      (recorded : row.workspaceDnsRecordId = some recordId) (subdomain : Text) :
      RecordStep made workspaces records
        (workspaces.updateMany (fun other => other.workspaceIndex == row.workspaceIndex)
          (renamedRow subdomain) fun _ => rfl)
        (records.map fun record =>
          if record.1 = recordId then (record.1, subdomain) else record)

/-- A call drops the identifier of a record that stays. -/
inductive LosesRecord (workspaces : Table WorkspaceRow) : Table WorkspaceRow → Prop
  | release {row : WorkspaceRow} (inside : row ∈ workspaces) {recordId : Text}
      (recorded : row.workspaceDnsRecordId = some recordId) {change : WorkspaceRow → WorkspaceRow}
      (releases : Releases change) :
      LosesRecord workspaces
        (workspaces.updateMany (fun other => other.workspaceIndex == row.workspaceIndex) change
          releases.keyed)

section Steps

variable {made : Text → Prop} {workspaces after : Table WorkspaceRow}
  {records records' : Members Text}

/-- The rows after a change to one of them. -/
theorem mem_changed {row row' : WorkspaceRow} (inside : row ∈ workspaces)
    {change : WorkspaceRow → WorkspaceRow}
    {keyed : ∀ row, (change row).workspaceIndex = row.workspaceIndex} :
    row' ∈ workspaces.updateMany (fun other => other.workspaceIndex == row.workspaceIndex) change
        keyed ↔
      row' = change row ∨ row' ∈ workspaces ∧ row'.workspaceIndex ≠ row.workspaceIndex :=
  Table.mem_updateMany_key inside

/-- A workspace that refers to the same record is the same. -/
theorem eq_of_record (own : workspaces.Separates OwnRecord) {row row' : WorkspaceRow}
    (inside : row ∈ workspaces) (inside' : row' ∈ workspaces) {recordId : Text}
    (refers : row.workspaceDnsRecordId = some recordId)
    (refers' : row'.workspaceDnsRecordId = some recordId) : row = row' := by
  by_contra differ
  refine own row inside row' inside' (fun same => differ ?_) recordId refers refers'
  exact Table.eq_of_key inside inside' same

/-- Two records with one identifier are the same. -/
theorem RecordsMatch.eq_of_id (held : RecordsMatch workspaces records)
    (own : workspaces.Separates OwnRecord) {record record' : Text × Text}
    (inside : record ∈ records) (inside' : record' ∈ records) (same : record.1 = record'.1) :
    record = record' := by
  obtain ⟨row, here, refers, named⟩ := held.referenced record inside
  obtain ⟨row', here', refers', named'⟩ := held.referenced record' inside'
  obtain rfl := eq_of_record own here here' refers (same ▸ refers')
  exact Prod.ext same (Option.some.inj (named.symm.trans named'))

/-- Another content of one row, when the records of the others stay and those that are new are
of this row. -/
theorem RecordsMatch.change (held : RecordsMatch workspaces records)
    (own : workspaces.Separates OwnRecord) {row : WorkspaceRow} (inside : row ∈ workspaces)
    {change : WorkspaceRow → WorkspaceRow}
    (keyed : ∀ row, (change row).workspaceIndex = row.workspaceIndex)
    (origin : ∀ record ∈ records', RefersTo (change row) record ∨
      record ∈ records ∧ row.workspaceDnsRecordId ≠ some record.1)
    (recorded : ∀ recordId, (change row).workspaceDnsRecordId = some recordId →
      ∃ record ∈ records', record.1 = recordId ∧ RefersTo (change row) record)
    (others : ∀ record ∈ records, row.workspaceDnsRecordId ≠ some record.1 → record ∈ records')
    (active : (change row).workspaceSubdomainActive = true ↔
      (change row).workspaceDnsRecordId ≠ none) :
    RecordsMatch (workspaces.updateMany
      (fun other => other.workspaceIndex == row.workspaceIndex) change keyed) records' where
  referenced := by
    intro record here
    rcases origin record here with refers | ⟨before, foreign⟩
    · exact ⟨change row, (mem_changed inside).mpr (.inl rfl), refers⟩
    · obtain ⟨other, inside', refers⟩ := held.referenced record before
      refine ⟨other, (mem_changed inside).mpr (.inr ⟨inside', fun same => foreign ?_⟩), refers⟩
      obtain rfl := Table.eq_of_key inside' inside same
      exact refers.1
  recorded := by
    intro row' here recordId refers
    rcases (mem_changed inside).mp here with rfl | ⟨inside', differ⟩
    · exact recorded recordId refers
    · obtain ⟨record, before, rfl, refers'⟩ := held.recorded row' inside' recordId refers
      refine ⟨record, others record before fun mine => differ ?_, rfl, refers'⟩
      rw [eq_of_record own inside' inside refers mine]
  active := by
    intro row' here
    rcases (mem_changed inside).mp here with rfl | ⟨inside', -⟩
    · exact active
    · exact held.active row' inside'

/-- A new row, when the records stay but for those of this row. -/
theorem RecordsMatch.create (held : RecordsMatch workspaces records) {row : ℕ → WorkspaceRow}
    (keyed : ∀ n, (row n).workspaceIndex = n)
    (origin : ∀ record ∈ records', RefersTo (row workspaces.next) record ∨ record ∈ records)
    (recorded : ∀ recordId, (row workspaces.next).workspaceDnsRecordId = some recordId →
      ∃ record ∈ records', record.1 = recordId ∧ RefersTo (row workspaces.next) record)
    (others : ∀ record ∈ records, record ∈ records')
    (active : (row workspaces.next).workspaceSubdomainActive = true ↔
      (row workspaces.next).workspaceDnsRecordId ≠ none) :
    RecordsMatch (workspaces.create row keyed) records' where
  referenced := by
    intro record here
    rcases origin record here with refers | before
    · exact ⟨row workspaces.next, Table.mem_create.mpr (.inr rfl), refers⟩
    · obtain ⟨other, inside, refers⟩ := held.referenced record before
      exact ⟨other, Table.mem_create.mpr (.inl inside), refers⟩
  recorded := by
    intro row' here recordId refers
    rcases Table.mem_create.mp here with inside | rfl
    · obtain ⟨record, before, same, refers'⟩ := held.recorded row' inside recordId refers
      exact ⟨record, others record before, same, refers'⟩
    · exact recorded recordId refers
  active := by
    intro row' here
    rcases Table.mem_create.mp here with inside | rfl
    · exact held.active row' inside
    · exact active

/-- A step keeps the agreement. -/
theorem RecordStep.keeps_match (step : RecordStep made workspaces records after records')
    (held : RecordsMatch workspaces records) (own : workspaces.Separates OwnRecord) :
    RecordsMatch after records' := by
  cases step with
  | nothing => exact held
  | plain inside unrecorded keyed inactive unrecorded' =>
    refine held.change own inside keyed (fun record here => .inr ⟨here, ?_⟩) (fun recordId refers => ?_)
      (fun record here _ => here) ?_
    · rw [unrecorded]
      exact (Option.some_ne_none _).symm
    · rw [unrecorded'] at refers
      cases refers
    · rw [inactive, unrecorded']
      decide
  | drop inside recorded releases =>
    refine held.change own inside releases.keyed (fun record here => .inr ?_)
      (fun recordId refers => ?_) (fun record here foreign => ?_) ?_
    · obtain ⟨before, differ⟩ := List.mem_filter.mp here
      refine ⟨before, fun mine => of_decide_eq_true differ ?_⟩
      exact Option.some.inj (mine.symm.trans recorded)
    · rw [releases.unrecorded] at refers
      cases refers
    · refine List.mem_filter.mpr ⟨here, decide_eq_true fun same => foreign ?_⟩
      rw [recorded, same]
    · rw [releases.inactive, releases.unrecorded]
      decide
  | createInactive owner name subdomain now =>
    exact held.create _ (fun record here => .inr here) (fun recordId refers => by cases refers)
      (fun record here => here) (by simp [newRow])
  | @create owner name subdomain recordId now new =>
    refine held.create _ (fun record here => ?_) (fun recordId' refers => ?_)
      (fun record here => List.mem_append_left _ here) (by simp [newRow])
    · rcases List.mem_append.mp here with before | last
      · exact .inr before
      · obtain rfl := List.mem_singleton.mp last
        exact .inl ⟨rfl, rfl⟩
    · obtain rfl : recordId = recordId' := Option.some.inj refers
      exact ⟨_, List.mem_append_right _ List.mem_cons_self, rfl, rfl, rfl⟩
  | @activate row inside subdomain recordId named unrecorded new =>
    refine held.change own inside _ (fun record here => ?_) (fun recordId' refers => ?_)
      (fun record here _ => List.mem_append_left _ here) (by simp [activatedRow])
    · rcases List.mem_append.mp here with before | last
      · refine .inr ⟨before, ?_⟩
        rw [unrecorded]
        exact (Option.some_ne_none _).symm
      · obtain rfl := List.mem_singleton.mp last
        exact .inl ⟨rfl, named⟩
    · obtain rfl : recordId = recordId' := Option.some.inj refers
      exact ⟨_, List.mem_append_right _ List.mem_cons_self, rfl, rfl, named⟩
  | @rename row inside recordId recorded subdomain =>
    refine held.change own inside _ (fun record here => ?_) (fun recordId' refers => ?_)
      (fun record here foreign => ?_) (held.active row inside)
    · obtain ⟨before, original, rfl⟩ := List.mem_map.mp here
      split
      · rename_i mine
        exact .inl ⟨by rw [renamedRow, recorded, mine], rfl⟩
      · rename_i differ
        refine .inr ⟨original, fun mine => differ ?_⟩
        exact Option.some.inj (mine.symm.trans recorded)
    · obtain rfl : recordId = recordId' := Option.some.inj (recorded.symm.trans refers)
      obtain ⟨record, before, same, -⟩ := held.recorded row inside recordId recorded
      refine ⟨(record.1, subdomain), List.mem_map.mpr ⟨record, before, if_pos same⟩, same, ?_⟩
      exact ⟨by rw [renamedRow, recorded, same], rfl⟩
    · refine List.mem_map.mpr ⟨record, here, if_neg fun same => foreign ?_⟩
      rw [recorded, same]

/-- A step keeps every record with one workspace, if new identifiers are new. -/
theorem RecordStep.keeps_own (step : RecordStep made workspaces records after records')
    (held : RecordsMatch workspaces records) (own : workspaces.Separates OwnRecord)
    (fresh : ∀ recordId, made recordId → ∀ record ∈ records, record.1 ≠ recordId) :
    after.Separates OwnRecord := by
  have unowned {recordId : Text} (new : made recordId) (row : WorkspaceRow)
      (inside : row ∈ workspaces) : row.workspaceDnsRecordId ≠ some recordId := by
    intro refers
    obtain ⟨record, here, same, -⟩ := held.recorded row inside recordId refers
    exact fresh recordId new record here same
  cases step with
  | nothing => exact own
  | plain inside unrecorded keyed inactive unrecorded' =>
    refine (Table.separates_updateMany_key OwnRecord.symm own inside).mpr fun other _ _ => ?_
    intro recordId _ refers
    rw [unrecorded'] at refers
    cases refers
  | drop inside recorded releases =>
    refine (Table.separates_updateMany_key OwnRecord.symm own inside).mpr fun other _ _ => ?_
    intro recordId _ refers
    rw [releases.unrecorded] at refers
    cases refers
  | createInactive owner name subdomain now =>
    exact own.create OwnRecord.symm fun other _ recordId _ refers => by cases refers
  | create owner name subdomain now new =>
    refine own.create OwnRecord.symm fun other inside recordId' refers refers' => ?_
    obtain rfl := Option.some.inj refers'
    exact unowned new other inside refers
  | activate inside named unrecorded new =>
    refine (Table.separates_updateMany_key OwnRecord.symm own inside).mpr ?_
    intro other inside' _ recordId' refers refers'
    obtain rfl := Option.some.inj refers'
    exact unowned new other inside' refers
  | @rename row inside recordId recorded subdomain =>
    refine (Table.separates_updateMany_key OwnRecord.symm own inside).mpr ?_
    exact fun other inside' differ => own other inside' row inside differ

/-- The identifiers after a step are old or made by it. -/
theorem RecordStep.identifiers (step : RecordStep made workspaces records after records')
    {record : Text × Text} (inside : record ∈ records') :
    (∃ before ∈ records, before.1 = record.1) ∨ made record.1 := by
  have added {recordId subdomain : Text} (new : made recordId)
      (here : record ∈ records ++ [(recordId, subdomain)]) :
      (∃ before ∈ records, before.1 = record.1) ∨ made record.1 := by
    rcases List.mem_append.mp here with before | last
    · exact .inl ⟨record, before, rfl⟩
    · obtain rfl := List.mem_singleton.mp last
      exact .inr new
  cases step with
  | nothing => exact .inl ⟨record, inside, rfl⟩
  | plain => exact .inl ⟨record, inside, rfl⟩
  | drop => exact .inl ⟨record, (List.mem_filter.mp inside).1, rfl⟩
  | createInactive => exact .inl ⟨record, inside, rfl⟩
  | create owner name subdomain now new => exact added new inside
  | activate _ named unrecorded new => exact added new inside
  | rename =>
    obtain ⟨before, here, rfl⟩ := List.mem_map.mp inside
    refine .inl ⟨before, here, ?_⟩
    split <;> rfl

/-- Where a record is lost, no row refers to it any more. -/
theorem LosesRecord.not_match (loses : LosesRecord workspaces after)
    (held : RecordsMatch workspaces records) (own : workspaces.Separates OwnRecord) :
    ¬ RecordsMatch after records := by
  obtain @⟨row, inside, recordId, recorded, change, releases⟩ := loses
  intro matches'
  obtain ⟨record, here, rfl, -⟩ := held.recorded row inside recordId recorded
  obtain ⟨row', inside', refers, -⟩ := matches'.referenced record here
  rcases (mem_changed inside).mp inside' with rfl | ⟨before, differ⟩
  · rw [releases.unrecorded] at refers
    cases refers
  · exact differ (congrArg _ (eq_of_record own before inside refers recorded))

theorem LosesRecord.keeps_own (loses : LosesRecord workspaces after)
    (own : workspaces.Separates OwnRecord) : after.Separates OwnRecord := by
  obtain @⟨row, inside, recordId, recorded, change, releases⟩ := loses
  refine (Table.separates_updateMany_key OwnRecord.symm own inside).mpr fun other _ _ => ?_
  intro recordId _ refers
  rw [releases.unrecorded] at refers
  cases refers

end Steps

/-! ## Calls one after another -/

section Calls

variable (platform : Platform)

/-- One call after another. -/
def manageSubdomains : Transition Hub SubdomainCall (Except Failure Unit) := fun hub call =>
  (subdomainProgram platform call).run hub

/-- The provider gives each record that it makes an identifier of its own, which is not empty.
What it answers to other requests is not looked at. -/
structure NewRecords : Prop where
  named : ∀ n recordId, platform.dnsReply n = .success recordId → recordId ≠ []
  distinct : ∀ n n' recordId, platform.dnsReply n = .success recordId →
    platform.dnsReply n' = .success recordId → n = n'

/-- An identifier was made between two states. -/
def MadeBetween (before after : Hub) (recordId : Text) : Prop :=
  ∃ n, before.drawn ≤ n ∧ n < after.drawn ∧ platform.dnsReply n = .success recordId

/-- The records there are have identifiers, which are not made again. -/
def KnownRecords (hub : Hub) : Prop :=
  ∀ record ∈ hub.dnsRecords, record.1 ≠ [] ∧
    ∀ n, hub.drawn ≤ n → platform.dnsReply n ≠ .success record.1

/-- A call deactivates or removes the subdomain of a workspace that has a record. -/
def dropsRecord (hub : Hub) : SubdomainCall → Bool
  | .toggle owner workspaceIdx false =>
    (ownedWorkspace owner workspaceIdx hub.database).any fun workspace =>
      present workspace.workspaceSubdomain && workspace.workspaceSubdomainActive &&
        present workspace.workspaceDnsRecordId
  | .update owner workspaceIdx subdomain =>
    (ownedWorkspace owner workspaceIdx hub.database).any fun workspace =>
      (requestedSubdomain subdomain).isNone && workspace.workspaceSubdomain.isSome &&
        present workspace.workspaceDnsRecordId
  | _ => false

/-- The provider deletes the record of a subdomain that is deactivated or removed. -/
def DeletesDropped (hub : Hub) (call : SubdomainCall) : Prop :=
  dropsRecord hub call = true → succeeded (platform.dnsReply hub.drawn) = true

instance (hub : Hub) (call : SubdomainCall) : Decidable (DeletesDropped platform hub call) :=
  inferInstanceAs (Decidable (_ → _))

/-- A creation finds its name free, so that the database takes the row. -/
def WriteSucceeds (hub : Hub) : SubdomainCall → Prop
  | .create owner workspaceName _ =>
    ¬ HasName owner (workspaceName.getD (countedName owner hub)) hub.database.workspaces
  | _ => True

instance (hub : Hub) : (call : SubdomainCall) → Decidable (WriteSucceeds hub call)
  | .create _ _ _ => inferInstanceAs (Decidable (¬ ∃ row ∈ hub.database.workspaces, _ ∧ _))
  | .toggle _ _ _ => isTrue trivial
  | .update _ _ _ => isTrue trivial
  | .delete _ _ _ _ => isTrue trivial

/-- What a call does: it takes a step, or it loses a record that is to be deleted. -/
def Manages (hub : Hub) (call : SubdomainCall) (after : Hub) : Prop :=
  hub.drawn ≤ after.drawn ∧
    (DeletesDropped platform hub call ∧
        RecordStep (MadeBetween platform hub after) hub.database.workspaces hub.dnsRecords
          after.database.workspaces after.dnsRecords ∨
      ¬ DeletesDropped platform hub call ∧
        LosesRecord hub.database.workspaces after.database.workspaces ∧
        after.dnsRecords = hub.dnsRecords)

end Calls

section Calls

variable {platform : Platform} {hub : Hub} {call : SubdomainCall}

/-- A call that changes nothing. -/
theorem manages_nothing {after : Hub} (deletes : DeletesDropped platform hub call)
    (drawn : hub.drawn ≤ after.drawn)
    (workspaces : after.database.workspaces = hub.database.workspaces)
    (records : after.dnsRecords = hub.dnsRecords) : Manages platform hub call after := by
  refine ⟨drawn, .inl ⟨deletes, ?_⟩⟩
  rw [workspaces, records]
  exact .nothing

/-- An update of the one row that is selected. -/
theorem wp_updateRow {selected : WorkspaceRow → Bool} {change : ℤ → WorkspaceRow → WorkspaceRow}
    {keyed : ∀ now row, (change now row).workspaceIndex = row.workspaceIndex} {state : Hub}
    {row : WorkspaceRow} (inside : row ∈ state.database.workspaces) (here : selected row = true)
    (only : ∀ other ∈ state.database.workspaces, selected other = true →
      other.workspaceIndex = row.workspaceIndex)
    {post : WorkspaceRow → Hub → Prop} {fail : Failure → Hub → Prop} :
    wp (updateWorkspace selected change keyed) post fail state ↔
      post (change state.now row) (state.write fun database =>
        { database with
          workspaces := database.workspaces.updateMany
            (fun other => other.workspaceIndex == row.workspaceIndex) (change state.now)
            (keyed state.now) }) :=
  wp_atomically_ok (by simp only [Table.findFirst_of_key inside here only])

/-- A row has no record, or one that it names. -/
theorem record_cases (known : KnownRecords platform hub)
    (held : RecordsMatch hub.database.workspaces hub.dnsRecords) {row : WorkspaceRow}
    (inside : row ∈ hub.database.workspaces) :
    row.workspaceDnsRecordId = none ∧ present row.workspaceDnsRecordId = false ∨
      row.workspaceDnsRecordId = some (recordOf row) ∧
        present row.workspaceDnsRecordId = true := by
  cases refers : row.workspaceDnsRecordId with
  | none => exact .inl ⟨rfl, rfl⟩
  | some recordId =>
    obtain ⟨record, here, rfl, -⟩ := held.recorded row inside recordId refers
    refine .inr ⟨by rw [recordOf, refers, Option.getD_some], ?_⟩
    cases named : record.1 with
    | nil => exact absurd named (known record here).1
    | cons unit units => rfl

/-- The workspace that a call finds. -/
theorem mem_of_ownedWorkspace {owner : Int32} {workspaceIdx : ℕ} {workspace : WorkspaceRow}
    (found : ownedWorkspace owner workspaceIdx hub.database = some workspace) :
    workspace ∈ hub.database.workspaces ∧ workspace.workspaceIndex = workspaceIdx ∧
      owned owner workspaceIdx workspace = true := by
  obtain ⟨inside, selected⟩ := Table.mem_of_findFirst found
  have same := selected
  simp only [owned, Bool.and_eq_true, beq_iff_eq] at same
  exact ⟨inside, same.1.1, selected⟩

/-- The Hub after a request to the provider. -/
def afterDns (platform : Platform) (request : DnsRequest) (hub : Hub) : Hub :=
  { hub with
    drawn := hub.drawn + 1
    dnsRecords := request.records hub.dnsRecords (platform.dnsReply hub.drawn) }

theorem wp_askDns {request : DnsRequest} {post : DnsReply → Hub → Prop}
    {fail : Failure → Hub → Prop} {state : Hub} :
    wp (askDns platform request) post fail state ↔
      post (platform.dnsReply state.drawn) (afterDns platform request state) :=
  Iff.rfl

theorem wp_changeDnsRecord {request : DnsRequest} {post : Bool → Hub → Prop}
    {fail : Failure → Hub → Prop} {state : Hub} :
    wp (changeDnsRecord platform request) post fail state ↔
      post (succeeded (platform.dnsReply state.drawn)) (afterDns platform request state) :=
  Iff.rfl

theorem inside_afterDns {request : DnsRequest} {row : WorkspaceRow}
    (inside : row ∈ hub.database.workspaces) :
    row ∈ (afterDns platform request hub).database.workspaces :=
  inside

/-- What the provider does not do changes nothing. -/
theorem dnsRecords_afterDns_failed {request : DnsRequest}
    (failed : succeeded (platform.dnsReply hub.drawn) = false) :
    (afterDns platform request hub).dnsRecords = hub.dnsRecords := by
  rw [afterDns]
  cases reply : platform.dnsReply hub.drawn with
  | success recordId =>
    rw [reply] at failed
    cases failed
  | refused => rfl
  | failed => rfl

theorem dnsRecords_afterDns_delete {recordId : Text}
    (done : succeeded (platform.dnsReply hub.drawn) = true) :
    (afterDns platform (.delete recordId) hub).dnsRecords =
      hub.dnsRecords.filter fun record => record.1 ≠ recordId := by
  rw [afterDns]
  cases reply : platform.dnsReply hub.drawn with
  | success made => rfl
  | refused =>
    rw [reply] at done
    cases done
  | failed =>
    rw [reply] at done
    cases done

theorem dnsRecords_afterDns_update {subdomain recordId : Text}
    (done : succeeded (platform.dnsReply hub.drawn) = true) :
    (afterDns platform (.update subdomain recordId) hub).dnsRecords =
      hub.dnsRecords.map fun record =>
        if record.1 = recordId then (record.1, subdomain) else record := by
  rw [afterDns]
  cases reply : platform.dnsReply hub.drawn with
  | success made => rfl
  | refused =>
    rw [reply] at done
    cases done
  | failed =>
    rw [reply] at done
    cases done

/-- A step on the table in a state that has the database as it was. -/
theorem manages_step {state : Hub} {change : Database → Database}
    (deletes : DeletesDropped platform hub call) (drawn : hub.drawn ≤ state.drawn)
    (step : RecordStep (MadeBetween platform hub state) hub.database.workspaces hub.dnsRecords
      (change state.database).workspaces state.dnsRecords) :
    Manages platform hub call (state.write change) :=
  ⟨drawn, .inl ⟨deletes, step⟩⟩

theorem releases_deletedRow (now : ℤ) : Releases (deletedRow now) :=
  ⟨fun _ => rfl, fun _ => rfl, fun _ => rfl⟩

theorem releases_deactivated : Releases fun row : WorkspaceRow =>
    { row with workspaceSubdomainActive := false, workspaceDnsRecordId := none } :=
  ⟨fun _ => rfl, fun _ => rfl, fun _ => rfl⟩

theorem releases_removed : Releases fun row : WorkspaceRow =>
    { row with
      workspaceSubdomain := none
      workspaceSubdomainActive := false
      workspaceDnsRecordId := none } :=
  ⟨fun _ => rfl, fun _ => rfl, fun _ => rfl⟩

/-- A deletion drops the record first, and stops if that fails. -/
theorem manages_delete (known : KnownRecords platform hub)
    (held : RecordsMatch hub.database.workspaces hub.dnsRecords) {owner : Int32}
    {workspaceIdx : ℕ} {ownerDisplay confirmation : Text}
    (call' : call = .delete owner workspaceIdx ownerDisplay confirmation) :
    Manages platform hub call (manageSubdomains platform hub call).2 := by
  subst call'
  have deletes : DeletesDropped platform hub
      (.delete owner workspaceIdx ownerDisplay confirmation) := fun drops => by cases drops
  have nothing := manages_nothing deletes (Nat.le_refl _) rfl rfl
  refine run_of_wp _ ?_
  simp only [subdomainProgram, handleDeleteWorkspace, deleteDnsRecord, markDeleted, wp_bind,
    wp_look, wp_orThrow, wp_require]
  refine ⟨fun workspace found => ⟨fun _ => ?_, fun _ => nothing⟩, fun _ => nothing⟩
  obtain ⟨inside, rfl, here⟩ := mem_of_ownedWorkspace found
  have only (other : WorkspaceRow) (selected : owned owner workspace.workspaceIndex other = true) :
      other.workspaceIndex = workspace.workspaceIndex := by
    simp only [owned, Bool.and_eq_true, beq_iff_eq] at selected
    exact selected.1.1
  rcases record_cases known held inside with ⟨unrecorded, absent⟩ | ⟨recorded, there⟩
  · rw [absent, if_neg Bool.false_ne_true]
    simp only [wp_pure, wp_bind, wp_look]
    refine (wp_updateRow inside here fun other _ => only other).mpr ?_
    have releases := releases_deletedRow hub.now
    exact manages_step deletes (Nat.le_refl _)
      (.plain inside unrecorded releases.keyed (releases.inactive _) (releases.unrecorded _))
  · rw [there, if_pos rfl]
    simp only [wp_bind, wp_changeDnsRecord, wp_require, wp_look]
    refine ⟨fun done => ?_, fun failed => ?_⟩
    · refine (wp_updateRow (inside_afterDns inside) here fun other _ => only other).mpr ?_
      refine manages_step deletes (Nat.le_succ _) ?_
      rw [dnsRecords_afterDns_delete done]
      exact .drop inside recorded (releases_deletedRow hub.now)
    · exact manages_nothing deletes (Nat.le_succ _) rfl
        (dnsRecords_afterDns_failed (Bool.eq_false_of_not_eq_true failed))

/-- Where a subdomain is deactivated or removed, the row is written whether its record has been
deleted or not. -/
theorem manages_drop (known : KnownRecords platform hub)
    (held : RecordsMatch hub.database.workspaces hub.dnsRecords) {row : WorkspaceRow}
    (inside : row ∈ hub.database.workspaces)
    (drops : dropsRecord hub call = present row.workspaceDnsRecordId)
    {change : ℤ → WorkspaceRow → WorkspaceRow} (releases : ∀ now, Releases (change now))
    {keyed : ∀ now row, (change now row).workspaceIndex = row.workspaceIndex} :
    wp (dropDnsRecord platform row >>= fun _ =>
        updateWorkspace (fun other => other.workspaceIndex == row.workspaceIndex) change keyed >>=
          fun updated => pure (subdomainOf updated))
      (fun _ => Manages platform hub call) (fun _ => Manages platform hub call) hub := by
  have here : (row.workspaceIndex == row.workspaceIndex) = true := beq_self_eq_true _
  have only (other : WorkspaceRow) (selected : (other.workspaceIndex == row.workspaceIndex) = true) :
      other.workspaceIndex = row.workspaceIndex := beq_iff_eq.mp selected
  rw [wp_bind, dropDnsRecord]
  rcases record_cases known held inside with ⟨unrecorded, absent⟩ | ⟨recorded, there⟩
  · rw [absent, if_neg Bool.false_ne_true, wp_pure, wp_bind,
      wp_updateRow inside here fun other _ => only other]
    refine manages_step (fun drop => ?_) (Nat.le_refl _) ?_
    · rw [drops, absent] at drop
      cases drop
    · exact .plain inside unrecorded (releases _).keyed ((releases _).inactive _)
        ((releases _).unrecorded _)
  · rw [there, if_pos rfl, wp_bind, wp_changeDnsRecord, wp_pure, wp_bind,
      wp_updateRow (inside_afterDns inside) here fun other _ => only other]
    cases done : succeeded (platform.dnsReply hub.drawn) with
    | true =>
      refine manages_step (fun _ => done) (Nat.le_succ _) ?_
      rw [dnsRecords_afterDns_delete done]
      exact .drop inside recorded (releases _)
    | false =>
      refine ⟨Nat.le_succ _, .inr ⟨fun deletes => ?_, .release inside recorded (releases _), ?_⟩⟩
      · rw [deletes (drops.trans there)] at done
        cases done
      · exact @dnsRecords_afterDns_failed platform hub (.delete (recordOf row)) done

/-- A subdomain is activated with the record that the provider has made, or not at all. -/
theorem manages_activate (new : NewRecords platform) {row : WorkspaceRow}
    (inside : row ∈ hub.database.workspaces) (unrecorded : row.workspaceDnsRecordId = none)
    {subdomain : Text} (named : row.workspaceSubdomain = some subdomain)
    (deletes : DeletesDropped platform hub call) :
    wp (activateSubdomain platform row.workspaceIndex subdomain)
      (fun _ => Manages platform hub call) (fun _ => Manages platform hub call) hub := by
  have nothing := manages_nothing deletes (Nat.le_refl _) rfl rfl
  simp only [activateSubdomain, createDnsRecord, wp_bind, wp_look, wp_require, wp_askDns]
  refine ⟨fun _ => ⟨fun _ => ?_, fun _ => nothing⟩, fun _ => nothing⟩
  cases reply : platform.dnsReply hub.drawn with
  | success recordId =>
    have there : present (some recordId) = true := by
      cases text : recordId with
      | nil => exact absurd text (new.named _ _ reply)
      | cons unit units => rfl
    simp only [wp_pure, wp_bind, wp_require]
    have here : (row.workspaceIndex == row.workspaceIndex) = true := beq_self_eq_true _
    refine ⟨fun _ => (wp_updateRow (inside_afterDns inside) here
      fun other _ selected => beq_iff_eq.mp selected).mpr ?_, fun absent => absurd there absent⟩
    refine manages_step deletes (Nat.le_succ _) ?_
    rw [afterDns, reply]
    exact .activate inside named unrecorded ⟨hub.drawn, Nat.le_refl _, Nat.lt_succ_self _, reply⟩
  | refused =>
    have failed : succeeded (platform.dnsReply hub.drawn) = false := by rw [reply]; rfl
    exact manages_nothing deletes (Nat.le_succ _) rfl (dnsRecords_afterDns_failed failed)
  | failed =>
    have failed : succeeded (platform.dnsReply hub.drawn) = false := by rw [reply]; rfl
    exact manages_nothing deletes (Nat.le_succ _) rfl (dnsRecords_afterDns_failed failed)

/-- A toggle makes a record for a workspace without one, or drops the one it has. -/
theorem manages_toggle (new : NewRecords platform) (known : KnownRecords platform hub)
    (held : RecordsMatch hub.database.workspaces hub.dnsRecords) {owner : Int32}
    {workspaceIdx : ℕ} {active : Bool} (call' : call = .toggle owner workspaceIdx active) :
    Manages platform hub call (manageSubdomains platform hub call).2 := by
  refine run_of_wp _ ?_
  subst call'
  simp only [subdomainProgram, handleToggleWorkspaceSubdomain, wp_bind, wp_look, wp_orThrow]
  have nothing (drops : dropsRecord hub (.toggle owner workspaceIdx active) = false) :
      Manages platform hub (.toggle owner workspaceIdx active) hub :=
    manages_nothing (fun drop => by rw [drops] at drop; cases drop) (Nat.le_refl _) rfl rfl
  refine ⟨fun row found => ?_, fun missing => nothing ?_⟩
  · have inside := (mem_of_ownedWorkspace found).1
    obtain rfl := (mem_of_ownedWorkspace found).2.1
    split
    · rename_i unit units named
      split
      · rename_i same
        refine nothing ?_
        cases active with
        | true => rfl
        | false => simp [dropsRecord, found, same]
      · rename_i differs
        cases active with
        | true =>
          rw [if_pos rfl]
          have unrecorded : row.workspaceDnsRecordId = none := by
            by_contra recorded
            exact differs ((held.active row inside).mpr recorded)
          exact manages_activate new inside unrecorded named fun drops => by cases drops
        | false =>
          rw [if_neg Bool.false_ne_true]
          refine manages_drop known held inside ?_ fun _ => releases_deactivated
          have active := Bool.eq_true_of_not_eq_false differs
          simp [dropsRecord, found, named, active, present]
    · rename_i unnamed
      refine nothing ?_
      have absent : present row.workspaceSubdomain = false := by
        cases text : row.workspaceSubdomain with
        | none => rfl
        | some text' =>
          cases text' with
          | nil => rfl
          | cons unit units => exact absurd text (unnamed unit units)
      cases active with
      | true => rfl
      | false => simp [dropsRecord, found, absent]
  · cases active with
    | true => rfl
    | false => simp [dropsRecord, missing]

/-- A subdomain is renamed with its record, or where there is none. -/
theorem manages_rename (known : KnownRecords platform hub)
    (held : RecordsMatch hub.database.workspaces hub.dnsRecords) {row : WorkspaceRow}
    (inside : row ∈ hub.database.workspaces) (subdomain : Text)
    (deletes : DeletesDropped platform hub call) :
    wp (renameDnsRecord platform row row.workspaceIndex subdomain >>= fun _ =>
        updateWorkspace (fun other => other.workspaceIndex == row.workspaceIndex)
          (fun _ row => { row with workspaceSubdomain := some subdomain }) >>= fun updated =>
            pure (subdomainOf updated))
      (fun _ => Manages platform hub call) (fun _ => Manages platform hub call) hub := by
  have here : (row.workspaceIndex == row.workspaceIndex) = true := beq_self_eq_true _
  have only (other : WorkspaceRow) (selected : (other.workspaceIndex == row.workspaceIndex) = true) :
      other.workspaceIndex = row.workspaceIndex := beq_iff_eq.mp selected
  rw [wp_bind, renameDnsRecord]
  rcases record_cases known held inside with ⟨unrecorded, absent⟩ | ⟨recorded, there⟩
  · have inactive : row.workspaceSubdomainActive = false :=
      Bool.eq_false_of_not_eq_true fun active => (held.active row inside).mp active unrecorded
    rw [inactive, Bool.false_and, if_neg Bool.false_ne_true, wp_pure, wp_bind,
      wp_updateRow inside here fun other _ => only other]
    exact manages_step deletes (Nat.le_refl _)
      (@RecordStep.plain _ _ _ row inside unrecorded (renamedRow subdomain) (fun _ => rfl) inactive
        unrecorded)
  · have active : row.workspaceSubdomainActive = true := (held.active row inside).mpr (by simp [recorded])
    rw [active, there, Bool.true_and, if_pos rfl]
    simp only [wp_bind, wp_look, wp_require, wp_changeDnsRecord]
    refine ⟨fun _ => ⟨fun done => ?_, fun failed => ?_⟩, fun _ => ?_⟩
    · refine (wp_updateRow (inside_afterDns inside) here fun other _ => only other).mpr ?_
      refine manages_step deletes (Nat.le_succ _) ?_
      rw [dnsRecords_afterDns_update done]
      exact .rename inside recorded subdomain
    · exact manages_nothing deletes (Nat.le_succ _) rfl
        (dnsRecords_afterDns_failed (Bool.eq_false_of_not_eq_true failed))
    · exact manages_nothing deletes (Nat.le_refl _) rfl rfl

/-- An update of a subdomain renames it or drops it. -/
theorem manages_update (known : KnownRecords platform hub)
    (held : RecordsMatch hub.database.workspaces hub.dnsRecords) {owner : Int32}
    {workspaceIdx : ℕ} {subdomain : Option Text} (call' : call = .update owner workspaceIdx subdomain) :
    Manages platform hub call (manageSubdomains platform hub call).2 := by
  refine run_of_wp _ ?_
  subst call'
  simp only [subdomainProgram, handleUpdateWorkspaceSubdomain, wp_bind, wp_look, wp_orThrow]
  have nothing (drops : dropsRecord hub (.update owner workspaceIdx subdomain) = false) :
      Manages platform hub (.update owner workspaceIdx subdomain) hub :=
    manages_nothing (fun drop => by rw [drops] at drop; cases drop) (Nat.le_refl _) rfl rfl
  refine ⟨fun row found => ?_, fun missing => nothing (by simp [dropsRecord, missing])⟩
  have inside := (mem_of_ownedWorkspace found).1
  obtain rfl := (mem_of_ownedWorkspace found).2.1
  rw [← requestedSubdomain]
  split
  · rename_i same
    refine nothing ?_
    cases requested : requestedSubdomain subdomain with
    | none => simp [dropsRecord, found, ← same, requested]
    | some subdomain' => simp [dropsRecord, found, requested]
  · rename_i differs
    cases requested : requestedSubdomain subdomain with
    | none =>
      refine manages_drop known held inside ?_ fun _ => releases_removed
      have named : row.workspaceSubdomain.isSome = true := by
        rw [requested] at differs
        exact Option.isSome_iff_ne_none.mpr fun absent => differs absent.symm
      simp [dropsRecord, found, requested, named]
    | some subdomain' =>
      refine manages_rename known held inside subdomain' fun drops => ?_
      simp [dropsRecord, found, requested] at drops

/-- A workspace is created with the record that the provider has made, or without one. -/
theorem wp_createWorkspace {owner : Int32} {name : Text} {subdomain dnsRecordId : Option Text}
    {state : Hub} (free : ¬ HasName owner name state.database.workspaces)
    {post : WorkspaceRow → Hub → Prop} {fail : Failure → Hub → Prop} :
    wp (createWorkspace owner name subdomain dnsRecordId) post fail state ↔
      post (newRow owner name subdomain dnsRecordId state.now state.database.workspaces.next)
        (state.write fun database => { database with
          workspaces := database.workspaces.create
            (newRow owner name subdomain dnsRecordId state.now) }) := by
  have absent : (state.database.workspaces.findFirst fun workspace =>
      workspace.workspaceOwner == owner && workspace.workspaceName == name) = none := by
    refine Table.findFirst_eq_none.mpr fun row inside => Bool.eq_false_of_not_eq_true fun same => ?_
    rw [Bool.and_eq_true, beq_iff_eq, beq_iff_eq] at same
    exact free ⟨row, inside, same⟩
  exact wp_atomically_ok (by simp only [absent]; rfl)

/-- A creation without a record. -/
theorem manages_createInactive {owner : Int32} {name : Text} {subdomain : Option Text}
    {state : Hub} (free : ¬ HasName owner name hub.database.workspaces)
    (deletes : DeletesDropped platform hub call) (drawn : hub.drawn ≤ state.drawn)
    (database : state.database = hub.database) (records : state.dnsRecords = hub.dnsRecords) :
    wp (createWorkspace owner name subdomain none) (fun _ => Manages platform hub call)
      (fun _ => Manages platform hub call) state := by
  rw [← database] at free
  refine (wp_createWorkspace free).mpr (manages_step deletes drawn ?_)
  rw [records, database]
  exact .createInactive owner name subdomain state.now

/-- A creation with a subdomain. -/
theorem manages_createActive {owner : Int32} {name subdomain : Text}
    (free : ¬ HasName owner name hub.database.workspaces)
    (deletes : DeletesDropped platform hub call) :
    wp (tryActivateSubdomain platform subdomain none >>= fun dnsRecordId =>
        createWorkspace owner name (some subdomain) dnsRecordId)
      (fun _ => Manages platform hub call) (fun _ => Manages platform hub call) hub := by
  have inactive := @manages_createInactive platform hub call owner name (some subdomain) hub free
    deletes (Nat.le_refl _) rfl rfl
  rw [tryActivateSubdomain, wp_bind, wp_bind, wp_look]
  split
  · exact inactive
  · rw [wp_bind, wp_look]
    split
    · exact inactive
    · rw [createDnsRecord, wp_bind, wp_askDns]
      cases reply : platform.dnsReply hub.drawn with
      | success recordId =>
        have free' : ¬ HasName owner name (afterDns platform (.create subdomain)
          hub).database.workspaces := free
        refine (wp_createWorkspace free').mpr (manages_step deletes (Nat.le_succ _) ?_)
        rw [afterDns, reply]
        exact .create owner name subdomain hub.now
          ⟨hub.drawn, Nat.le_refl _, Nat.lt_succ_self _, reply⟩
      | refused =>
        have failed : succeeded (platform.dnsReply hub.drawn) = false := by rw [reply]; rfl
        exact manages_createInactive free deletes (Nat.le_succ _) rfl
          (dnsRecords_afterDns_failed failed)
      | failed =>
        have failed : succeeded (platform.dnsReply hub.drawn) = false := by rw [reply]; rfl
        exact manages_createInactive free deletes (Nat.le_succ _) rfl
          (dnsRecords_afterDns_failed failed)

theorem manages_create {owner : Int32} {workspaceName workspaceSubdomain : Option Text}
    (succeeds : WriteSucceeds hub (.create owner workspaceName workspaceSubdomain))
    (call' : call = .create owner workspaceName workspaceSubdomain) :
    Manages platform hub call (manageSubdomains platform hub call).2 := by
  refine run_of_wp _ ?_
  subst call'
  have deletes : DeletesDropped platform hub
      (.create owner workspaceName workspaceSubdomain) := fun drops => by cases drops
  have inactive (name : Text) (free : ¬ HasName owner name hub.database.workspaces) :=
    @manages_createInactive platform hub (.create owner workspaceName workspaceSubdomain) owner
      name workspaceSubdomain hub free deletes (Nat.le_refl _) rfl rfl
  rcases workspaceName with _ | name <;>
  rcases workspaceSubdomain with _ | ⟨_ | ⟨unit, units⟩⟩ <;>
  rw [subdomainProgram, wp_bind, handleCreateWorkspace, wp_bind]
  · exact inactive _ succeeds
  · exact inactive _ succeeds
  · exact manages_createActive succeeds deletes
  · exact inactive _ succeeds
  · exact inactive _ succeeds
  · exact manages_createActive succeeds deletes

/-- Every call takes a step, or loses a record that the provider has not deleted. -/
theorem manages (new : NewRecords platform) (known : KnownRecords platform hub)
    (held : RecordsMatch hub.database.workspaces hub.dnsRecords)
    (succeeds : WriteSucceeds hub call) :
    Manages platform hub call (manageSubdomains platform hub call).2 := by
  cases call with
  | create owner workspaceName workspaceSubdomain => exact manages_create succeeds rfl
  | toggle owner workspaceIdx active => exact manages_toggle new known held rfl
  | update owner workspaceIdx subdomain => exact manages_update known held rfl
  | delete owner workspaceIdx ownerDisplay confirmation => exact manages_delete known held rfl

/-- What is known of the identifiers stays known. -/
theorem Manages.known (new : NewRecords platform) {after : Hub}
    (manages : Manages platform hub call after) (known : KnownRecords platform hub) :
    KnownRecords platform after := by
  intro record inside
  obtain ⟨drawn, ⟨-, step⟩ | ⟨-, -, same⟩⟩ := manages
  · rcases step.identifiers inside with ⟨before, here, same⟩ | ⟨n, -, early, reply⟩
    · obtain ⟨named, unmade⟩ := known before here
      rw [same] at named unmade
      exact ⟨named, fun n late => unmade n (Nat.le_trans drawn late)⟩
    · refine ⟨new.named n _ reply, fun n' late reply' => ?_⟩
      exact absurd (new.distinct n n' _ reply reply') (by omega)
  · rw [same] at inside
    exact ⟨(known record inside).1, fun n late => (known record inside).2 n (Nat.le_trans drawn late)⟩

/-- No record comes to belong to two workspaces. -/
theorem Manages.own {after : Hub} (manages : Manages platform hub call after)
    (known : KnownRecords platform hub)
    (held : RecordsMatch hub.database.workspaces hub.dnsRecords)
    (own : hub.database.workspaces.Separates OwnRecord) :
    after.database.workspaces.Separates OwnRecord := by
  obtain ⟨-, ⟨-, step⟩ | ⟨-, loses, -⟩⟩ := manages
  · refine step.keeps_own held own ?_
    rintro recordId ⟨n, late, -, reply⟩ record inside rfl
    exact (known record inside).2 n late reply
  · exact loses.keeps_own own

/-- The agreement holds after a call exactly if the provider has deleted what the call drops. -/
theorem Manages.match_iff {after : Hub} (manages : Manages platform hub call after)
    (held : RecordsMatch hub.database.workspaces hub.dnsRecords)
    (own : hub.database.workspaces.Separates OwnRecord) :
    RecordsMatch after.database.workspaces after.dnsRecords ↔ DeletesDropped platform hub call := by
  obtain ⟨-, ⟨deletes, step⟩ | ⟨fails, loses, same⟩⟩ := manages
  · exact iff_of_true (step.keeps_match held own) deletes
  · rw [same]
    exact iff_of_false (loses.not_match held own) fails

end Calls

/-! ## Runs -/

/-- In a run whose writes the database takes, the records are those of the table in every state
exactly if the provider deletes the record whenever a subdomain with one is deactivated or
removed. -/
theorem records_match_iff (platform : Platform) (new : NewRecords platform) (start : Hub)
    (known : KnownRecords platform start)
    (own : start.database.workspaces.Separates OwnRecord)
    (held : RecordsMatch start.database.workspaces start.dnsRecords) (calls : List SubdomainCall)
    (succeed : Each (manageSubdomains platform) WriteSucceeds start calls) :
    Each (manageSubdomains platform) (fun hub call =>
        RecordsMatch (manageSubdomains platform hub call).2.database.workspaces
          (manageSubdomains platform hub call).2.dnsRecords) start calls ↔
      Each (manageSubdomains platform) (DeletesDropped platform) start calls := by
  apply along_kept_iff (fun hub : Hub => RecordsMatch hub.database.workspaces hub.dnsRecords)
    (fun _ hub => KnownRecords platform hub ∧ hub.database.workspaces.Separates OwnRecord)
  case held => exact succeed
  case given => exact ⟨known, own⟩
  case starts => exact held
  · rintro past hub call succeeds ⟨known, own⟩ held
    have does := manages new known held succeeds
    exact ⟨does.known new known, does.own known held own⟩
  · rintro past hub call succeeds ⟨known, own⟩ held
    exact (manages new known held succeeds).match_iff held own

theorem newRecords_recordingPlatform : NewRecords recordingPlatform where
  named := by
    rintro n _ reply rfl
    exact absurd (DnsReply.success.inj reply) (by simp)
  distinct := by
    intro n n' recordId reply reply'
    have lengths := congrArg List.length
      ((DnsReply.success.inj reply).trans (DnsReply.success.inj reply').symm)
    simpa using lengths

/-- A Hub without workspaces. -/
def emptyHub : Hub where
  now := 0

theorem recordsMatch_empty {records : Members Text} (none' : records = []) :
    RecordsMatch Table.empty records := by
  subst none'
  exact ⟨fun record inside => absurd inside List.not_mem_nil,
    fun row inside => absurd inside List.not_mem_nil,
    fun row inside => absurd inside List.not_mem_nil⟩

/-- A workspace is created active, deactivated, activated again under another subdomain, and
deleted. -/
def managedWorkspace : List SubdomainCall :=
  [.create 1 (some "W") (some "first"), .toggle 1 1 false, .toggle 1 1 true,
    .update 1 1 (some "second"), .delete 1 1 "owner" "owner/W"]

theorem records_match_managed :
    Each (manageSubdomains recordingPlatform) (fun hub call =>
        RecordsMatch (manageSubdomains recordingPlatform hub call).2.database.workspaces
          (manageSubdomains recordingPlatform hub call).2.dnsRecords) emptyHub managedWorkspace ∧
      (final (manageSubdomains recordingPlatform) emptyHub (managedWorkspace.take 4)).dnsRecords =
        ([(List.replicate 3 0x52, "second")] : Members Text) :=
  ⟨(records_match_iff recordingPlatform newRecords_recordingPlatform emptyHub
    (fun record inside => absurd inside List.not_mem_nil) Table.separates_empty
    (recordsMatch_empty rfl) managedWorkspace (by decide +kernel)).mpr (by decide +kernel),
    by decide +kernel⟩

/-- A provider that makes one record and refuses everything else. -/
def refusingPlatform : Platform :=
  { AgentGateway.fixedPlatform with dnsReply := fun n => if n = 0 then .success "R" else .refused }

/-- The provider does not delete the record of a subdomain that is deactivated. -/
def lostRecord : List SubdomainCall :=
  [.create 1 (some "W") (some "first"), .toggle 1 1 false]

/-- The record stays, and no workspace refers to it. -/
theorem not_records_match_lost :
    Each (manageSubdomains refusingPlatform) WriteSucceeds emptyHub lostRecord ∧
    ¬ Each (manageSubdomains refusingPlatform) (fun hub call =>
      RecordsMatch (manageSubdomains refusingPlatform hub call).2.database.workspaces
        (manageSubdomains refusingPlatform hub call).2.dnsRecords) emptyHub lostRecord := by
  refine ⟨by decide +kernel, ?_⟩
  rintro ⟨-, last, -⟩
  obtain ⟨row, inside, refers, -⟩ := last.referenced ("R", "first") (by decide +kernel)
  have unrecorded : ∀ row ∈ (final (manageSubdomains refusingPlatform) emptyHub
      lostRecord).database.workspaces, row.workspaceDnsRecordId = none := by decide +kernel
  rw [unrecorded row inside] at refers
  cases refers

end WorkspaceService

end OpticsHub
