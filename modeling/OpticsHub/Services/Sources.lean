import OpticsHub.Script.Enumeration
import OpticsHub.Script.Remains
import OpticsHub.Script.RoundTrip
import OpticsHub.Services.Targets
import OpticsHub.Services.TrafficBlocks

/-!
# Source repositories that come back from storage

The repositories of a service are stored as one text: the address itself if there is only one
and it has no directory, and a JSON list otherwise. A redeployment without a source reads the text
back by trying to parse it, so an address that is the text of a JSON value comes back as what that
value denotes, and this is never the address. The directories of a list are normalised twice more
on the way, and normalising cuts off white space first and slashes then, so a directory that has
white space behind its slashes loses more each time. All other lists survive any number of
redeployments.
-/
namespace OpticsHub

open Script Async Program Machine

namespace ServiceService

open AgentGateway AgentService

/-! ## Directories -/

/-- A directory text without white space around it and then without slashes in front. -/
def directoryOf (text : Text) : Option Text :=
  let value := text.trim.dropWhile fun unit => unit == 0x2F
  if value.isEmpty then none else some value

/-- A directory that was normalised before is normalised once more. -/
theorem normalizeRootDirectory_nullable (directory : Option Text) :
    normalizeRootDirectory (nullable directory) = .ok (directory.bind directoryOf) := by
  cases directory with
  | none => rfl
  | some text => rfl

/-- The shape of a normalised directory. -/
structure IsDirectory (directory : Text) : Prop where
  some : directory ≠ []
  front : directory.dropWhile (fun unit => unit == 0x2F) = directory
  back : directory.rdropWhile CodeUnit.isSpace = directory

theorem directoryOf_eq_some_iff {text directory : Text} :
    directoryOf text = some directory ↔
      (text.trim.dropWhile fun unit => unit == 0x2F) = directory ∧ directory ≠ [] := by
  unfold directoryOf
  dsimp only
  split
  · rename_i empty
    rw [List.isEmpty_iff] at empty
    refine iff_of_false (fun same => by cases same) ?_
    rintro ⟨rfl, filled⟩
    exact filled empty
  · rename_i filled
    rw [List.isEmpty_iff] at filled
    rw [Option.some.injEq]
    refine (and_iff_left_of_imp ?_).symm
    rintro rfl
    exact filled

theorem isDirectory_of_directoryOf {text directory : Text}
    (normalized : directoryOf text = some directory) : IsDirectory directory := by
  obtain ⟨rfl, filled⟩ := directoryOf_eq_some_iff.mp normalized
  exact ⟨filled, List.dropWhile_idempotent _ _,
    rdropWhile_of_suffix (List.dropWhile_suffix _) (Text.rdropWhile_trim text)⟩

theorem length_directoryOf {text directory : Text}
    (normalized : directoryOf text = some directory) :
    directory.length ≤ (text.dropWhile CodeUnit.isSpace).length := by
  obtain ⟨rfl, -⟩ := directoryOf_eq_some_iff.mp normalized
  exact (List.dropWhile_suffix _).length_le.trans (List.rdropWhile_prefix _ _).length_le

/-- A directory does not begin with white space. -/
def Settled (directory : Text) : Prop := directory.dropWhile CodeUnit.isSpace = directory

/-- A normalised directory without white space in front stays as it is. -/
theorem directoryOf_settled {directory : Text} (shape : IsDirectory directory)
    (settled : Settled directory) : directoryOf directory = some directory := by
  rw [directoryOf_eq_some_iff, Text.trim_of_ends settled shape.back]
  exact ⟨shape.front, shape.some⟩

/-- One with white space in front never comes back. -/
theorem settled_of_directoryOf_twice {directory : Text}
    (again : (directoryOf directory).bind directoryOf = some directory) : Settled directory := by
  obtain ⟨once, first, second⟩ := Option.bind_eq_some_iff.mp again
  have shorter := length_directoryOf first
  have longer := (length_directoryOf second).trans (List.dropWhile_suffix _).length_le
  exact (List.dropWhile_suffix _).eq_of_length_le (longer.trans shorter)

/-! ## What a list of repositories comes to -/

/-- The entries of a source before they are trimmed. -/
def sourceEntries (input fallbackRootDirectory : Value) :
    Except Failure (List ServiceSourceRepository) :=
  match input with
  | .string url => do
    let rootDirectory ← normalizeRootDirectory fallbackRootDirectory
    pure [{ url := url, rootDirectory := rootDirectory }]
  | .array elements => elements.mapM sourceEntry
  | _ => pure []

/-- An entry once it is trimmed and its directory normalised. -/
def settle (entry : ServiceSourceRepository) : ServiceSourceRepository where
  url := entry.url.trim
  rootDirectory := entry.rootDirectory.bind directoryOf

/-- The entries that name an address. -/
def settled (entries : List ServiceSourceRepository) : List ServiceSourceRepository :=
  (entries.map settle).filter fun entry => !entry.url.isEmpty

theorem normalizeSourceRepositories_ok_iff {input fallbackRootDirectory : Value}
    {repositories : List ServiceSourceRepository} :
    normalizeSourceRepositories input fallbackRootDirectory = .ok repositories ↔
      ∃ entries, sourceEntries input fallbackRootDirectory = .ok entries ∧
        settled entries = repositories ∧ repositories ≠ [] := by
  have second (entries : List ServiceSourceRepository) :
      (entries.mapM fun entry => do
        let rootDirectory ← normalizeRootDirectory (nullable entry.rootDirectory)
        return ({ url := entry.url.trim, rootDirectory := rootDirectory } :
          ServiceSourceRepository)) = Except.ok (entries.map settle) := by
    rw [mapM_eq_ok_iff, List.forall₂_map_right_iff, List.forall₂_same]
    intro entry _
    rw [normalizeRootDirectory_nullable]
    rfl
  have whole : normalizeSourceRepositories input fallbackRootDirectory =
      sourceEntries input fallbackRootDirectory >>= fun entries =>
        if (settled entries).isEmpty then
          .error (.badRequest "At least one source repository is required.")
        else .ok (settled entries) := by
    unfold normalizeSourceRepositories sourceEntries
    simp only [second]
    cases input with
    | string url =>
      dsimp only
      cases normalizeRootDirectory fallbackRootDirectory with
      | error failure => rfl
      | ok rootDirectory => rfl
    | array elements =>
      dsimp only
      cases elements.mapM sourceEntry with
      | error failure => rfl
      | ok entries => rfl
    | _ => rfl
  rw [whole, bind_eq_ok_iff]
  refine exists_congr fun entries => and_congr_right fun _ => ?_
  split
  · rename_i empty
    rw [List.isEmpty_iff] at empty
    refine iff_of_false (fun same => by cases same) ?_
    rintro ⟨rfl, filled⟩
    exact filled empty
  · rename_i filled
    rw [List.isEmpty_iff] at filled
    rw [Except.ok.injEq]
    refine (and_iff_left_of_imp ?_).symm
    rintro rfl
    exact filled

/-- The shape of a repository in a normalised list. -/
structure IsSource (repository : ServiceSourceRepository) : Prop where
  filled : repository.url ≠ []
  trimmed : repository.url.trim = repository.url
  directory : ∀ directory, repository.rootDirectory = some directory → IsDirectory directory

theorem isSource_of_settled {entries : List ServiceSourceRepository}
    {repository : ServiceSourceRepository} (inside : repository ∈ settled entries) :
    IsSource repository := by
  obtain ⟨member, filled⟩ := List.mem_filter.mp inside
  obtain ⟨entry, -, rfl⟩ := List.mem_map.mp member
  refine ⟨?_, Text.trim_trim _, ?_⟩
  · intro empty
    rw [empty] at filled
    exact absurd filled Bool.false_ne_true
  · intro directory given
    obtain ⟨text, -, normalized⟩ := Option.bind_eq_some_iff.mp given
    exact isDirectory_of_directoryOf normalized

/-! ## What is read back -/

/-- The members of a repository in a list that is stored as JSON. -/
def sourceMembers (entry : ServiceSourceRepository) : Members Value :=
  [("url", .string entry.url), ("rootDirectory", nullable entry.rootDirectory)]

/-- The value of a list of repositories that is stored as JSON. -/
def sourcesValue (repositories : List ServiceSourceRepository) : Value :=
  .array (repositories.map fun entry => .object (sourceMembers entry))

theorem serialize_json {repositories : List ServiceSourceRepository}
    (structured : ∀ url, repositories ≠ [{ url := url, rootDirectory := none }]) :
    serializeSourceRepositories repositories = (stringify (sourcesValue repositories)).getD [] := by
  unfold serializeSourceRepositories
  split
  · exact absurd rfl (structured _)
  · rfl

theorem wellFormed_nullable (text : Option Text) : (nullable text).WellFormed := by
  cases text <;> trivial

theorem arranged_nullable (text : Option Text) :
    arranged (Value.asJson (nullable text)) = nullable text := by
  cases text <;> rfl

theorem isDefined_nullable (text : Option Text) : (nullable text).isDefined = true := by
  cases text <;> rfl

theorem wellFormed_sourceMembers (entry : ServiceSourceRepository) :
    (Value.object (sourceMembers entry)).WellFormed := by
  rw [Value.wellFormed_object]
  refine ⟨(by decide : [Text.ofString "url", Text.ofString "rootDirectory"].Nodup), ?_⟩
  rw [sourceMembers, List.forall_mem_cons, List.forall_mem_singleton]
  exact ⟨trivial, wellFormed_nullable _⟩

/-- An entry is written with its members in the order that they have. -/
theorem arranged_sourceMembers (entry : ServiceSourceRepository) :
    arranged (Value.asJson (.object (sourceMembers entry))) = .object (sourceMembers entry) := by
  have defined : Value.definedMembers (sourceMembers entry) = sourceMembers entry := by
    refine List.filter_eq_self.mpr ?_
    rw [sourceMembers, List.forall_mem_cons, List.forall_mem_singleton]
    exact ⟨rfl, isDefined_nullable _⟩
  have same : Members.mapValues (arranged ∘ Value.asJson) (sourceMembers entry) =
      sourceMembers entry := by
    change [_, (_, arranged (Value.asJson (nullable entry.rootDirectory)))] = _
    rw [arranged_nullable]
    rfl
  have last : Members.arrayIndex? (Text.ofString "rootDirectory") = none := by decide
  have ordered : Members.enumerate (sourceMembers entry) = sourceMembers entry :=
    (Members.enumerate_eq_self_iff _).mpr
      (List.pairwise_pair.mpr (Members.keepsOrder_of_none last))
  rw [Value.asJson_object, defined, arranged, Value.rebuild_object, Members.mapValues_mapValues]
  exact congrArg Value.object ((congrArg Members.enumerate same).trans ordered)

/-- A list that is stored as JSON is parsed as it was. -/
theorem parseJson_sources {repositories : List ServiceSourceRepository}
    (structured : ∀ url, repositories ≠ [{ url := url, rootDirectory := none }]) :
    (serializeSourceRepositories repositories).parseJson = some (sourcesValue repositories) := by
  have formed : (sourcesValue repositories).WellFormed := by
    rw [sourcesValue, Value.wellFormed_array]
    exact List.forall_mem_map.mpr fun entry _ => wellFormed_sourceMembers entry
  have same : arranged (Value.asJson (sourcesValue repositories)) = sourcesValue repositories := by
    rw [sourcesValue, Value.asJson_array, arranged, Value.rebuild_array, List.map_map,
      List.map_map]
    exact congrArg Value.array (List.map_congr_left fun entry _ => arranged_sourceMembers entry)
  have read := @parseJson_stringify (sourcesValue repositories) rfl formed
  rw [same] at read
  rw [serialize_json structured]
  obtain ⟨text, written, parsed⟩ := Option.bind_eq_some_iff.mp read
  rw [written]
  exact parsed

theorem sourceEntry_sourceMembers (entry : ServiceSourceRepository) :
    sourceEntry (.object (sourceMembers entry)) = .ok (settle entry) := by
  have directory := normalizeRootDirectory_nullable entry.rootDirectory
  change (normalizeRootDirectory (nullable entry.rootDirectory) >>= fun rootDirectory =>
    Except.ok ⟨entry.url.trim, rootDirectory⟩) = Except.ok (settle entry)
  rw [directory]
  rfl

/-- A list that is read as JSON has been settled twice. -/
theorem sourceEntries_sourcesValue (repositories : List ServiceSourceRepository)
    (fallbackRootDirectory : Value) :
    sourceEntries (sourcesValue repositories) fallbackRootDirectory =
      .ok (repositories.map settle) := by
  rw [sourcesValue, sourceEntries, mapM_eq_ok_iff, List.forall₂_map_left_iff,
    List.forall₂_map_right_iff, List.forall₂_same]
  exact fun entry _ => sourceEntry_sourceMembers entry

/-- Settling twice leaves a repository alone exactly if its directory is settled. -/
theorem settle_settle_iff {repository : ServiceSourceRepository} (shape : IsSource repository) :
    settle (settle repository) = repository ↔
      ∀ directory, repository.rootDirectory = some directory → Settled directory := by
  have url : repository.url.trim.trim = repository.url := by rw [shape.trimmed, shape.trimmed]
  constructor
  · intro same directory given
    refine settled_of_directoryOf_twice ?_
    have kept := congrArg ServiceSourceRepository.rootDirectory same
    rw [given] at kept
    change (repository.rootDirectory.bind directoryOf).bind directoryOf = _ at kept
    rwa [given] at kept
  · intro settled
    cases repository with
    | mk address rootDirectory =>
      refine congrArg₂ ServiceSourceRepository.mk url ?_
      cases rootDirectory with
      | none => rfl
      | some directory =>
        have once := directoryOf_settled (shape.directory directory rfl) (settled directory rfl)
        exact (congrArg (Option.bind · directoryOf) once).trans once

/-- The entries are those that are settled already. -/
theorem settled_map_settle_iff {repositories : List ServiceSourceRepository}
    (shape : ∀ repository ∈ repositories, IsSource repository) :
    settled (repositories.map settle) = repositories ↔
      ∀ repository ∈ repositories, settle (settle repository) = repository := by
  have filled : settled (repositories.map settle) =
      repositories.map fun repository => settle (settle repository) := by
    rw [settled, List.map_map]
    refine List.filter_eq_self.mpr (List.forall_mem_map.mpr fun repository inside => ?_)
    have url : (settle (settle repository)).url = repository.url := by
      change repository.url.trim.trim = repository.url
      rw [(shape repository inside).trimmed, (shape repository inside).trimmed]
    rw [Function.comp_apply, url, Bool.not_eq_true', List.isEmpty_eq_false_iff]
    exact (shape repository inside).filled
  have whole := @List.map_inj_left _ _ repositories
    (fun repository => settle (settle repository)) id
  rw [List.map_id] at whole
  rw [filled]
  exact whole

/-! ## An address that is JSON -/

/-- What the members of an entry cost. -/
theorem marked_record {element : Value} {record : Members Value} {key : Text} {value : Value}
    (object : recordOf element = some record) (found : Members.own record key = some value) :
    value.marked + 2 ≤ element.marked := by
  cases element with
  | object members =>
    cases object
    exact Value.marked_own found
  | array elements =>
    cases object
    cases found
  | date iso =>
    cases object
    cases found
  | _ => cases object

theorem orElse_eq_some {value other : Option Value} {chosen : Value}
    (found : Value.orElse value other = some chosen) :
    value = some chosen ∨ other = some chosen := by
  unfold Value.orElse at found
  split at found
  · exact .inr found
  · exact .inr found
  · exact .inr found
  · exact .inl found

/-- The text of one of two members, in the absence of both the empty text. -/
theorem marks_eitherMember {element : Value} {record : Members Value} {name other text : Text}
    (object : recordOf element = some record)
    (read : textOf ((Value.orElse (some (eitherMember record name other)) none).getD
      (.string [])) = .ok text) :
    text = [] ∨ marks text + 2 ≤ element.marked := by
  cases chosen : Value.orElse (some (eitherMember record name other)) none with
  | none =>
    rw [chosen] at read
    cases read
    exact .inl rfl
  | some value =>
    obtain same | absent := orElse_eq_some chosen
    · obtain rfl := Option.some.inj same
      rw [chosen, Option.getD_some] at read
      have priced : (eitherMember record name other).marked + 2 ≤ element.marked := by
        unfold eitherMember at chosen ⊢
        cases found : Value.orElse (Members.own record name) (Members.own record other) with
        | none =>
          rw [found] at chosen
          cases chosen
        | some member =>
          rw [Option.getD_some]
          exact (orElse_eq_some found).elim (marked_record object) (marked_record object)
      unfold textOf at read
      split at read
      · rename_i given
        cases read
        exact .inr ((Nat.add_le_add_right (Value.marks_toText given) 2).trans priced)
      · cases read
    · cases absent

/-- An entry has no address, or less of the text than the quotes of the address. -/
theorem sourceEntry_marks {element : Value} {entry : ServiceSourceRepository}
    (read : sourceEntry element = .ok entry) :
    entry.url = [] ∨ marks entry.url + 2 ≤ element.marked := by
  unfold sourceEntry at read
  split at read
  · cases read
    exact .inr le_rfl
  · split at read
    · rename_i record object
      simp only [bind_eq_ok_iff] at read
      obtain ⟨text, given, rootDirectory, -, ends⟩ := read
      cases ends
      rcases marks_eitherMember object given with rfl | less
      · exact .inl rfl
      · exact .inr ((Nat.add_le_add_right
          (marks_le_of_sublist (Text.trim_sublist text)) 2).trans less)
    · cases read
      exact .inl rfl

/-- Nothing that is read from a text as JSON has the text for its address. -/
theorem marks_sourceEntries {text : Text} {value fallbackRootDirectory : Value}
    (parsed : text.parseJson = some value) {entries : List ServiceSourceRepository}
    (read : sourceEntries value fallbackRootDirectory = .ok entries) :
    ∀ entry ∈ settled entries, marks entry.url + 2 ≤ marks text := by
  have priced : ∀ entry ∈ entries, entry.url = [] ∨ marks entry.url + 2 ≤ marks text := by
    have whole := marked_parseJson parsed
    unfold sourceEntries at read
    split at read
    · rw [bind_eq_ok_iff] at read
      obtain ⟨rootDirectory, -, ends⟩ := read
      cases ends
      exact List.forall_mem_singleton.mpr (.inr whole)
    · rename_i elements
      intro entry inside
      obtain ⟨element, member, given⟩ := exists_of_mapM read inside
      refine (sourceEntry_marks given).imp_right fun less => ?_
      exact less.trans ((Value.marked_le_markedElements member).trans whole)
    · cases read
      exact fun entry inside => absurd inside List.not_mem_nil
  intro entry inside
  obtain ⟨member, filled⟩ := List.mem_filter.mp inside
  obtain ⟨original, given, rfl⟩ := List.mem_map.mp member
  rcases priced original given with empty | less
  · rw [settle, empty] at filled
    exact absurd filled Bool.false_ne_true
  · exact (Nat.add_le_add_right (marks_le_of_sublist (Text.trim_sublist _)) 2).trans less

/-! ## Reading a service back -/

/-- Repositories that come back as they are: no directory begins with white space, and an address
that stands for itself is not JSON. -/
structure Durable (repositories : List ServiceSourceRepository) : Prop where
  settled : ∀ repository ∈ repositories, ∀ directory,
    repository.rootDirectory = some directory → Settled directory
  plain : ∀ url, repositories = [{ url := url, rootDirectory := none }] → url.parseJson = none

/-- A row stores repositories. -/
structure Stores (repositories : List ServiceSourceRepository) (row : ServiceRow) : Prop where
  source : row.serviceSourceUrl = serializeSourceRepositories repositories
  directory : row.serviceRootDirectory = rootDirectoryOf repositories

/-- A request that gives no source and no directory. -/
structure RedeployService.Sourceless (body : RedeployService) : Prop where
  source : body.serviceSourceUrl = none
  directory : body.serviceRootDirectory = none

/-- The repositories that a redeployment reads. -/
def readSources (body : RedeployService) (row : ServiceRow) :
    Except Failure (List ServiceSourceRepository) :=
  normalizeSourceRepositories (redeploySource body row)
    (nullable (body.serviceRootDirectory.or row.serviceRootDirectory))

/-- An address that stands for itself comes back exactly if it is not JSON. -/
theorem readSources_bare_iff {body : RedeployService} (sourceless : body.Sourceless)
    {row : ServiceRow} {url : Text} (stores : Stores [{ url := url, rootDirectory := none }] row)
    (shape : IsSource { url := url, rootDirectory := none }) :
    readSources body row = .ok [{ url := url, rootDirectory := none }] ↔ url.parseJson = none := by
  have source : redeploySource body row = (url.parseJson).getD (.string url) := by
    rw [redeploySource, sourceless.source, stores.source]
    rfl
  rw [readSources, source, sourceless.directory, Option.none_or, stores.directory,
    normalizeSourceRepositories_ok_iff]
  cases parsed : url.parseJson with
  | none =>
    refine iff_of_true ⟨_, rfl, ?_, List.cons_ne_nil _ _⟩ rfl
    have settles : settle { url := url, rootDirectory := none } =
        { url := url, rootDirectory := none } :=
      congrArg (ServiceSourceRepository.mk · none) shape.trimmed
    have named : (!url.isEmpty) = true := by
      rw [Bool.not_eq_true', List.isEmpty_eq_false_iff]
      exact shape.filled
    rw [settled, List.map_singleton]
    exact (congrArg (List.filter _ [·]) settles).trans (List.filter_cons_of_pos named)
  | some value =>
    refine iff_of_false ?_ (Option.some_ne_none value)
    rintro ⟨entries, read, same, -⟩
    have less := marks_sourceEntries parsed read { url := url, rootDirectory := none }
      (same ▸ List.mem_singleton_self _)
    change marks url + 2 ≤ marks url at less
    omega

/-- A list that is stored as JSON comes back exactly if its directories are settled. -/
theorem readSources_structured_iff {body : RedeployService} (sourceless : body.Sourceless)
    {row : ServiceRow} {repositories : List ServiceSourceRepository}
    (structured : ∀ url, repositories ≠ [{ url := url, rootDirectory := none }])
    (stores : Stores repositories row) (filled : repositories ≠ [])
    (shape : ∀ repository ∈ repositories, IsSource repository) :
    readSources body row = .ok repositories ↔
      ∀ repository ∈ repositories, ∀ directory,
        repository.rootDirectory = some directory → Settled directory := by
  have source : redeploySource body row = sourcesValue repositories := by
    rw [redeploySource, sourceless.source, stores.source]
    change (serializeSourceRepositories repositories).parseJson.getD _ = _
    rw [parseJson_sources structured, Option.getD_some]
  rw [readSources, source, normalizeSourceRepositories_ok_iff]
  simp only [sourceEntries_sourcesValue, Except.ok.injEq, exists_eq_left', filled, ne_eq,
    not_false_eq_true, and_true]
  rw [settled_map_settle_iff shape]
  exact forall₂_congr fun repository inside => settle_settle_iff (shape repository inside)

theorem readSources_iff {body : RedeployService} (sourceless : body.Sourceless)
    {row : ServiceRow} {repositories : List ServiceSourceRepository}
    (stores : Stores repositories row) (filled : repositories ≠ [])
    (shape : ∀ repository ∈ repositories, IsSource repository) :
    readSources body row = .ok repositories ↔ Durable repositories := by
  by_cases bare : ∃ url, repositories = [{ url := url, rootDirectory := none }]
  · obtain ⟨url, rfl⟩ := bare
    rw [readSources_bare_iff sourceless stores (shape _ (List.mem_singleton_self _))]
    constructor
    · intro plain
      refine ⟨?_, ?_⟩
      · intro repository inside directory given
        rw [List.mem_singleton.mp inside] at given
        cases given
      · intro other same
        cases same
        exact plain
    · intro durable
      exact durable.plain url rfl
  · rw [not_exists] at bare
    rw [readSources_structured_iff sourceless bare stores filled shape]
    exact ⟨fun settled => ⟨settled, fun url same => absurd same (bare url)⟩, Durable.settled⟩

/-! ## Runs -/

/-- An operation that deploys a service again gives neither source nor directory. -/
def KeepsSource (serviceIndex : ℕ) : ServiceOperation → Prop
  | .call (.redeploy _ serviceIdx body) =>
    parseServiceIndex serviceIdx = .ok serviceIndex → body.Sourceless
  | _ => True

/-- The row of a service stores repositories. -/
def StoredBy (serviceIndex : ℕ) (repositories : List ServiceSourceRepository)
    (database : Database) : Prop :=
  ∃ row ∈ database.services, row.serviceIndex = serviceIndex ∧ Stores repositories row

/-- A redeployment of a service that gives neither source nor directory reads the repositories
back, and the agent that it deploys to is sent them. -/
structure Yields (repositories : List ServiceSourceRepository) (serviceIndex : ℕ) (hub : Hub) :
    Prop where
  read : ∀ row ∈ hub.database.services, row.serviceIndex = serviceIndex →
    ∀ body : RedeployService, body.Sourceless → readSources body row = .ok repositories
  sent : ∀ owner serviceIdx, ∀ body : RedeployService,
    parseServiceIndex serviceIdx = .ok serviceIndex → body.Sourceless →
    ((handleRedeployService owner serviceIdx body).run hub).1.isOk = true →
    ∃ socket command, command.serviceIndex = serviceIndex ∧ command.sourceUrl = repositories ∧
      .packet socket (.command (.redeploy command)) ∈
        sentSince hub ((handleRedeployService owner serviceIdx body).run hub).2

section Storage

variable {serviceIndex : ℕ} {repositories : List ServiceSourceRepository} {before after : Database}

theorem readSources_of_prepared {body : RedeployService} {service : ServiceRow}
    {portMappings : List ServicePortMapping}
    (prepared : redeploySourceAndPorts body service = .ok (repositories, portMappings)) :
    readSources body service = .ok repositories := by
  unfold redeploySourceAndPorts at prepared
  simp only [bind_eq_ok_iff] at prepared
  obtain ⟨read, given, existing, -, ends⟩ := prepared
  cases mappings : body.servicePortMappings with
  | none =>
    rw [mappings] at ends
    cases ends
    exact given
  | some value =>
    rw [mappings] at ends
    obtain ⟨kept, -, same⟩ := bind_eq_ok_iff.mp ends
    cases same
    exact given

theorem StoredBy.rewrites (stored : StoredBy serviceIndex repositories before)
    {service changed : ServiceRow} (rewrites : Rewrites service changed before after)
    (kept : service.serviceIndex = serviceIndex → Stores repositories service →
      Stores repositories changed) :
    StoredBy serviceIndex repositories after := by
  obtain ⟨row, inside, named, stores⟩ := stored
  by_cases same : row.serviceIndex = service.serviceIndex
  · obtain rfl := Table.eq_of_key inside rewrites.inside same
    exact ⟨changed, (rewrites.rows changed).mpr (.inl rfl), rewrites.index.trans named,
      kept named stores⟩
  · exact ⟨row, (rewrites.rows row).mpr (.inr ⟨inside, same⟩), named, stores⟩

/-- Repositories that come back as they are stay in the row of their service. -/
theorem StoredBy.operate {objectFilter : Members Value → Option (ℕ → Bool)}
    {state : RelayState} {operation : ServiceOperation}
    (stored : StoredBy serviceIndex repositories state.hub.database)
    (back : ∀ body : RedeployService, body.Sourceless → ∀ row, Stores repositories row →
      readSources body row = .ok repositories)
    (keeps : KeepsSource serviceIndex operation) :
    StoredBy serviceIndex repositories (operate objectFilter state operation).2.hub.database := by
  have effect := @effect_of_operation objectFilter state operation
  generalize (ServiceService.operate objectFilter state operation).2.hub.database = after at effect
  cases effect with
  | aside services _ =>
    rw [StoredBy, services]
    exact stored
  | created _ rows _ =>
    obtain ⟨row, inside, named, stores⟩ := stored
    exact ⟨row, (rows row).mpr (.inl inside), named, stores⟩
  | failed _ rewrites _ =>
    exact stored.rewrites rewrites fun _ stores => ⟨stores.source, stores.directory⟩
  | redeployed redeploys written rewrites _ =>
    refine stored.rewrites rewrites fun named stores => ?_
    have sourceless := keeps (named ▸ redeploys.located.parsed)
    have read := readSources_of_prepared redeploys.prepared.source
    obtain rfl := Except.ok.inj (read.symm.trans (back _ sourceless _ stores))
    rw [written]
    exact ⟨rfl, rfl⟩
  | removed _ rewrites _ =>
    exact stored.rewrites rewrites fun _ stores => ⟨stores.source, stores.directory⟩
  | blocked _ rewrites _ =>
    exact stored.rewrites rewrites fun _ stores => ⟨stores.source, stores.directory⟩
  | unblocked _ rewrites _ =>
    exact stored.rewrites rewrites fun _ stores => ⟨stores.source, stores.directory⟩
  | addressed _ rewrites _ _ _ =>
    exact stored.rewrites rewrites fun _ stores => ⟨stores.source, stores.directory⟩
  | published _ rewrites _ _ =>
    exact stored.rewrites rewrites fun _ stores => ⟨stores.source, stores.directory⟩
  | reported _ rewrites _ =>
    exact stored.rewrites rewrites fun _ stores => ⟨stores.source, stores.directory⟩
  | lowered lowers =>
    obtain ⟨-, change, rows, allowed⟩ := lowers
    obtain ⟨row, inside, named, stores⟩ := stored
    refine ⟨change row, ?_, ?_⟩
    · rw [Table.mem_def, rows]
      exact List.mem_map_of_mem inside
    · rcases allowed row with same | ⟨-, offline⟩
      · rw [same]
        exact ⟨named, stores⟩
      · rw [offline]
        exact ⟨named, stores.source, stores.directory⟩

/-- What is stored and comes back is what a redeployment yields. -/
theorem StoredBy.yields {hub : Hub} (stored : StoredBy serviceIndex repositories hub.database)
    (back : ∀ body : RedeployService, body.Sourceless → ∀ row, Stores repositories row →
      readSources body row = .ok repositories) :
    Yields repositories serviceIndex hub := by
  obtain ⟨row, inside, named, stores⟩ := stored
  have read : ∀ other ∈ hub.database.services, other.serviceIndex = serviceIndex →
      ∀ body : RedeployService, body.Sourceless → readSources body other = .ok repositories := by
    intro other member same body sourceless
    obtain rfl := Table.eq_of_key member inside (same.trans named.symm)
    exact back body sourceless other stores
  refine ⟨read, fun owner serviceIdx body parsed sourceless succeeds => ?_⟩
  obtain ⟨service, target, given, portMappings, env, endpoints, updated, redeployed⟩ :=
    redeployed_of_isOk succeeds
  have located := redeployed.redeploys.located
  have index : service.serviceIndex = serviceIndex :=
    Except.ok.inj (located.parsed.symm.trans parsed)
  obtain rfl := Except.ok.inj
    ((readSources_of_prepared redeployed.redeploys.prepared.source).symm.trans
      (read service located.alive.1 index body sourceless))
  obtain ⟨socket, connected, -⟩ := redeployed.reached
  refine ⟨socket, redeployCommand updated given portMappings env, ?_, rfl, ?_⟩
  · exact redeployed.rewrites.index.trans index
  · rw [redeployed.sentSince, commandPackets, connected]
    exact List.mem_append_right _ (List.mem_singleton_self _)

end Storage

/-! ## Creation -/

/-- The commands `DEPLOY` among some packets. -/
def deployCommands (packets : List Outgoing) : List DeployCommand :=
  packets.filterMap fun
    | .packet _ (.command (.deploy command)) => some command
    | _ => none

section Creation

variable {owner : Int32} {body : CreateServiceBody} {hub : Hub}

/-- A creation from the state before it to the state after it. -/
structure Created (body : CreateServiceBody) (before : Hub) (agent : AgentRow)
    (deployment : Deployment) (service : ServiceRow) (after : Hub) : Prop where
  normalized : createDeployment body = .ok deployment
  written : service = serviceRow body deployment before.database.services.next
  inside : service ∈ after.database.services
  sent : after.sent = before.sent ++ commandPackets before agent.agentUuid
    (.deploy (deployCommand body deployment service.serviceIndex))

/-- A service is created if nothing fails. -/
theorem wp_created {post : ServiceRow → Hub → Prop}
    (held : ∀ agent deployment service after, Created body hub agent deployment service after →
      post service after) :
    wp (handleCreateService owner body) post Throws hub := by
  simp only [handleCreateService, prepareCreation, wp_bind, wp_look, wp_require, wp_orThrow,
    wp_fromExcept, wp_pure, implies_true, and_true]
  intro _ agent _ _ deployment normalized
  simp only [deployNew, createService, ensureDefaultComponent, wp_bind, wp_step, wp_replaced]
  refine ⟨fun _ => ?_, fun _ => trivial, fun _ _ => trivial⟩
  apply wp_sent
  intro _ console
  have inside : serviceRow body deployment hub.database.services.next ∈
      hub.database.services.create (serviceRow body deployment) :=
    Table.mem_create.mpr (.inr rfl)
  exact held agent deployment _ _ ⟨normalized, rfl, inside, rfl⟩

theorem created_of_isOk
    (succeeds : ((handleCreateService owner body).run hub).1.isOk = true) :
    ∃ agent deployment service,
      Created body hub agent deployment service ((handleCreateService owner body).run hub).2 := by
  have ends := @wp_created owner body hub
    (fun service after => ∃ agent deployment, Created body hub agent deployment service after)
    fun agent deployment service after created => ⟨agent, deployment, created⟩
  obtain ⟨service, agent, deployment, created⟩ := exists_of_isOk ends succeeds
  exact ⟨agent, deployment, service, created⟩

/-- The normalised repositories of a request. -/
theorem isSource_of_normalized {input fallbackRootDirectory : Value}
    {repositories : List ServiceSourceRepository}
    (normalized : normalizeSourceRepositories input fallbackRootDirectory = .ok repositories) :
    repositories ≠ [] ∧ ∀ repository ∈ repositories, IsSource repository := by
  obtain ⟨entries, -, rfl, filled⟩ := normalizeSourceRepositories_ok_iff.mp normalized
  exact ⟨filled, fun repository => isSource_of_settled⟩

/-- The only `DEPLOY` has the normalised repositories of the request, which the row stores. -/
theorem Created.deployed {agent : AgentRow} {deployment : Deployment} {service : ServiceRow}
    {after : Hub} (created : Created body hub agent deployment service after)
    {command : DeployCommand} (deployed : command ∈ deployCommands (sentSince hub after)) :
    command.serviceIndex = service.serviceIndex ∧ Stores command.sourceUrl service ∧
      normalizeSourceRepositories body.serviceSourceUrl body.serviceRootDirectory =
        .ok command.sourceUrl := by
  rw [sentSince, created.sent, List.drop_left, commandPackets] at deployed
  obtain ⟨packet, inside, chosen⟩ := List.mem_filterMap.mp deployed
  obtain ⟨socket, -, rfl⟩ := List.mem_map.mp inside
  cases chosen
  have normalized := created.normalized
  simp only [createDeployment, bind_eq_ok_iff] at normalized
  obtain ⟨repositories, given, _, -, _, -, _, -, ends⟩ := normalized
  cases ends
  rw [created.written]
  exact ⟨rfl, ⟨rfl, rfl⟩, given⟩

end Creation

/-- The repositories of a request, once they are normalised, are durable. -/
def CreateServiceBody.SourceDurable (body : CreateServiceBody) : Prop :=
  ∀ repositories, normalizeSourceRepositories body.serviceSourceUrl body.serviceRootDirectory =
    .ok repositories → Durable repositories

/-- After a service has been created, the repositories that `DEPLOY` was sent with come back in
each redeployment that gives neither source nor directory, after any operations of which those
that deploy the service again give neither, exactly if they are durable. -/
theorem sources_yielded_iff (objectFilter : Members Value → Option (ℕ → Bool)) (state : RelayState)
    {owner : Int32} {body : CreateServiceBody}
    (succeeds : ((handleCreateService owner body).run state.hub).1.isOk = true)
    {command : DeployCommand}
    (deployed : command ∈ deployCommands
      (sentSince state.hub ((handleCreateService owner body).run state.hub).2)) :
    (∀ operations : List ServiceOperation,
      (∀ operation ∈ operations, KeepsSource command.serviceIndex operation) →
      Yields command.sourceUrl command.serviceIndex
        (final (operate objectFilter)
          { state with hub := ((handleCreateService owner body).run state.hub).2 }
          operations).hub) ↔
      body.SourceDurable := by
  obtain ⟨agent, deployment, service, created⟩ := created_of_isOk succeeds
  obtain ⟨index, stores, normalized⟩ := created.deployed deployed
  obtain ⟨filled, shape⟩ := isSource_of_normalized normalized
  generalize ((handleCreateService owner body).run state.hub).2 = after at created
  have stored : StoredBy command.serviceIndex command.sourceUrl after.database :=
    ⟨service, created.inside, index.symm, stores⟩
  constructor
  · intro yields repositories given
    obtain rfl := Except.ok.inj (normalized.symm.trans given)
    have now := yields [] fun operation inside => absurd inside List.not_mem_nil
    have read := now.read service created.inside index.symm {} ⟨rfl, rfl⟩
    exact (readSources_iff ⟨rfl, rfl⟩ stores filled shape).mp read
  · intro durable operations keeps
    have back (body : RedeployService) (sourceless : body.Sourceless) (row : ServiceRow)
        (stores : Stores command.sourceUrl row) : readSources body row = .ok command.sourceUrl :=
      (readSources_iff sourceless stores filled shape).mpr (durable _ normalized)
    have lasts (start : RelayState)
        (stored : StoredBy command.serviceIndex command.sourceUrl start.hub.database) :
        StoredBy command.serviceIndex command.sourceUrl
          (final (operate objectFilter) start operations).hub.database := by
      induction operations generalizing start with
      | nil => exact stored
      | cons operation operations ih =>
        refine ih (fun later inside => keeps later (List.mem_cons_of_mem _ inside)) _ ?_
        exact stored.operate back (keeps operation List.mem_cons_self)
    exact (lasts _ stored).yields back

/-- The state after a service has been created. -/
def afterCreation (body : CreateServiceBody) : Hub :=
  ((handleCreateService 1 body).run registeredAgentHub.hub).2

theorem firstService_deploys :
    deployCommands (sentSince registeredAgentHub.hub (afterCreation firstService)) ≠ [] := by
  decide +kernel

def firstCommand : DeployCommand := List.head _ firstService_deploys

theorem sources_yielded_first :
    (∀ operations : List ServiceOperation,
      (∀ operation ∈ operations, KeepsSource firstCommand.serviceIndex operation) →
      Yields firstCommand.sourceUrl firstCommand.serviceIndex
        (final (operate fun _ => none)
          { registeredAgentHub with hub := afterCreation firstService } operations).hub) ↔
      firstService.SourceDurable :=
  sources_yielded_iff _ registeredAgentHub (by decide +kernel) (List.head_mem firstService_deploys)

/-- A request whose address is the text of a list with one address. -/
def quotedService : CreateServiceBody :=
  { firstService with serviceSourceUrl := .string "[\"https://example.org/api.git\"]" }

theorem quotedService_deploys :
    deployCommands (sentSince registeredAgentHub.hub (afterCreation quotedService)) ≠ [] := by
  decide +kernel

def quotedCommand : DeployCommand := List.head _ quotedService_deploys

/-- The first redeployment reads the list. -/
theorem not_sources_yielded_quoted :
    ((handleCreateService 1 quotedService).run registeredAgentHub.hub).1.isOk = true ∧
      quotedCommand ∈
        deployCommands (sentSince registeredAgentHub.hub (afterCreation quotedService)) ∧
      ¬ ∀ operations : List ServiceOperation,
        (∀ operation ∈ operations, KeepsSource quotedCommand.serviceIndex operation) →
        Yields quotedCommand.sourceUrl quotedCommand.serviceIndex
          (final (operate fun _ => none)
            { registeredAgentHub with hub := afterCreation quotedService } operations).hub := by
  refine ⟨by decide +kernel, List.head_mem _, fun yields => ?_⟩
  have now := yields [] fun operation inside => absurd inside List.not_mem_nil
  have changed : ∃ row ∈ (afterCreation quotedService).database.services,
      row.serviceIndex = quotedCommand.serviceIndex ∧
        (readSources {} row).toOption.map (List.map ServiceSourceRepository.url) ≠
          some (quotedCommand.sourceUrl.map ServiceSourceRepository.url) := by
    decide +kernel
  obtain ⟨row, inside, index, other⟩ := changed
  rw [now.read row inside index {} ⟨rfl, rfl⟩] at other
  exact other rfl

end ServiceService

end OpticsHub
