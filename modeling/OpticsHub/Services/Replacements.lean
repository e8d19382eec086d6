import OpticsHub.Async.Failing
import OpticsHub.Services.Listing

/-!
# A query that fails while endpoints are replaced

Setting the endpoints of a service takes up to six queries: the service, its agent, the addresses
in the way, the removal of all rows, the new rows, and the copy of the subdomain in the row of the
service. They are not one transaction. A query that fails before the removal, or the removal
itself, leaves the rows as they were; if the new rows cannot be written the service is left
without any, and if the copy cannot be written the new rows stay.
-/
namespace OpticsHub

open Script Async Program Machine

namespace ServiceService

open AgentGateway

/-- Copying the subdomain of the new endpoints leaves the key of the row. -/
theorem keyed_addressed (endpoints : List ServiceEndpoint) (_ : ℤ) (row : ServiceRow) :
    ({ row with serviceSubdomain := primarySubdomain endpoints } : ServiceRow).serviceIndex =
      row.serviceIndex := rfl

/-- The queries of setting the endpoints: all but the message to the consoles. -/
def endpointQueries (owner : Int32) (serviceIdx : Text) (serviceEndpoints : Value) :
    HubProgram (ServiceRow × ServiceRow × List ServiceEndpoint) := do
  let (rawService, _) ← findOwnedServiceAndAgent owner serviceIdx
  let endpoints ← fromExcept (requestedEndpoints rawService serviceEndpoints)
  replaceServiceEndpoints rawService.serviceIndex rawService.serviceParentWorkspace endpoints
  let updated ← updateService rawService.serviceIndex
    (fun _ row => { row with serviceSubdomain := primarySubdomain endpoints })
    (keyed_addressed endpoints)
  return (rawService, updated, endpoints)

/-- The message to the consoles. -/
def announceEndpoints (queried : ServiceRow × ServiceRow × List ServiceEndpoint) :
    HubProgram (ServiceRow × List ServiceEndpoint) :=
  step fun hub => ((queried.2.1, queried.2.2),
    hub.notifyWorkspaceUpdated (some queried.1.serviceParentWorkspace))

theorem handleUpdateServiceEndpoints_eq (owner : Int32) (serviceIdx : Text) (given : Value) :
    handleUpdateServiceEndpoints owner serviceIdx given =
      endpointQueries owner serviceIdx given >>= announceEndpoints := by
  simp only [endpointQueries, bind_assoc', pure_bind', handleUpdateServiceEndpoints,
    announceEndpoints]

/-- Setting the endpoints when the query with a number, counted from zero, fails. -/
def failingUpdate (query : ℕ) (owner : Int32) (serviceIdx : Text) (given : Value) :
    HubProgram (ServiceRow × List ServiceEndpoint) :=
  failing .internal query (endpointQueries owner serviceIdx given) >>= announceEndpoints

/-- The endpoint rows of a service. -/
def rowsOf (serviceIndex : ℕ) (database : Database) : List EndpointRow :=
  database.serviceEndpoints.rows.filter fun row => row.endpointParentService == serviceIndex

/-- The endpoint rows of the service of a request are those from before. -/
def KeepsRows (owner : Int32) (serviceIdx : Text) (before after : Hub) : Prop :=
  ∀ service, Located owner serviceIdx before.database service →
    rowsOf service.serviceIndex after.database = rowsOf service.serviceIndex before.database

/-- If setting the endpoints throws because a query fails, the rows are those from before. -/
def ReplacesAtomically (query : ℕ) (owner : Int32) (serviceIdx : Text) (given : Value) (hub : Hub) :
    Prop :=
  ((failingUpdate query owner serviceIdx given).run hub).1.isOk = false →
    KeepsRows owner serviceIdx hub ((failingUpdate query owner serviceIdx given).run hub).2

/-- The number of queries for addresses that are in the way. -/
def conflictQueries (endpoints : List ServiceEndpoint) : ℕ :=
  if (publicSubdomains endpoints).isEmpty then 0 else 1

/-- The query that fails is not the one for the copy of the subdomain, and if it is the one for
the new rows, the service has had no rows. -/
def FailsEarly (query : ℕ) (owner : Int32) (serviceIdx : Text) (given : Value) (hub : Hub) :
    Prop :=
  ∀ service endpoints, Located owner serviceIdx hub.database service →
    requestedEndpoints service given = .ok endpoints →
    EndpointsFree service.serviceParentWorkspace service.serviceIndex endpoints hub.database →
    query ≠ conflictQueries endpoints + 4 ∧
      (query = conflictQueries endpoints + 3 → rowsOf service.serviceIndex hub.database = [])

section Queries

variable {owner : Int32} {serviceIdx : Text} {given : Value} {hub : Hub} {service : ServiceRow}
  {endpoints : List ServiceEndpoint} {serviceIndex workspaceIndex : ℕ} {error : Failure}
  {left : ℕ} {fail : Failure → Hub → Prop}

/-- The first two queries find the service and its agent. -/
theorem wpFailing_located (located : Located owner serviceIdx hub.database service)
    {post : ℕ → ServiceRow × Option AgentRow → Hub → Prop} :
    wpFailing error left (findOwnedServiceAndAgent owner serviceIdx) post fail hub ↔
      (left < 2 → fail error hub) ∧
        ∀ fewer, left = fewer + 2 → post fewer (service, agentOfService service hub.database) hub := by
  obtain ⟨index, parsed, bounded, owned⟩ := located
  rw [findOwnedServiceAndAgent, parsed]
  simp only [wpFailing_bind, wpFailing_fromExcept, wpFailing_require, wpFailing_look,
    wpFailing_orThrow, wpFailing_pure]
  constructor
  · rintro ⟨held, -⟩
    obtain ⟨first, later⟩ := (held index rfl).1 bounded
    refine ⟨fun early => ?_, fun fewer same => ?_⟩
    · rcases Nat.eq_zero_or_pos left with none | some
      · exact first none
      · exact ((later (left - 1) (by omega)).1 service owned).1 (by omega)
    · exact ((later (fewer + 1) (by omega)).1 service owned).2 fewer rfl
  · rintro ⟨early, there⟩
    refine ⟨fun found same => ?_, fun failure failed => by cases failed⟩
    obtain rfl := Except.ok.inj same
    refine ⟨fun _ => ⟨fun none => early (by omega), fun fewer more => ⟨fun other here => ?_,
      fun missing => ?_⟩⟩, fun beyond => absurd bounded beyond⟩
    · obtain rfl := Option.some.inj (owned.symm.trans here)
      exact ⟨fun none => early (by omega), fun rest again => there rest (by omega)⟩
    · rw [owned] at missing
      cases missing

/-- The queries may also find no service. -/
theorem wpFailing_found (here : ∀ thrown, fail thrown hub)
    {post : ℕ → ServiceRow × Option AgentRow → Hub → Prop}
    (held : ∀ service, Located owner serviceIdx hub.database service → ∀ fewer, left = fewer + 2 →
      post fewer (service, agentOfService service hub.database) hub) :
    wpFailing error left (findOwnedServiceAndAgent owner serviceIdx) post fail hub := by
  rw [findOwnedServiceAndAgent]
  simp only [wpFailing_bind, wpFailing_fromExcept, wpFailing_require, wpFailing_look,
    wpFailing_orThrow, wpFailing_pure, here, implies_true, true_and, and_true]
  intro index parsed bounded fewer more service owned rest again
  exact held service ⟨index, parsed, bounded, owned⟩ rest (by omega)

/-- Endpoints that are free pass the checks, after a query if any of them is public. -/
theorem wpFailing_checked
    (free : EndpointsFree workspaceIndex serviceIndex endpoints hub.database)
    {post : ℕ → Unit → Hub → Prop} :
    wpFailing error left (checkEndpoints serviceIndex workspaceIndex endpoints) post fail hub ↔
      (left < conflictQueries endpoints → fail error hub) ∧
        ∀ fewer, left = fewer + conflictQueries endpoints → post fewer () hub := by
  obtain ⟨apart, untaken⟩ := free
  rw [checkEndpoints, wpFailing_bind, wpFailing_require, conflictQueries]
  by_cases empty : (publicSubdomains endpoints).isEmpty = true
  · rw [if_pos empty, if_pos empty, wpFailing_pure]
    simp [apart]
  · rw [if_neg empty, if_neg empty]
    simp only [wpFailing_bind, wpFailing_look, wpFailing_require]
    simp [apart, untaken]

/-- Endpoints that are not free fail the checks. -/
theorem wpFailing_unchecked (here : ∀ thrown, fail thrown hub)
    {post : ℕ → Unit → Hub → Prop}
    (held : EndpointsFree workspaceIndex serviceIndex endpoints hub.database →
      ∀ fewer, left = fewer + conflictQueries endpoints → post fewer () hub) :
    wpFailing error left (checkEndpoints serviceIndex workspaceIndex endpoints) post fail hub := by
  by_cases free : EndpointsFree workspaceIndex serviceIndex endpoints hub.database
  · exact (wpFailing_checked free).mpr ⟨fun _ => here _, held free⟩
  · rw [checkEndpoints, wpFailing_bind, wpFailing_require]
    refine ⟨fun apart => ?_, fun _ => here _⟩
    split
    · rename_i empty
      rw [List.isEmpty_iff] at empty
      refine absurd ⟨apart, ?_⟩ free
      rw [empty]
      exact takenEndpoint_nil _ _ _
    · simp only [wpFailing_bind, wpFailing_look, wpFailing_require]
      refine ⟨fun _ => here _, fun _ _ => ⟨fun untaken => ?_, fun _ => here _⟩⟩
      exact absurd ⟨apart, Option.isNone_iff_eq_none.mp untaken⟩ free

/-- The removal of the rows comes before the new ones. -/
theorem wpFailing_written (filled : endpoints ≠ []) {post : ℕ → Unit → Hub → Prop} :
    wpFailing error left (do
        deleteEndpoints serviceIndex
        if endpoints.isEmpty then pure ()
        else createEndpoints serviceIndex workspaceIndex endpoints) post fail hub ↔
      (left = 0 → fail error hub) ∧
      (left = 1 → fail error (hub.write fun database =>
        { database with
          serviceEndpoints := database.serviceEndpoints.deleteMany fun endpoint =>
            endpoint.endpointParentService == serviceIndex })) ∧
      ∀ fewer, left = fewer + 2 → post fewer () (hub.write fun database =>
        { database with
          serviceEndpoints :=
            published workspaceIndex serviceIndex endpoints database.serviceEndpoints }) := by
  rw [if_neg (by rwa [List.isEmpty_iff])]
  simp only [deleteEndpoints, createEndpoints, wpFailing_bind, wpFailing_step]
  refine and_congr_right fun _ => ?_
  constructor
  · intro held
    exact ⟨fun one => (held 0 (by omega)).1 rfl,
      fun fewer more => (held (fewer + 1) (by omega)).2 fewer rfl⟩
  · rintro ⟨removed, written⟩ fewer more
    exact ⟨fun none => removed (by omega), fun rest again => written rest (by omega)⟩

/-- The last query writes the copy of the subdomain. -/
theorem wpFailing_copied (inside : service ∈ hub.database.services)
    (alive : service.serviceDeletedAt = none) (subdomain : Option Text)
    {post : ℕ → ServiceRow → Hub → Prop} (last : left = 0 → fail error hub)
    (held : ∀ fewer row after, left = fewer + 1 → post fewer row after) :
    wpFailing error left (updateService service.serviceIndex fun _ row =>
      { row with serviceSubdomain := subdomain }) post fail hub := by
  have found : hub.database.services.findFirst
      (fun row => row.serviceIndex == service.serviceIndex) = some service :=
    Table.findFirst_of_key inside (beq_self_eq_true _) fun _ _ => beq_iff_eq.mp
  have clear : ¬ clashes hub.database.services { service with serviceSubdomain := subdomain } =
      true := not_clashes alive
  rw [updateService, wpFailing_atomically]
  refine ⟨last, fun fewer more => ⟨fun row _ => held fewer row _ more, fun thrown failed => ?_⟩⟩
  rw [found] at failed
  dsimp only at failed
  rw [if_neg clear] at failed
  cases failed

end Queries

/-! ## The rows afterwards -/

theorem rowsOf_deleted (serviceIndex : ℕ) (hub : Hub) :
    rowsOf serviceIndex (hub.write fun database =>
      { database with
        serviceEndpoints := database.serviceEndpoints.deleteMany fun endpoint =>
          endpoint.endpointParentService == serviceIndex }).database = [] := by
  refine List.filter_eq_nil_iff.mpr fun row inside parent => ?_
  have other := (Table.mem_deleteMany.mp (Table.mem_def.mpr inside)).2
  rw [other] at parent
  exact Bool.false_ne_true parent

/-- New rows are none of those from before. -/
theorem rowsOf_published {workspaceIndex serviceIndex : ℕ} {endpoints : List ServiceEndpoint}
    (filled : endpoints ≠ []) (hub : Hub) :
    rowsOf serviceIndex (hub.write fun database =>
      { database with
        serviceEndpoints :=
          published workspaceIndex serviceIndex endpoints database.serviceEndpoints }).database ≠
      rowsOf serviceIndex hub.database := by
  intro same
  obtain ⟨endpoint, member⟩ := List.exists_mem_of_ne_nil endpoints filled
  obtain ⟨n, made⟩ := @Table.exists_mem_createMany _ _
    (hub.database.serviceEndpoints.deleteMany fun row => row.endpointParentService == serviceIndex)
    _ (endpointRow workspaceIndex serviceIndex) (fun _ _ => rfl) endpoints endpoint member
  have inside : endpointRow workspaceIndex serviceIndex endpoint n ∈
      rowsOf serviceIndex hub.database := by
    rw [← same]
    exact List.mem_filter.mpr ⟨made, beq_self_eq_true _⟩
  have older := hub.database.serviceEndpoints.below _ (List.mem_filter.mp inside).1
  rcases Table.le_key_of_mem_createMany made with kept | new
  · exact absurd (Table.mem_deleteMany.mp kept).2 (by simp [endpointRow])
  · exact absurd older (Nat.not_lt.mpr new)

/-- There is always an endpoint: without one in the request they are made from mappings. -/
theorem requestedEndpoints_ne_nil {service : ServiceRow} {given : Value}
    {endpoints : List ServiceEndpoint}
    (asked : requestedEndpoints service given = .ok endpoints) : endpoints ≠ [] := by
  simp only [requestedEndpoints, normalizeEndpoints, bind_eq_ok_iff] at asked
  obtain ⟨portMappings, stored, reads, -, ends⟩ := asked
  split at ends
  · cases ends
    intro empty
    have mapped := congrArg List.length empty
    rw [List.length_map, List.length_zipIdx] at mapped
    exact normalizePortMappings_ne_nil stored (List.eq_nil_of_length_eq_zero mapped)
  · rename_i filled
    cases ends
    simpa using filled

section Failures

variable {query : ℕ} {owner : Int32} {serviceIdx : Text} {given : Value} {hub : Hub}

/-- The queries once the endpoints are known to be free. -/
theorem wpFailing_replaced {service : ServiceRow} {endpoints : List ServiceEndpoint}
    (located : Located owner serviceIdx hub.database service) (filled : endpoints ≠ [])
    (free : EndpointsFree service.serviceParentWorkspace service.serviceIndex endpoints
      hub.database)
    {left : ℕ} {post : ℕ → ServiceRow × ServiceRow × List ServiceEndpoint → Hub → Prop}
    {fail : Failure → Hub → Prop}
    (here : left ≤ conflictQueries endpoints → fail .internal hub)
    (removed : left = conflictQueries endpoints + 1 → fail .internal (hub.write fun database =>
      { database with
        serviceEndpoints := database.serviceEndpoints.deleteMany fun endpoint =>
          endpoint.endpointParentService == service.serviceIndex }))
    (written : left = conflictQueries endpoints + 2 → fail .internal (hub.write fun database =>
      { database with
        serviceEndpoints := published service.serviceParentWorkspace service.serviceIndex
          endpoints database.serviceEndpoints }))
    (done : ∀ fewer answer after, left = fewer + conflictQueries endpoints + 3 →
      post fewer answer after) :
    wpFailing .internal left (do
        replaceServiceEndpoints service.serviceIndex service.serviceParentWorkspace endpoints
        let updated ← updateService service.serviceIndex fun _ row =>
          { row with serviceSubdomain := primarySubdomain endpoints }
        return (service, updated, endpoints)) post fail hub := by
  obtain ⟨inside, alive⟩ := located.alive
  rw [wpFailing_bind, replaceServiceEndpoints, wpFailing_bind, wpFailing_checked free]
  refine ⟨fun few => here (Nat.le_of_lt few), fun afterChecks checked => ?_⟩
  rw [wpFailing_written filled]
  refine ⟨fun none => here (by omega), fun one => removed (by omega), fun afterWrites wrote => ?_⟩
  rw [wpFailing_bind]
  apply wpFailing_copied
  · exact inside
  · exact alive
  · intro last
    exact written (by omega)
  · intro fewer row after more
    rw [wpFailing_pure]
    exact done fewer _ after (by omega)

/-- A query that fails early leaves the rows as they were. -/
theorem keepsRows_of_early (early : FailsEarly query owner serviceIdx given hub) :
    wp (failingUpdate query owner serviceIdx given) (fun _ _ => True)
      (fun _ after => KeepsRows owner serviceIdx hub after) hub := by
  have same : KeepsRows owner serviceIdx hub hub := fun _ _ => rfl
  rw [failingUpdate, wp_bind, wp_failing, endpointQueries, wpFailing_bind]
  refine wpFailing_found (fun _ => same) fun service located left found => ?_
  rw [wpFailing_bind, wpFailing_fromExcept]
  refine ⟨fun endpoints asked => ?_, fun _ _ => same⟩
  by_cases free : EndpointsFree service.serviceParentWorkspace service.serviceIndex endpoints
      hub.database
  · obtain ⟨other, rowless⟩ := early service endpoints located asked free
    refine wpFailing_replaced located (requestedEndpoints_ne_nil asked) free (fun _ => same) ?_ ?_
      fun _ _ _ _ => trivial
    · intro removed other located'
      obtain rfl := located.unique located'
      rw [rowsOf_deleted, rowless (by omega)]
    · intro written
      exact absurd (show query = conflictQueries endpoints + 4 by omega) other
  · rw [wpFailing_bind, replaceServiceEndpoints, wpFailing_bind]
    exact wpFailing_unchecked (fun _ => same) fun fits => absurd fits free

/-- A query that fails late does not. -/
theorem not_keepsRows_of_late (late : ¬ FailsEarly query owner serviceIdx given hub) :
    wp (failingUpdate query owner serviceIdx given) (fun _ _ => False)
      (fun _ after => ¬ KeepsRows owner serviceIdx hub after) hub := by
  simp only [FailsEarly, not_forall] at late
  obtain ⟨service, endpoints, located, asked, free, late⟩ := late
  have filled := requestedEndpoints_ne_nil asked
  have position : query = conflictQueries endpoints + 4 ∨
      query = conflictQueries endpoints + 3 ∧ rowsOf service.serviceIndex hub.database ≠ [] := by
    by_contra elsewhere
    rw [not_or, not_and, not_not] at elsewhere
    exact late elsewhere
  rw [failingUpdate, wp_bind, wp_failing, endpointQueries, wpFailing_bind,
    wpFailing_located located]
  refine ⟨fun first => ?_, fun left found => ?_⟩
  · rcases position with last | ⟨last, -⟩ <;> omega
  rw [wpFailing_bind, wpFailing_fromExcept]
  refine ⟨fun endpoints' asked' => ?_, fun failure failed => ?_⟩
  · obtain rfl := Except.ok.inj (asked.symm.trans asked')
    refine wpFailing_replaced located filled free ?_ ?_ ?_ ?_
    · intro few
      rcases position with last | ⟨last, -⟩ <;> omega
    · intro removed keeps
      rcases position with last | ⟨-, rows⟩
      · omega
      · exact rows ((keeps service located).symm.trans (rowsOf_deleted _ _))
    · intro written keeps
      exact rowsOf_published filled hub (keeps service located)
    · intro fewer answer after more
      rcases position with last | ⟨last, -⟩ <;> omega
  · rw [failed] at asked
    cases asked

/-- If a query fails, the rows of the service are those from before exactly if it fails early. -/
theorem replacesAtomically_iff (query : ℕ) (owner : Int32) (serviceIdx : Text) (given : Value)
    (hub : Hub) :
    ReplacesAtomically query owner serviceIdx given hub ↔
      FailsEarly query owner serviceIdx given hub := by
  unfold ReplacesAtomically
  constructor
  · intro atomic
    by_contra late
    have ends := (wp_iff_run _).mp (not_keepsRows_of_late late)
    cases outcome : (failingUpdate query owner serviceIdx given).run hub with
    | mk result after =>
      rw [outcome] at ends atomic
      cases result with
      | ok answer => exact ends
      | error failure => exact ends (atomic rfl)
  · intro early throws
    have ends := (wp_iff_run _).mp (keepsRows_of_early early)
    cases outcome : (failingUpdate query owner serviceIdx given).run hub with
    | mk result after =>
      rw [outcome] at ends throws
      cases result with
      | ok answer => cases throws
      | error failure => exact ends

end Failures

/-- The new rows cannot be written, and the service has lost the one it had. -/
theorem not_replacesAtomically_hosting :
    ((failingUpdate 4 1 "1" (endpointWith "a")).run hostingAgentHub.hub).1.isOk = false ∧
      ¬ ReplacesAtomically 4 1 "1" (endpointWith "a") hostingAgentHub.hub := by
  refine ⟨by decide +kernel, fun atomic => ?_⟩
  obtain ⟨service, located⟩ := @located_of_updated 1 "1" (endpointWith "a") hostingAgentHub.hub
    (by decide +kernel)
  have index : ∀ row ∈ hostingAgentHub.hub.database.services, row.serviceIndex = 1 := by
    decide +kernel
  have lost : (rowsOf 1 ((failingUpdate 4 1 "1" (endpointWith "a")).run
      hostingAgentHub.hub).2.database).length ≠
        (rowsOf 1 hostingAgentHub.hub.database).length := by
    decide +kernel
  have kept := atomic (by decide +kernel) service located
  rw [index service located.alive.1] at kept
  exact lost (congrArg List.length kept)

end ServiceService

end OpticsHub
