import OpticsHub.Gateway.Published
import OpticsHub.Services.Representatives
import OpticsHub.Services.Sources

/-!
# Addresses that are shown and passed back

The list of services shows the endpoint rows of each service, and setting the endpoints answers
with what was set. Both answers have a null for an endpoint without a subdomain, and the endpoints
of a request are normalised with a null read as the text `null`. So a list that is passed back as
it was shown changes every endpoint without a subdomain; it also loses the endpoints whose ports
are out of range, and it renames those without a component.
-/
namespace OpticsHub

open Script Async Program Machine

/-- What an endpoint row shows, but for its index. -/
structure ShownEndpoint where
  componentName : Option Text
  subdomain : Option Text
  hostPort : ℤ
  containerPort : ℤ
  deriving DecidableEq

def EndpointRow.shown (row : EndpointRow) : ShownEndpoint where
  componentName := row.endpointComponentName
  subdomain := row.endpointSubdomain
  hostPort := row.endpointHostPort
  containerPort := row.endpointContainerPort

def ServiceEndpoint.shown (endpoint : ServiceEndpoint) : ShownEndpoint where
  componentName := some endpoint.componentName
  subdomain := endpoint.subdomain
  hostPort := endpoint.hostPort
  containerPort := endpoint.containerPort

namespace ServiceService

open AgentGateway AgentService

/-! ## The list of services -/

/-- A component in the list of services. -/
structure ListedComponent where
  componentIndex : ℕ
  componentName : Text
  containerName : Option Text
  status : ServiceComponentStatus
  health : Option Text
  exitCode : Option ℤ

/-- An endpoint in the list of services. -/
structure ListedEndpoint where
  endpointIndex : ℕ
  componentName : Option Text
  subdomain : Option Text
  hostPort : ℤ
  containerPort : ℤ

/-- A service in the list of services. -/
structure ListedService where
  serviceIndex : ℕ
  serviceName : Text
  servicePort : ℤ
  serviceHostPort : ℤ
  serviceContainerPort : ℤ
  servicePortMappings : List ServicePortMapping
  serviceSourceUrl : Text
  serviceRootDirectory : Option Text
  serviceEnv : Members Text
  serviceStatus : ServiceStatus
  trafficBlockedAt : Option ℤ
  trafficBlockMode : TrafficBlockMode
  trafficBlockReason : Option Text
  serviceSubdomain : Option Text
  serviceVersion : Text
  serviceDeployPreset : DeployPreset
  agentIndex : ℕ
  agentCode : Option Text
  agentName : Option Text
  agentUuid : Option Text
  components : List ListedComponent
  endpoints : List ListedEndpoint

/-- The endpoint rows of a service that are not deleted, by their index. -/
def shownEndpoints (serviceIndex : ℕ) (database : Database) : List EndpointRow :=
  database.serviceEndpoints.rows.filter fun row =>
    row.endpointParentService == serviceIndex && row.endpointDeletedAt.isNone

/-- The component rows of a service that are not deleted, by their index. -/
def shownComponents (serviceIndex : ℕ) (database : Database) : List ComponentRow :=
  database.serviceComponents.rows.filter fun row =>
    row.componentParentService == serviceIndex && row.componentDeletedAt.isNone

def listedComponent (row : ComponentRow) : ListedComponent where
  componentIndex := row.componentIndex
  componentName := row.componentName
  containerName := row.componentContainerName
  status := row.componentStatus
  health := row.componentHealth
  exitCode := row.componentExitCode

def listedEndpoint (row : EndpointRow) : ListedEndpoint where
  endpointIndex := row.endpointIndex
  componentName := row.endpointComponentName
  subdomain := row.endpointSubdomain
  hostPort := row.endpointHostPort
  containerPort := row.endpointContainerPort

/-- The entry of a service. Its mappings are those of its endpoints, and the stored ones only in
the absence of endpoints, but the stored ones are normalised in any case. -/
def listedService (database : Database) (service : ServiceRow) : Except Failure ListedService := do
  let endpoints := shownEndpoints service.serviceIndex database
  let agent := database.agents.findFirst fun agent =>
    agent.agentIndex == service.serviceParentAgent
  let endpointPortMappings : List ServicePortMapping := endpoints.map fun row =>
    { hostPort := row.endpointHostPort, containerPort := row.endpointContainerPort }
  let fallbackPortMappings ← storedMappings service
  let env ← normalizeEnv (service.serviceEnv.getD .null)
  return {
    serviceIndex := service.serviceIndex
    serviceName := service.serviceName
    servicePort := service.servicePort
    serviceHostPort := service.serviceHostPort.getD service.servicePort
    serviceContainerPort := service.serviceContainerPort.getD service.servicePort
    servicePortMappings :=
      if endpointPortMappings.isEmpty then fallbackPortMappings else endpointPortMappings
    serviceSourceUrl := service.serviceSourceUrl
    serviceRootDirectory := service.serviceRootDirectory
    serviceEnv := env
    serviceStatus := service.serviceStatus
    trafficBlockedAt := service.serviceTrafficBlockedAt
    trafficBlockMode := service.serviceTrafficBlockMode
    trafficBlockReason := service.serviceTrafficBlockReason
    serviceSubdomain :=
      (endpoints.filterMap EndpointRow.endpointSubdomain).head?.or service.serviceSubdomain
    serviceVersion := service.serviceVersion
    serviceDeployPreset := service.serviceDeployPreset
    agentIndex := service.serviceParentAgent
    agentCode := agent.map AgentRow.agentCode
    agentName := agent.map AgentRow.agentName
    agentUuid := agent.map AgentRow.agentUuid
    components := (shownComponents service.serviceIndex database).map listedComponent
    endpoints := endpoints.map listedEndpoint }

/-- The services of a workspace that are not deleted, the latest first. -/
def workspaceServices (workspaceIndex : ℕ) (database : Database) : List ServiceRow :=
  (database.services.rows.filter fun service =>
    service.serviceParentWorkspace == workspaceIndex && service.serviceDeletedAt.isNone).reverse

def handleGetServiceList (owner : Int32) (workspaceIdx : ℕ) :
    HubProgram (List ListedService) := do
  let owned ← look fun hub => ownedBy hub.database owner workspaceIdx
  require (owned = true) workspaceNotFound
  let database ← look Hub.database
  fromExcept ((workspaceServices workspaceIdx database).mapM (listedService database))

/-! ## What comes back -/

/-- An entry of the answer to setting the endpoints. -/
def shownEntry (shown : ShownEndpoint) : Members Value :=
  [("componentName", nullable shown.componentName), ("subdomain", nullable shown.subdomain),
    ("hostPort", portValue shown.hostPort), ("containerPort", portValue shown.containerPort)]

/-- An entry of the list of services, which has the index of the row as well. -/
def listedEntry (endpoint : ListedEndpoint) : Members Value :=
  ("endpointIndex", portValue endpoint.endpointIndex) ::
    shownEntry ⟨endpoint.componentName, endpoint.subdomain, endpoint.hostPort,
      endpoint.containerPort⟩

/-- A list of endpoints that has been returned by the Hub in its present state. -/
inductive Returned (owner : Int32) (serviceIdx : Text) : Hub → Value → Prop where
  | listed {hub : Hub} {workspaceIdx : ℕ} {services : List ListedService} {service : ListedService}
      (answered : ((handleGetServiceList owner workspaceIdx).run hub).1 = .ok services)
      (inside : service ∈ services)
      (named : parseServiceIndex serviceIdx = .ok service.serviceIndex) :
      Returned owner serviceIdx hub
        (.array (service.endpoints.map fun endpoint => .object (listedEntry endpoint)))
  | updated {before : Hub} {given : Value} {endpoints : List ServiceEndpoint}
      (answered : ((handleUpdateServiceEndpoints owner serviceIdx given).run
        before).1.toOption.map Prod.snd = some endpoints) :
      Returned owner serviceIdx ((handleUpdateServiceEndpoints owner serviceIdx given).run before).2
        (.array (endpoints.map fun endpoint => .object (shownEntry endpoint.shown)))

/-- Passing a list back succeeds and changes neither the endpoints of the service nor its
subdomain. -/
def UpdatesIdly (owner : Int32) (serviceIdx : Text) (given : Value) (hub : Hub) : Prop :=
  ((handleUpdateServiceEndpoints owner serviceIdx given).run hub).1.isOk = true ∧
    ∀ service, Located owner serviceIdx hub.database service →
      let after := ((handleUpdateServiceEndpoints owner serviceIdx given).run hub).2.database
      (shownEndpoints service.serviceIndex after).map EndpointRow.shown =
        (shownEndpoints service.serviceIndex hub.database).map EndpointRow.shown ∧
      ∀ row ∈ after.services, row.serviceIndex = service.serviceIndex →
        row.serviceSubdomain = service.serviceSubdomain

/-! ## What is read from an entry -/

/-- Both ports of an endpoint are within range. -/
def ValidPorts (shown : ShownEndpoint) : Prop :=
  InRange shown.hostPort ∧ InRange shown.containerPort

instance (shown : ShownEndpoint) : Decidable (ValidPorts shown) :=
  inferInstanceAs (Decidable (_ ∧ _))

/-- A name without the white space around it, or the default one if nothing is left. -/
def keptName (defaultName name : Text) : Text :=
  if name.trim.isEmpty then defaultName else name.trim

/-- The endpoint that is read from an entry: the text of a null is `null`. -/
def readBack (defaultName : Text) (shown : ShownEndpoint) : ServiceEndpoint where
  hostPort := shown.hostPort
  containerPort := shown.containerPort
  componentName := keptName defaultName (shown.componentName.getD defaultName)
  subdomain := normalizeServiceSubdomain (some (shown.subdomain.getD "null"))

theorem portOf_portValue (port : ℤ) :
    portOf (portValue port) = .ok (if InRange port then some port else none) := by
  by_cases bounded : InRange port
  · rw [if_pos bounded]
    exact portOf_ofInt bounded
  · rw [if_neg bounded, portOf, bind_eq_ok_iff]
    refine ⟨.finite (Decimal.ofInt port), rfl, congrArg Except.ok ?_⟩
    rw [Number.toInteger?, Decimal.toInt?_ofInt]
    refine Option.filter_eq_none_iff.mpr fun other same => ?_
    obtain rfl := Option.some.inj same
    exact fun held => bounded (of_decide_eq_true held)

/-- The members that are read show an endpoint. -/
structure ShowsMembers (defaultName : Text) (members : Members Value) (shown : ShownEndpoint) :
    Prop where
  hostPort : eitherMember members "hostPort" "endpointHostPort" = portValue shown.hostPort
  containerPort : eitherMember members "containerPort" "endpointContainerPort" =
    portValue shown.containerPort
  subdomain : (Members.own members "subdomain").getD .undefined = nullable shown.subdomain
  componentName : (Value.orElse
    (some (eitherMember members "componentName" "endpointComponentName")) none).getD
      (.string defaultName) = .string (shown.componentName.getD defaultName)

/-- An entry without valid ports is dropped, and any other is read if its subdomain is formed. -/
theorem ShowsMembers.endpointOf_eq {defaultName : Text} {members : Members Value}
    {shown : ShownEndpoint} (shows : ShowsMembers defaultName members shown) :
    endpointOf defaultName (.object members) =
      if ValidPorts shown then
        assertServiceSubdomainFormat (readBack defaultName shown).subdomain >>= fun _ =>
          .ok (some (readBack defaultName shown))
      else .ok none := by
  have host := portOf_portValue shown.hostPort
  have container := portOf_portValue shown.containerPort
  rw [← shows.hostPort] at host
  rw [← shows.containerPort] at container
  change (portOf (eitherMember members "hostPort" "endpointHostPort") >>= fun hostPort =>
    portOf (eitherMember members "containerPort" "endpointContainerPort") >>= _) = _
  rw [host, container]
  by_cases ports : ValidPorts shown
  · rw [if_pos ports, if_pos ports.1, if_pos ports.2]
    simp only [bind, Except.bind, shows.subdomain, shows.componentName]
    cases named : shown.subdomain with
    | none =>
      rw [readBack, named]
      rfl
    | some text =>
      rw [readBack, named]
      rfl
  · rw [if_neg ports]
    by_cases host : InRange shown.hostPort
    · rw [if_pos host, if_neg fun container => ports ⟨host, container⟩]
      rfl
    · rw [if_neg host]
      by_cases container : InRange shown.containerPort
      · rw [if_pos container]
        rfl
      · rw [if_neg container]
        rfl

theorem shows_shownEntry (defaultName : Text) (shown : ShownEndpoint) :
    ShowsMembers defaultName (shownEntry shown) shown := by
  refine ⟨rfl, rfl, rfl, ?_⟩
  cases shown with
  | mk componentName subdomain hostPort containerPort =>
    cases componentName with
    | none => rfl
    | some name => rfl

theorem shows_listedEntry (defaultName : Text) (endpoint : ListedEndpoint) :
    ShowsMembers defaultName (listedEntry endpoint) ⟨endpoint.componentName, endpoint.subdomain,
      endpoint.hostPort, endpoint.containerPort⟩ := by
  refine ⟨rfl, rfl, rfl, ?_⟩
  cases endpoint with
  | mk endpointIndex componentName subdomain hostPort containerPort =>
    cases componentName with
    | none => rfl
    | some name => rfl

/-- The subdomain that is read from an entry is accepted. -/
def Formed (defaultName : Text) (shown : ShownEndpoint) : Prop :=
  assertServiceSubdomainFormat (readBack defaultName shown).subdomain = .ok ()

theorem ShowsMembers.endpointOf_ok_iff {defaultName : Text} {members : Members Value}
    {shown : ShownEndpoint} (shows : ShowsMembers defaultName members shown)
    {read : Option ServiceEndpoint} :
    endpointOf defaultName (.object members) = .ok read ↔
      (ValidPorts shown → Formed defaultName shown) ∧
        (if ValidPorts shown then some (readBack defaultName shown) else none) = read := by
  rw [shows.endpointOf_eq]
  by_cases ports : ValidPorts shown
  · rw [if_pos ports, if_pos ports, bind_eq_ok_iff]
    constructor
    · rintro ⟨⟨⟩, formed, ends⟩
      exact ⟨fun _ => formed, Except.ok.inj ends⟩
    · rintro ⟨formed, rfl⟩
      exact ⟨(), formed ports, rfl⟩
  · rw [if_neg ports, if_neg ports, Except.ok.injEq]
    exact (and_iff_right fun valid => absurd valid ports).symm

/-- The endpoints that are made from the mappings in the absence of given ones. -/
def mappedEndpoints (portMappings : List ServicePortMapping) (defaultName : Text)
    (existingPrimarySubdomain : Option Text) : List ServiceEndpoint :=
  portMappings.zipIdx.map fun indexed =>
    { hostPort := indexed.1.hostPort
      containerPort := indexed.1.containerPort
      componentName := defaultName
      subdomain := if indexed.2 = 0 then existingPrimarySubdomain else none }

theorem reduceOption_map_ite {α β : Type} {selected : α → Prop} [DecidablePred selected]
    (view : α → β) (items : List α) :
    (items.map fun item => if selected item then some (view item) else none).reduceOption =
      (items.filter fun item => decide (selected item)).map view := by
  induction items with
  | nil => rfl
  | cons item rest ih =>
    by_cases here : selected item
    · rw [List.map_cons, if_pos here, List.reduceOption_cons_of_some, ih,
        List.filter_cons, if_pos (decide_eq_true here), List.map_cons]
    · rw [List.map_cons, if_neg here, List.reduceOption_cons_of_none, ih,
        List.filter_cons, if_neg fun held => here (of_decide_eq_true held)]

/-- What a list of entries comes to: those with valid ports, or else the mappings. -/
theorem normalizeEndpoints_entries_iff {ι : Type} {items : List ι} {entry : ι → Members Value}
    {view : ι → ShownEndpoint} {portMappings : List ServicePortMapping} {serviceName : Text}
    {deployPreset : DeployPreset} {existingPrimarySubdomain : Option Text}
    (shows : ∀ item, ShowsMembers (defaultComponentName serviceName deployPreset) (entry item)
      (view item)) {endpoints : List ServiceEndpoint} :
    normalizeEndpoints (.array (items.map fun item => .object (entry item))) portMappings
        serviceName deployPreset existingPrimarySubdomain = .ok endpoints ↔
      (∀ shown ∈ items.map view, ValidPorts shown →
        Formed (defaultComponentName serviceName deployPreset) shown) ∧
      (if ((items.map view).filter fun shown => decide (ValidPorts shown)).isEmpty then
          mappedEndpoints portMappings (defaultComponentName serviceName deployPreset)
            existingPrimarySubdomain
        else ((items.map view).filter fun shown => decide (ValidPorts shown)).map
          (readBack (defaultComponentName serviceName deployPreset))) = endpoints := by
  generalize named : defaultComponentName serviceName deployPreset = defaultName at shows ⊢
  have each (reads : List (Option ServiceEndpoint)) :
      (items.map fun item => Value.object (entry item)).mapM (endpointOf defaultName) =
          .ok reads ↔
        (∀ shown ∈ items.map view, ValidPorts shown → Formed defaultName shown) ∧
        ((items.map view).map fun shown =>
          if ValidPorts shown then some (readBack defaultName shown) else none) = reads := by
    simp only [mapM_eq_ok_iff, List.forall₂_map_left_iff, (shows _).endpointOf_ok_iff,
      List.forall₂_and_left, List.forall_mem_map]
    refine and_congr_right fun _ => ?_
    rw [← List.forall₂_eq_eq_eq, List.forall₂_map_left_iff, List.forall₂_map_left_iff]
  have whole : normalizeEndpoints (.array (items.map fun item => .object (entry item)))
      portMappings serviceName deployPreset existingPrimarySubdomain =
      (items.map fun item => Value.object (entry item)).mapM (endpointOf defaultName) >>=
        fun reads => .ok (if reads.reduceOption.isEmpty then
          mappedEndpoints portMappings defaultName existingPrimarySubdomain
          else reads.reduceOption) := by
    unfold normalizeEndpoints
    rw [named]
    refine congrArg (Bind.bind _) (funext fun reads => ?_)
    dsimp only
    split <;> rfl
  have kept := @reduceOption_map_ite _ _ ValidPorts _ (readBack defaultName) (items.map view)
  rw [whole, bind_eq_ok_iff]
  simp only [each]
  constructor
  · rintro ⟨reads, ⟨formed, rfl⟩, ends⟩
    rw [kept, List.isEmpty_map] at ends
    exact ⟨formed, Except.ok.inj ends⟩
  · rintro ⟨formed, rfl⟩
    refine ⟨_, ⟨formed, rfl⟩, ?_⟩
    rw [kept, List.isEmpty_map]

/-! ## Lists that come back unchanged -/

/-- An endpoint that is read back as it is: its ports are valid, it has a subdomain that is empty
or a label, and its name has no white space around it, or is a blank default name. -/
structure KeptEndpoint (defaultName : Text) (shown : ShownEndpoint) : Prop where
  ports : ValidPorts shown
  subdomain : ∃ subdomain, shown.subdomain = some subdomain ∧
    (subdomain = [] ∨ isSubdomainLabel subdomain = true)
  componentName : ∃ name, shown.componentName = some name ∧
    (name.trim = name ∧ name ≠ [] ∨ name.trim = [] ∧ name = defaultName)

theorem keptName_eq_iff {defaultName name : Text} :
    keptName defaultName name = name ↔
      name.trim = name ∧ name ≠ [] ∨ name.trim = [] ∧ name = defaultName := by
  unfold keptName
  split
  · rename_i blank
    rw [List.isEmpty_iff] at blank
    refine Iff.trans ⟨fun same => .inr ⟨blank, same.symm⟩, ?_⟩ Iff.rfl
    rintro (⟨trimmed, filled⟩ | ⟨-, same⟩)
    · exact absurd (trimmed.symm.trans blank) filled
    · exact same.symm
  · rename_i visible
    rw [List.isEmpty_iff] at visible
    constructor
    · intro trimmed
      exact .inl ⟨trimmed, fun empty => visible (trimmed.trans empty)⟩
    · rintro (⟨trimmed, -⟩ | ⟨blank, -⟩)
      · exact trimmed
      · exact absurd blank visible

theorem assertServiceSubdomainFormat_iff {subdomain : Text} :
    assertServiceSubdomainFormat (some subdomain) = .ok () ↔
      subdomain = [] ∨ isSubdomainLabel subdomain = true := by
  cases subdomain with
  | nil => exact iff_of_true rfl (.inl rfl)
  | cons unit rest =>
    rw [assertServiceSubdomainFormat.eq_def]
    dsimp only
    split
    · rename_i label
      exact iff_of_true rfl (.inr label)
    · rename_i unformed
      refine iff_of_false (fun same => by cases same) ?_
      rintro (empty | label)
      · cases empty
      · exact unformed label

/-- An endpoint with valid ports is accepted and read back as it is exactly if it is kept. -/
theorem keptEndpoint_iff {defaultName : Text} {shown : ShownEndpoint} (valid : ValidPorts shown) :
    Formed defaultName shown ∧ (readBack defaultName shown).shown = shown ↔
      KeptEndpoint defaultName shown := by
  have accepted : Formed defaultName shown ↔
      TunnelService.normalizeSubdomain (shown.subdomain.getD "null") = [] ∨
        isSubdomainLabel (TunnelService.normalizeSubdomain (shown.subdomain.getD "null")) = true :=
    assertServiceSubdomainFormat_iff
  rw [accepted]
  constructor
  · rintro ⟨formed, same⟩
    have subdomain : some (TunnelService.normalizeSubdomain (shown.subdomain.getD "null")) =
        shown.subdomain := congrArg ShownEndpoint.subdomain same
    have name : some (keptName defaultName (shown.componentName.getD defaultName)) =
        shown.componentName := congrArg ShownEndpoint.componentName same
    refine ⟨valid, ⟨_, subdomain.symm, formed⟩, ⟨_, name.symm, ?_⟩⟩
    rw [← keptName_eq_iff]
    exact congrArg (keptName defaultName) (congrArg (Option.getD · defaultName) name)
  · rintro ⟨-, ⟨subdomain, named, formed⟩, ⟨name, called, kept⟩⟩
    have fixed := Gateway.normalizeSubdomain_of_formed formed
    have back : (readBack defaultName shown).shown =
        ⟨some (keptName defaultName (shown.componentName.getD defaultName)),
          some (TunnelService.normalizeSubdomain (shown.subdomain.getD "null")), shown.hostPort,
          shown.containerPort⟩ := rfl
    rw [back, named, called, Option.getD_some, Option.getD_some, fixed,
      keptName_eq_iff.mpr kept, ← named, ← called]
    exact ⟨formed, rfl⟩

/-- The endpoints of a service as they are shown. -/
def shownOf (service : ServiceRow) (database : Database) : List ShownEndpoint :=
  (shownEndpoints service.serviceIndex database).map EndpointRow.shown

/-- The name of the default component of a service. -/
def defaultNameOf (service : ServiceRow) : Text :=
  defaultComponentName service.serviceName service.serviceDeployPreset

/-- The endpoints of a service come back unchanged: all are kept, or all are dropped and are what
is made from the stored mappings; their subdomains are free, and the first of them is that of the
service. -/
structure StableEndpoints (service : ServiceRow) (database : Database) : Prop where
  apart : ((shownOf service database).filterMap ShownEndpoint.subdomain).Nodup
  free : takenEndpoint service.serviceParentWorkspace service.serviceIndex
    ((shownOf service database).filterMap ShownEndpoint.subdomain) database = none
  primary : ((shownOf service database).filterMap ShownEndpoint.subdomain).head? =
    service.serviceSubdomain
  entries : ∃ portMappings, storedMappings service = .ok portMappings ∧
    ((∀ shown ∈ shownOf service database, KeptEndpoint (defaultNameOf service) shown) ∨
      (∀ shown ∈ shownOf service database, ¬ ValidPorts shown) ∧
        shownOf service database =
          (mappedEndpoints portMappings (defaultNameOf service) service.serviceSubdomain).map
            ServiceEndpoint.shown)

theorem publicSubdomains_eq (endpoints : List ServiceEndpoint) :
    publicSubdomains endpoints =
      (endpoints.map ServiceEndpoint.shown).filterMap ShownEndpoint.subdomain := by
  rw [List.filterMap_map]
  rfl

/-- A list of entries is what it shows exactly if all entries are kept, or none has valid ports and
the mappings make the same. -/
theorem entries_unchanged_iff {defaultName : Text} {shown : List ShownEndpoint}
    (filled : shown ≠ []) (fallback : List ServiceEndpoint) :
    (∀ entry ∈ shown, ValidPorts entry → Formed defaultName entry) ∧
      (if (shown.filter fun entry => decide (ValidPorts entry)).isEmpty then fallback
        else (shown.filter fun entry => decide (ValidPorts entry)).map
          (readBack defaultName)).map ServiceEndpoint.shown = shown ↔
    (∀ entry ∈ shown, KeptEndpoint defaultName entry) ∨
      (∀ entry ∈ shown, ¬ ValidPorts entry) ∧ shown = fallback.map ServiceEndpoint.shown := by
  split
  · rename_i empty
    rw [List.isEmpty_iff, List.filter_eq_nil_iff] at empty
    simp only [decide_eq_true_eq] at empty
    constructor
    · rintro ⟨-, same⟩
      exact .inr ⟨empty, same.symm⟩
    · rintro (kept | ⟨-, same⟩)
      · obtain ⟨entry, inside⟩ := List.exists_mem_of_ne_nil shown filled
        exact absurd (kept entry inside).ports (empty entry inside)
      · exact ⟨fun entry inside valid => absurd valid (empty entry inside), same.symm⟩
  · rename_i some
    rw [List.isEmpty_iff, List.filter_eq_nil_iff] at some
    simp only [decide_eq_true_eq, not_forall, not_not] at some
    obtain ⟨first, inside, valid⟩ := some
    have other : ¬ ((∀ entry ∈ shown, ¬ ValidPorts entry) ∧
        shown = fallback.map ServiceEndpoint.shown) :=
      fun dropped => dropped.1 first inside valid
    rw [or_iff_left other, List.map_map]
    constructor
    · rintro ⟨formed, same⟩
      have all : shown.filter (fun entry => decide (ValidPorts entry)) = shown := by
        refine List.filter_sublist.eq_of_length_le ?_
        rw [← congrArg List.length same, List.length_map]
      rw [all] at same
      have each := List.map_inj_left.mp (same.trans (List.map_id shown).symm)
      intro entry member
      have ports := of_decide_eq_true (List.filter_eq_self.mp all entry member)
      exact (keptEndpoint_iff ports).mp ⟨formed entry member ports, each entry member⟩
    · intro kept
      have all : shown.filter (fun entry => decide (ValidPorts entry)) = shown :=
        List.filter_eq_self.mpr fun entry member => decide_eq_true (kept entry member).ports
      have each (entry : ShownEndpoint) (member : entry ∈ shown) :=
        (keptEndpoint_iff (kept entry member).ports).mpr (kept entry member)
      refine ⟨fun entry member _ => (each entry member).1, ?_⟩
      rw [all]
      exact (List.map_congr_left fun entry member => (each entry member).2).trans
        (List.map_id shown)

/-- The endpoints of a request are those of the service, and free. -/
def AsksForSame (service : ServiceRow) (database : Database) (given : Value) : Prop :=
  ∃ endpoints, requestedEndpoints service given = .ok endpoints ∧
    EndpointsFree service.serviceParentWorkspace service.serviceIndex endpoints database ∧
    endpoints.map ServiceEndpoint.shown = shownOf service database ∧
    primarySubdomain endpoints = service.serviceSubdomain

/-- A list that shows the endpoints of a service asks for the same exactly if they are stable. -/
theorem asksForSame_iff {ι : Type} {items : List ι} {entry : ι → Members Value}
    {view : ι → ShownEndpoint} {service : ServiceRow} {database : Database}
    (shows : ∀ item, ShowsMembers (defaultNameOf service) (entry item) (view item))
    (whole : items.map view = shownOf service database)
    (filled : shownOf service database ≠ []) :
    AsksForSame service database (.array (items.map fun item => .object (entry item))) ↔
      StableEndpoints service database := by
  have requested (endpoints : List ServiceEndpoint) :
      requestedEndpoints service (.array (items.map fun item => .object (entry item))) =
          .ok endpoints ↔
        ∃ portMappings, storedMappings service = .ok portMappings ∧
          normalizeEndpoints (.array (items.map fun item => .object (entry item))) portMappings
            service.serviceName service.serviceDeployPreset service.serviceSubdomain =
              .ok endpoints := bind_eq_ok_iff
  have normalized (portMappings : List ServicePortMapping) (endpoints : List ServiceEndpoint) :
      normalizeEndpoints (.array (items.map fun item => .object (entry item))) portMappings
          service.serviceName service.serviceDeployPreset service.serviceSubdomain =
            .ok endpoints ↔
        (∀ shown ∈ shownOf service database, ValidPorts shown →
          Formed (defaultNameOf service) shown) ∧
        (if ((shownOf service database).filter fun shown =>
            decide (ValidPorts shown)).isEmpty then
            mappedEndpoints portMappings (defaultNameOf service) service.serviceSubdomain
          else ((shownOf service database).filter fun shown => decide (ValidPorts shown)).map
            (readBack (defaultNameOf service))) = endpoints := by
    rw [← whole]
    exact normalizeEndpoints_entries_iff shows
  have same {endpoints : List ServiceEndpoint}
      (shown : endpoints.map ServiceEndpoint.shown = shownOf service database) :
      publicSubdomains endpoints =
        (shownOf service database).filterMap ShownEndpoint.subdomain := by
    rw [publicSubdomains_eq, shown]
  constructor
  · rintro ⟨endpoints, asked, ⟨apart, free⟩, shown, primary⟩
    obtain ⟨portMappings, stored, accepted⟩ := (requested endpoints).mp asked
    obtain ⟨formed, rfl⟩ := (normalized portMappings endpoints).mp accepted
    rw [primarySubdomain, same shown] at primary
    rw [same shown] at apart free
    exact ⟨apart, free, primary, portMappings, stored,
      (entries_unchanged_iff filled _).mp ⟨formed, shown⟩⟩
  · intro stable
    obtain ⟨portMappings, stored, entries⟩ := stable.entries
    obtain ⟨formed, shown⟩ := (entries_unchanged_iff filled _).mpr entries
    refine ⟨_, (requested _).mpr ⟨portMappings, stored, (normalized portMappings _).mpr
      ⟨formed, rfl⟩⟩, ?_, shown, ?_⟩
    · rw [EndpointsFree, same shown]
      exact ⟨stable.apart, stable.free⟩
    · rw [primarySubdomain, same shown]
      exact stable.primary

/-! ## Setting the endpoints -/

/-- The endpoints of a service have been set. -/
structure Updated (service : ServiceRow) (given : Value) (before : Hub)
    (endpoints : List ServiceEndpoint) (after : Hub) : Prop where
  asked : requestedEndpoints service given = .ok endpoints
  free : EndpointsFree service.serviceParentWorkspace service.serviceIndex endpoints
    before.database
  rows : after.database.serviceEndpoints =
    published service.serviceParentWorkspace service.serviceIndex endpoints
      before.database.serviceEndpoints
  rewrites : Rewrites service { service with serviceSubdomain := primarySubdomain endpoints }
    before.database after.database

/-- The service that a request is about is found. -/
theorem wp_located {owner : Int32} {serviceIdx : Text} {hub : Hub} {service : ServiceRow}
    (located : Located owner serviceIdx hub.database service) {fail : Failure → Hub → Prop}
    {post : ServiceRow × Option AgentRow → Hub → Prop} :
    wp (findOwnedServiceAndAgent owner serviceIdx) post fail hub ↔
      post (service, agentOfService service hub.database) hub := by
  obtain ⟨index, parsed, bounded, owned⟩ := located
  rw [findOwnedServiceAndAgent, parsed]
  simp only [wp_bind, wp_fromExcept, wp_require, wp_look, wp_orThrow, wp_pure]
  constructor
  · rintro ⟨held, -⟩
    exact ((held index rfl).1 bounded).1 service owned
  · intro there
    refine ⟨fun found same => ?_, fun failure failed => by cases failed⟩
    obtain rfl := Except.ok.inj same
    refine ⟨fun _ => ⟨fun other here => ?_, fun missing => ?_⟩, fun beyond => absurd bounded beyond⟩
    · obtain rfl := Option.some.inj (owned.symm.trans here)
      exact there
    · rw [owned] at missing
      cases missing

/-- Setting the endpoints fails only if they are not accepted or not free. -/
theorem wp_updatedEndpoints {owner : Int32} {serviceIdx : Text} {given : Value} {hub : Hub}
    {service : ServiceRow} (located : Located owner serviceIdx hub.database service) :
    wp (handleUpdateServiceEndpoints owner serviceIdx given)
      (fun answer after => Updated service given hub answer.2 after)
      (fun _ _ => ¬ ∃ endpoints, requestedEndpoints service given = .ok endpoints ∧
        EndpointsFree service.serviceParentWorkspace service.serviceIndex endpoints hub.database)
      hub := by
  obtain ⟨inside, alive⟩ := located.alive
  rw [handleUpdateServiceEndpoints, wp_bind, wp_located located]
  simp only [wp_bind, wp_fromExcept, wp_replaced]
  refine ⟨fun endpoints asked => ⟨fun free => ?_, fun shared => ?_, fun _ taken => ?_⟩,
    fun failure failed => ?_⟩
  · apply wp_updateRow
    · exact inside
    · exact fun clash => absurd clash (not_clashes alive)
    · intro services rows
      exact ⟨asked, free, rfl, inside, rfl, rfl, rows⟩
  · rintro ⟨other, asked', free⟩
    obtain rfl := Except.ok.inj (asked.symm.trans asked')
    exact shared free.1
  · rintro ⟨other, asked', free⟩
    obtain rfl := Except.ok.inj (asked.symm.trans asked')
    exact taken free.2
  · rintro ⟨endpoints, asked, -⟩
    rw [failed] at asked
    cases asked

/-- New endpoint rows are shown as the endpoints that they are made from. -/
theorem shown_made {workspaceIndex serviceIndex : ℕ} {endpoints : List ServiceEndpoint}
    {made : List EndpointRow} (matched : List.Forall₂ (fun endpoint row =>
      ∃ n, row = endpointRow workspaceIndex serviceIndex endpoint n) endpoints made) :
    (made.filter fun row =>
        row.endpointParentService == serviceIndex && row.endpointDeletedAt.isNone).map
      EndpointRow.shown = endpoints.map ServiceEndpoint.shown := by
  induction matched with
  | nil => rfl
  | cons here _ ih =>
    obtain ⟨n, rfl⟩ := here
    rw [List.filter_cons, if_pos, List.map_cons, ih, List.map_cons]
    · rfl
    · exact Bool.and_eq_true_iff.mpr ⟨beq_self_eq_true _, rfl⟩

section Updates

variable {owner : Int32} {serviceIdx : Text} {given : Value} {hub : Hub} {service : ServiceRow}
  {endpoints : List ServiceEndpoint} {after : Hub}

/-- The endpoints that are shown afterwards are those that were set. -/
theorem Updated.shown (updated : Updated service given hub endpoints after) :
    (shownEndpoints service.serviceIndex after.database).map EndpointRow.shown =
      endpoints.map ServiceEndpoint.shown := by
  obtain ⟨made, rows, matched⟩ := @Table.rows_createMany _ _
    (hub.database.serviceEndpoints.deleteMany fun endpoint =>
      endpoint.endpointParentService == service.serviceIndex)
    _ (endpointRow service.serviceParentWorkspace service.serviceIndex) (fun _ _ => rfl) endpoints
  have older : ((hub.database.serviceEndpoints.deleteMany fun endpoint =>
      endpoint.endpointParentService == service.serviceIndex).rows.filter fun row =>
        row.endpointParentService == service.serviceIndex && row.endpointDeletedAt.isNone) =
      [] := by
    refine List.filter_eq_nil_iff.mpr fun row inside selected => ?_
    have other := (Table.mem_deleteMany.mp inside).2
    rw [Bool.and_eq_true_iff, other] at selected
    exact absurd selected.1 Bool.false_ne_true
  rw [shownEndpoints, updated.rows, published, rows, List.filter_append, older, List.nil_append,
    shown_made matched]

/-- The subdomain of the service is that of the first endpoint that has one. -/
theorem Updated.subdomain_iff (updated : Updated service given hub endpoints after) :
    (∀ row ∈ after.database.services, row.serviceIndex = service.serviceIndex →
      row.serviceSubdomain = service.serviceSubdomain) ↔
      primarySubdomain endpoints = service.serviceSubdomain := by
  constructor
  · intro kept
    exact kept _ ((updated.rewrites.rows _).mpr (.inl rfl)) rfl
  · intro same row inside index
    rcases (updated.rewrites.rows row).mp inside with rfl | ⟨-, other⟩
    · exact same
    · exact absurd index other

/-- Setting the endpoints of a service changes nothing exactly if the request asks for the
same. -/
theorem updatesIdly_iff (located : Located owner serviceIdx hub.database service) :
    UpdatesIdly owner serviceIdx given hub ↔ AsksForSame service hub.database given := by
  have ends := (wp_iff_run _).mp (@wp_updatedEndpoints owner serviceIdx given hub service located)
  unfold UpdatesIdly
  cases outcome : (handleUpdateServiceEndpoints owner serviceIdx given).run hub with
  | mk result after =>
    rw [outcome] at ends
    cases result with
    | error failure =>
      refine iff_of_false (fun held => absurd held.1 Bool.false_ne_true) ?_
      rintro ⟨endpoints, asked, free, -⟩
      exact ends ⟨endpoints, asked, free⟩
    | ok answer =>
      have updated : Updated service given hub answer.2 after := ends
      constructor
      · rintro ⟨-, kept⟩
        obtain ⟨shown, subdomain⟩ := kept service located
        exact ⟨answer.2, updated.asked, updated.free, updated.shown.symm.trans shown,
          updated.subdomain_iff.mp subdomain⟩
      · rintro ⟨endpoints, asked, -, shown, primary⟩
        obtain rfl := Except.ok.inj (updated.asked.symm.trans asked)
        refine ⟨rfl, fun other located' => ?_⟩
        obtain rfl := located.unique located'
        exact ⟨updated.shown.trans shown, updated.subdomain_iff.mpr primary⟩

/-- A request that succeeds is about a service. -/
theorem located_of_updated
    (succeeds : ((handleUpdateServiceEndpoints owner serviceIdx given).run hub).1.isOk = true) :
    ∃ service, Located owner serviceIdx hub.database service := by
  have found : wp (handleUpdateServiceEndpoints owner serviceIdx given)
      (fun _ _ => ∃ service, Located owner serviceIdx hub.database service) Throws hub := by
    rw [handleUpdateServiceEndpoints, wp_bind, wp_findOwnedServiceAndAgent fun _ _ => trivial]
    intro service located
    refine wp_mono _ ?_ ?_ ((@wp_state _ _ _ hub (fun _ => True) _).mpr trivial)
    · exact fun _ _ _ => ⟨service, located⟩
    · exact fun _ _ _ => trivial
  obtain ⟨-, located⟩ := exists_of_isOk found succeeds
  exact located

/-- The list of services is made from the rows of a workspace. -/
theorem listed_of_ok {workspaceIdx : ℕ} {services : List ListedService}
    (answered : ((handleGetServiceList owner workspaceIdx).run hub).1 = .ok services) :
    (workspaceServices workspaceIdx hub.database).mapM (listedService hub.database) =
      .ok services := by
  have listed : wp (handleGetServiceList owner workspaceIdx)
      (fun services _ => (workspaceServices workspaceIdx hub.database).mapM
        (listedService hub.database) = .ok services) Throws hub := by
    simp only [handleGetServiceList, wp_bind, wp_look, wp_require, wp_fromExcept]
    exact ⟨fun _ => ⟨fun services listed => listed, fun _ _ => trivial⟩, fun _ => trivial⟩
  exact post_of_ok listed answered

theorem listedService_ok {database : Database} {listed : ListedService}
    (answered : listedService database service = .ok listed) :
    listed.serviceIndex = service.serviceIndex ∧
      listed.endpoints = (shownEndpoints service.serviceIndex database).map listedEndpoint := by
  simp only [listedService, bind_eq_ok_iff] at answered
  obtain ⟨_, -, _, -, ends⟩ := answered
  cases ends
  exact ⟨rfl, rfl⟩

/-- What has been returned shows the endpoints of the service. -/
theorem Returned.shows (returned : Returned owner serviceIdx hub given)
    (located : Located owner serviceIdx hub.database service) :
    ∃ (ι : Type) (items : List ι) (entry : ι → Members Value) (view : ι → ShownEndpoint),
      given = .array (items.map fun item => .object (entry item)) ∧
      (∀ item, ShowsMembers (defaultNameOf service) (entry item) (view item)) ∧
      items.map view = shownOf service hub.database := by
  cases returned with
  | listed answered inside named =>
    rename_i workspaceIdx services listed
    obtain ⟨row, -, made⟩ := exists_of_mapM (listed_of_ok answered) inside
    obtain ⟨index, endpoints⟩ := listedService_ok made
    have same : row.serviceIndex = service.serviceIndex :=
      index.symm.trans (Except.ok.inj (named.symm.trans located.parsed))
    refine ⟨_, _, _, _, rfl, shows_listedEntry _, ?_⟩
    rw [endpoints, List.map_map, same]
    rfl
  | updated answered =>
    rename_i before given endpoints
    cases outcome : ((handleUpdateServiceEndpoints owner serviceIdx given).run before).1 with
    | error failure =>
      rw [outcome] at answered
      cases answered
    | ok answer =>
      rw [outcome] at answered
      obtain rfl : answer.2 = endpoints := Option.some.inj answered
      obtain ⟨older, located'⟩ := located_of_updated (by rw [outcome]; rfl)
      have updated := post_of_ok (wp_updatedEndpoints located') outcome
      have same : older.serviceIndex = service.serviceIndex :=
        Except.ok.inj (located'.parsed.symm.trans located.parsed)
      refine ⟨_, _, _, _, rfl, fun endpoint => shows_shownEntry _ _, ?_⟩
      rw [shownOf, ← same, updated.shown]

/-- A list of endpoints that has been returned and is not empty can be passed back without a
change exactly if the endpoints of the service are stable. -/
theorem returned_updatesIdly_iff (returned : Returned owner serviceIdx hub given)
    (filled : given ≠ .array []) :
    UpdatesIdly owner serviceIdx given hub ↔
      ∃ service, Located owner serviceIdx hub.database service ∧
        StableEndpoints service hub.database := by
  by_cases there : ∃ service, Located owner serviceIdx hub.database service
  · obtain ⟨service, located⟩ := there
    obtain ⟨ι, items, entry, view, rfl, shows, whole⟩ := returned.shows located
    have shown : shownOf service hub.database ≠ [] := by
      rintro empty
      rw [empty, List.map_eq_nil_iff] at whole
      rw [whole] at filled
      exact filled rfl
    rw [updatesIdly_iff located, asksForSame_iff shows whole shown]
    constructor
    · intro stable
      exact ⟨service, located, stable⟩
    · rintro ⟨other, located', stable⟩
      obtain rfl := located.unique located'
      exact stable
  · refine iff_of_false ?_ ?_
    · rintro ⟨succeeds, -⟩
      exact there (located_of_updated succeeds)
    · rintro ⟨service, located, -⟩
      exact there ⟨service, located⟩

end Updates

/-- The state after the endpoints of the first service have been set. -/
def afterUpdate (given : Value) : Hub :=
  ((handleUpdateServiceEndpoints 1 "1" given).run hostingAgentHub.hub).2

/-- An endpoint of the default component on port 80. -/
def endpointOf80 (subdomain : Option Text) : ServiceEndpoint where
  hostPort := 80
  containerPort := 80
  componentName := "app"
  subdomain := subdomain

/-- The answer to setting it. -/
def answeredOne (subdomain : Option Text) : Value :=
  .array ([endpointOf80 subdomain].map fun endpoint => .object (shownEntry endpoint.shown))

theorem returned_updatesIdly_one :
    UpdatesIdly 1 "1" (answeredOne (some "a")) (afterUpdate (endpointWith "a")) ↔
      ∃ service, Located 1 "1" (afterUpdate (endpointWith "a")).database service ∧
        StableEndpoints service (afterUpdate (endpointWith "a")).database :=
  returned_updatesIdly_iff
    (@Returned.updated 1 "1" hostingAgentHub.hub (endpointWith "a") [endpointOf80 (some "a")]
      (by decide +kernel))
    (by rintro ⟨⟩)

/-- One endpoint without a subdomain. -/
def endpointWithout : Value :=
  .array [.object [("hostPort", portValue 80), ("containerPort", portValue 80)]]

/-- The null of the answer is read as a subdomain. -/
theorem not_returned_updatesIdly_null :
    Returned 1 "1" (afterUpdate endpointWithout) (answeredOne none) ∧
      ¬ UpdatesIdly 1 "1" (answeredOne none) (afterUpdate endpointWithout) := by
  refine ⟨@Returned.updated 1 "1" hostingAgentHub.hub endpointWithout [endpointOf80 none]
    (by decide +kernel), ?_⟩
  rintro ⟨succeeds, kept⟩
  obtain ⟨service, located⟩ := located_of_updated succeeds
  have index : ∀ row ∈ (afterUpdate endpointWithout).database.services, row.serviceIndex = 1 := by
    decide +kernel
  have changed : (shownEndpoints 1 ((handleUpdateServiceEndpoints 1 "1" (answeredOne none)).run
      (afterUpdate endpointWithout)).2.database).map EndpointRow.shown ≠
        (shownEndpoints 1 (afterUpdate endpointWithout).database).map EndpointRow.shown := by
    decide +kernel
  have same := (kept service located).1
  rw [index service located.alive.1] at same
  exact changed same

end ServiceService

end OpticsHub
