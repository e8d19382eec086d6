import OpticsHub.Gateway.HostGrammar
import OpticsHub.Tunnel.Routes

/-!
# From a published address to its endpoint

The subdomain of a workspace is checked when it is given, that of a service is normalised and
checked, the gateway takes both from the host of a request, the request of the gateway is checked
once more, and the Hub normalises the subdomain of the service again before it asks the database.
The checks differ in their wording; a pair that passes the first two passes all of them and
arrives unchanged.
-/
namespace OpticsHub

open Script

namespace Gateway

open Validation ServiceService

/-! ## Stored subdomains -/

/-- The subdomain of a service as it is stored: normalised from what was given, and accepted. -/
structure StoredSubdomain (subdomain : Text) : Prop where
  normalized : ∃ given, normalizeServiceSubdomain given = some subdomain
  formed : assertServiceSubdomainFormat (some subdomain) = .ok ()

/-- It is empty, or a label. -/
theorem StoredSubdomain.empty_or_label {subdomain : Text} (stored : StoredSubdomain subdomain) :
    subdomain = [] ∨ isSubdomainLabel subdomain = true := by
  have formed := stored.formed
  cases subdomain with
  | nil => exact .inl rfl
  | cons unit rest =>
    rw [assertServiceSubdomainFormat.eq_def] at formed
    dsimp only at formed
    split at formed
    · rename_i label
      exact .inr label
    · cases formed

/-- Normalising leaves an empty subdomain and a label alone. -/
theorem normalizeSubdomain_of_formed {subdomain : Text}
    (formed : subdomain = [] ∨ isSubdomainLabel subdomain = true) :
    TunnelService.normalizeSubdomain subdomain = subdomain := by
  rcases formed with rfl | label
  · rfl
  · have label := ((isSubdomainLabel_iff subdomain).mp label)
    have units := isAddressUnit_of_isLabel label.2
    have spells := spells_of_forall fun unit inside => (units unit inside).1
    have some : subdomain ≠ [] := by
      rintro rfl
      exact absurd label.1.1 (by decide)
    have trimmed := spells.trim some fun _ inside => absurd inside List.not_mem_nil
    rw [List.append_nil] at trimmed
    have lowered : subdomain.map CodeUnit.lower = subdomain :=
      (List.map_congr_left fun unit inside => lower_of_isAddressUnit (units unit inside).1).trans
        (List.map_id subdomain)
    have differs : subdomain ≠ Text.ofString "@" := by
      rintro rfl
      exact absurd label.2 (by decide)
    rw [TunnelService.normalizeSubdomain, trimmed, spells.toLowerCase, lowered, if_neg differs]

/-- The Hub finds a stored subdomain as it is. -/
theorem StoredSubdomain.normalizeSubdomain_eq {subdomain : Text}
    (stored : StoredSubdomain subdomain) :
    TunnelService.normalizeSubdomain subdomain = subdomain :=
  normalizeSubdomain_of_formed stored.empty_or_label

/-! ## The line that names an address -/

/-- The line is a host header with this address, in any letter case, with or without a port. -/
def NamesHost (hostLine address : Text) : Prop :=
  ∃ name blank host port trailing, hostLine = name ++ (blank ++ ((host ++ port) ++ trailing)) ∧
    name.map CodeUnit.lower = hostName ∧ (∀ unit ∈ blank, unit.isSpace = true) ∧
    host.map CodeUnit.lower = address ∧ IsPort port ∧ ∀ unit ∈ trailing, unit.isSpace = true

/-- A host header with an address that is published is read as the pair it was made of. -/
theorem parseRoute_of_namesHost {serviceSubdomain workspaceSubdomain hostLine : Text}
    (stored : serviceSubdomain = [] ∨ isSubdomainLabel serviceSubdomain = true)
    (label : isSubdomainLabel workspaceSubdomain = true)
    (names : NamesHost hostLine (addressOf serviceSubdomain workspaceSubdomain)) :
    parseRouteFromHostHeader hostLine = some ⟨serviceSubdomain, workspaceSubdomain⟩ := by
  obtain ⟨name, blank, host, port, trailing, rfl, named, blanks, spelled, isPort, trails⟩ := names
  have units := units_addressOf stored label
  have spells : Spells (host ++ port) := by
    intro unit inside
    rcases List.mem_append.mp inside with first | last
    · exact (units _ (spelled ▸ List.mem_map_of_mem first)).1
    · rw [lower_of_isAddressUnit (isPort.units unit last).1]
      exact (isPort.units unit last).1
  have nonempty : host ++ port ≠ [] := by
    intro empty
    rw [(List.append_eq_nil_iff.mp empty).1, List.map_nil, addressOf_eq] at spelled
    have ending := (List.append_eq_nil_iff.mp (List.append_eq_nil_iff.mp spelled.symm).2).2
    exact absurd ending (by decide)
  have hosts : Spells host := fun unit inside => spells unit (List.mem_append_left port inside)
  refine (parseRoute_iff _ _).mpr ⟨⟨stored, label⟩, host, port, ?_, ?_, .inr isPort.isCut⟩
  · exact hostOf_eq named blanks spells nonempty trails
  · exact hosts.toLowerCase.trans spelled

/-! ## The checks agree -/

section

variable {characters : Text → ℕ}

/-- A subdomain that a workspace is given is a label of at most 63 units. -/
theorem isSubdomainLabel_of_accepted
    (counts : ∀ text : Text, (∀ unit ∈ text, unit < 0x80) → characters text = text.length)
    {workspaceSubdomain : Text}
    (accepted : isWorkspaceSubdomain characters (some workspaceSubdomain) = true) :
    isSubdomainLabel workspaceSubdomain = true := by
  simp only [isWorkspaceSubdomain, Option.all_some, Bool.and_eq_true, hasLength,
    decide_eq_true_eq] at accepted
  obtain ⟨⟨length, label⟩, -⟩ := accepted
  rw [counts workspaceSubdomain fun unit inside =>
    plain_of_isAddressUnit (isAddressUnit_of_isLabel label unit inside).1] at length
  exact (isSubdomainLabel_iff workspaceSubdomain).mpr ⟨length, label⟩

/-- What the gateway reads from a published address passes the check of the Hub. -/
theorem requestConnect_of_labels
    (counts : ∀ text : Text, (∀ unit ∈ text, unit < 0x80) → characters text = text.length)
    {serviceSubdomain workspaceSubdomain : Text}
    (stored : serviceSubdomain = [] ∨ isSubdomainLabel serviceSubdomain = true)
    (label : isSubdomainLabel workspaceSubdomain = true) :
    requestConnect characters serviceSubdomain workspaceSubdomain = true := by
  have counted {text : Text} (label : isSubdomainLabel text = true) :
      characters text = text.length := by
    have units := isAddressUnit_of_isLabel ((isSubdomainLabel_iff text).mp label).2
    exact counts text fun unit inside => plain_of_isAddressUnit (units unit inside).1
  obtain ⟨length, form⟩ := (isSubdomainLabel_iff workspaceSubdomain).mp label
  have workspace : hasLength characters 1 63 workspaceSubdomain = true := by
    rw [hasLength, counted label]
    exact decide_eq_true length
  rcases stored with rfl | service
  · have empty : characters [] = 0 := counts [] fun _ inside => absurd inside List.not_mem_nil
    have within : hasLength characters 0 63 [] = true := by simp [hasLength, empty]
    rw [requestConnect, within, workspace, form]
    rfl
  · obtain ⟨length', form'⟩ := (isSubdomainLabel_iff serviceSubdomain).mp service
    have within : hasLength characters 0 63 serviceSubdomain = true := by
      rw [hasLength, counted service]
      exact decide_eq_true ⟨Nat.zero_le _, length'.2⟩
    rw [requestConnect, within, workspace, form, form', Bool.or_true]
    rfl

end

end Gateway

namespace TunnelService

/-- What the Hub does with an address: it answers with the route kept for exactly this pair,
or with what the database says of exactly this pair. -/
def lookUp (subdomain workspaceSubdomain token : Text) (preferPooled : Bool) (hub : Hub) :
    Except Failure TunnelRoute × Hub :=
  let key := workspaceSubdomain ++ slash :: subdomain
  match cachedRoute key hub with
  | some route => answer route token preferPooled hub
  | none =>
    let resolved := resolve workspaceSubdomain subdomain hub.database
    answerWith resolved token preferPooled (keepResolved key resolved hub)

/-- A subdomain that is already normalised is looked up as it is. -/
theorem run_sendProxyInfo_of_normalized {serviceSubdomain : Text}
    (normalized : normalizeSubdomain serviceSubdomain = serviceSubdomain)
    (workspaceSubdomain token : Text) (preferPooled : Bool) (hub : Hub) :
    (sendProxyInfo serviceSubdomain workspaceSubdomain token preferPooled).run hub =
      lookUp serviceSubdomain workspaceSubdomain token preferPooled hub := by
  have key : routeKey workspaceSubdomain serviceSubdomain =
      workspaceSubdomain ++ slash :: serviceSubdomain := by
    rw [routeKey_eq, normalized]
  unfold lookUp
  cases cached : cachedRoute (workspaceSubdomain ++ slash :: serviceSubdomain) hub with
  | some route =>
    dsimp only
    rw [run_sendProxyInfo_kept (key ▸ cached), cached]
  | none =>
    dsimp only
    rw [run_sendProxyInfo_missed (key ▸ cached), key, normalized, cached]

end TunnelService

namespace Gateway

open Validation ServiceService

/-- Every published address is routable. A host header with the address of a workspace subdomain
that was accepted and of a service subdomain that was normalised and accepted, in any letter case
and with or without a port, is read as exactly this pair, the pair passes the check of the Hub,
and the Hub looks up exactly this pair. -/
theorem published_address_routable (characters : Text → ℕ)
    (counts : ∀ text : Text, (∀ unit ∈ text, unit < 0x80) → characters text = text.length)
    (serviceSubdomain workspaceSubdomain hostLine : Text)
    (accepted : createWorkspace characters (some workspaceSubdomain) = true ∨
      updateWorkspaceSubdomain characters (some workspaceSubdomain) = true)
    (stored : StoredSubdomain serviceSubdomain)
    (names : NamesHost hostLine (addressOf serviceSubdomain workspaceSubdomain)) :
    parseRouteFromHostHeader hostLine = some ⟨serviceSubdomain, workspaceSubdomain⟩ ∧
      requestConnect characters serviceSubdomain workspaceSubdomain = true ∧
      ∀ token preferPooled hub,
        (TunnelService.sendProxyInfo serviceSubdomain workspaceSubdomain token preferPooled).run
          hub = TunnelService.lookUp serviceSubdomain workspaceSubdomain token preferPooled hub := by
  have label := isSubdomainLabel_of_accepted counts (accepted.elim id id)
  exact ⟨parseRoute_of_namesHost stored.empty_or_label label names,
    requestConnect_of_labels counts stored.empty_or_label label,
    TunnelService.run_sendProxyInfo_of_normalized stored.normalizeSubdomain_eq
      workspaceSubdomain⟩

/-- The service `run` of the workspace `optics`. -/
theorem published_address_routable_run :
    parseRouteFromHostHeader "HOST: Run.Optics.OPTICS.run:8443" = some ⟨"run", "optics"⟩ ∧
      requestConnect List.length "run" "optics" = true ∧
      ∀ token preferPooled hub,
        (TunnelService.sendProxyInfo "run" "optics" token preferPooled).run hub =
          TunnelService.lookUp "run" "optics" token preferPooled hub :=
  published_address_routable List.length (fun _ _ => rfl) "run" "optics"
    "HOST: Run.Optics.OPTICS.run:8443" (.inl (by decide)) ⟨⟨some " Run", by decide⟩, by rfl⟩
    ⟨"HOST:", " ", "Run.Optics.OPTICS.run", ":8443", [], by decide, by decide,
      List.all_eq_true.mp (by decide), by decide,
      .inr ⟨"8443", by decide, by decide, List.all_eq_true.mp (by decide)⟩, by simp⟩

end Gateway

end OpticsHub
