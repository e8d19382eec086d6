import OpticsHub.Gateway.HostGrammar
import OpticsHub.Traffic.TrafficSync

/-!
# Which hosts count as traffic of workspaces

The statistics and the gateway both take a host of three or four labels for that of a workspace,
each with a parser of its own. The statistics only compare the last two labels with the domain and
the one before with the reserved names. The gateway also wants every label to be one of a subdomain,
and it leaves out a point or a port at the end.
-/
namespace OpticsHub

open Script

namespace TrafficSyncService

open Gateway (Route Labelled IsTail addressLabels addressOf splitOn_addressOf labels_iff cut_iff
  parseRouteFromHostHeader hostOf_append isAddressUnit_of_isLabel isSubdomainLabel_iff)
open ServiceService (isSubdomainLabel)

/-- The labels are those of a host of a workspace: its name and the domain, perhaps with the name
of a service before them. -/
def Named (labels : List Text) (workspace : Text) : Prop :=
  labels = [workspace, Text.ofString "optics", Text.ofString "run"] ∨
    ∃ service, labels = [service, workspace, Text.ofString "optics", Text.ofString "run"]

theorem isWorkspaceHostname_iff (hostname : Text) :
    isWorkspaceHostname hostname = true ↔
      ∃ workspace, Named (hostname.trim.toLowerCase.splitOn CodeUnit.point) workspace ∧
        workspace ∉ reservedWorkspaceSubdomains := by
  rw [isWorkspaceHostname]
  constructor
  · intro counted
    split at counted
    · rename_i workspace _ _ labels
      simp only [Bool.and_eq_true, beq_iff_eq, Bool.not_eq_true', List.contains_eq_mem,
        decide_eq_false_iff_not] at counted
      obtain ⟨⟨rfl, rfl⟩, free⟩ := counted
      exact ⟨workspace, .inl labels, free⟩
    · rename_i service workspace _ _ labels
      simp only [Bool.and_eq_true, beq_iff_eq, Bool.not_eq_true', List.contains_eq_mem,
        decide_eq_false_iff_not] at counted
      obtain ⟨⟨rfl, rfl⟩, free⟩ := counted
      exact ⟨workspace, .inr ⟨service, labels⟩, free⟩
    · cases counted
  · rintro ⟨workspace, labels | ⟨service, labels⟩, free⟩
    · simp [labels, free]
    · simp [labels, free]

/-- Labels without points are split from a text that they are put before. -/
theorem splitOn_intercalate_append {labels : List Text} (last tail : Text)
    (free : ∀ label ∈ labels, CodeUnit.point ∉ label) :
    (List.intercalate [CodeUnit.point] (labels ++ [last]) ++ tail).splitOn CodeUnit.point =
      labels ++ (last ++ tail).splitOn CodeUnit.point := by
  induction labels with
  | nil => simp
  | cons label labels ih =>
    obtain ⟨front, others⟩ := List.forall_mem_cons.mp free
    rw [List.cons_append, List.intercalate_cons_of_ne_nil (by simp), List.append_assoc,
      List.append_assoc, List.singleton_append, List.splitOn_append_cons_self_of_not_mem front,
      ih others, List.cons_append]

/-! ## What the gateway reads of a host -/

/-- The line of a host header with a host as the statistics have it. -/
def hostLineOf (hostname : Text) : Text := Text.ofString "host: " ++ hostname

/-- The gateway reads the address of a route in the host, with a tail that it leaves out. -/
theorem routed_iff (hostname : Text) (route : Route) :
    parseRouteFromHostHeader (hostLineOf hostname) = some route ↔
      Labelled route ∧
        ∃ tail, hostname.trim.toLowerCase = route.address ++ tail ∧ IsTail tail := by
  have value : Gateway.hostOf (hostLineOf hostname) = hostname.trim :=
    @hostOf_append (Text.ofString "host:") (by decide) (0x20 :: hostname)
  rw [labels_iff (hostLineOf hostname) rfl, value]
  refine and_congr_right fun labelled => ?_
  exact cut_iff (fun unit inside => (labelled.address.1 unit inside).2)
    (labelled.address.2 ▸ (by decide))

/-- The labels before the last one of an address. -/
def frontLabels (route : Route) : List Text :=
  (if route.serviceSubdomain.isEmpty then [] else [route.serviceSubdomain]) ++
    [route.workspaceSubdomain, Text.ofString "optics"]

theorem addressLabels_eq (route : Route) :
    addressLabels route.serviceSubdomain route.workspaceSubdomain =
      frontLabels route ++ [Text.ofString "run"] := by
  simp [addressLabels, frontLabels]

theorem frontLabels_free {route : Route} (labelled : Labelled route) :
    ∀ label ∈ frontLabels route, CodeUnit.point ∉ label := by
  have pointless {label : Text} (isLabel : isSubdomainLabel label = true) :
      CodeUnit.point ∉ label := by
    intro inside
    exact (isAddressUnit_of_isLabel ((isSubdomainLabel_iff label).mp isLabel).2 _ inside).2.1 rfl
  intro label inside
  simp only [frontLabels, List.mem_append, List.mem_cons, List.not_mem_nil, or_false] at inside
  rcases inside with service | rfl | rfl
  · split at service
    · cases service
    · rename_i named
      obtain rfl := List.mem_singleton.mp service
      exact pointless (labelled.service.resolve_left (by simpa using named))
  · exact pointless labelled.workspace
  · decide

theorem splitOn_address_append {route : Route} (labelled : Labelled route) (tail : Text) :
    (route.address ++ tail).splitOn CodeUnit.point =
      frontLabels route ++ (Text.ofString "run" ++ tail).splitOn CodeUnit.point := by
  rw [Route.address, addressOf, addressLabels_eq]
  exact splitOn_intercalate_append _ tail (frontLabels_free labelled)

/-- The labels of an address count only if nothing but the last label of the domain ends them. -/
theorem not_named_front {route : Route} {last workspace : Text} {others : List Text}
    (differs : last ≠ Text.ofString "optics") (more : last :: others ≠ [Text.ofString "run"]) :
    ¬ Named (frontLabels route ++ last :: others) workspace := by
  rw [frontLabels]
  rintro (labels | ⟨service, labels⟩)
  · split at labels
    · exact more (by simpa using labels : _ ∧ _).2
    · simp at labels
  · split at labels
    · exact differs (by simpa using labels : _ ∧ _ ∧ _ ∧ _).2.2.1
    · exact more (by simpa using labels : _ ∧ _ ∧ _).2.2

/-- With a tail behind it an address does not count. -/
theorem not_named_of_isTail {route : Route} (labelled : Labelled route) {tail : Text}
    (isTail : IsTail tail) (some : tail ≠ []) (workspace : Text) :
    ¬ Named ((route.address ++ tail).splitOn CodeUnit.point) workspace := by
  have letters : Text.ofString "run" = [0x72, 0x75, 0x6E] := by decide
  rw [splitOn_address_append labelled]
  rcases isTail with rfl | rfl | colon
  · have split : (Text.ofString "run" ++ [CodeUnit.point]).splitOn CodeUnit.point =
        [Text.ofString "run", []] := by decide
    rw [split]
    exact not_named_front (by decide) (by simp)
  · exact absurd rfl some
  · obtain ⟨rest, rfl⟩ := List.head?_eq_some_iff.mp colon
    obtain ⟨first, others, split⟩ := List.exists_cons_of_ne_nil
      (List.splitOn_ne_nil CodeUnit.point rest)
    have port : (Text.ofString "run" ++ CodeUnit.colon :: rest).splitOn CodeUnit.point =
        (Text.ofString "run" ++ CodeUnit.colon :: first) :: others := by
      simp only [letters, List.cons_append, List.nil_append, List.splitOn_cons_eq_if_modifyHead,
        split]
      rfl
    rw [port, letters]
    refine not_named_front (fun same => ?_) fun same => ?_
    · exact absurd (List.cons.inj same).1 (by decide)
    · rw [letters] at same
      simp at same

/-! ## Where both agree -/

/-- A host has the shape of both parsers or of none: its labels are those of subdomains if it names
a workspace that is not reserved, and it is no address of one with a point or a port behind it. -/
structure SameShape (hostname : Text) : Prop where
  labels : ∀ workspace, Named (hostname.trim.toLowerCase.splitOn CodeUnit.point) workspace →
    workspace ∉ reservedWorkspaceSubdomains →
    ∀ label ∈ hostname.trim.toLowerCase.splitOn CodeUnit.point, isSubdomainLabel label = true
  bare : ∀ route tail, Labelled route → hostname.trim.toLowerCase = route.address ++ tail →
    IsTail tail → route.workspaceSubdomain ∉ reservedWorkspaceSubdomains → tail = []

/-- The statistics count a host exactly if the gateway finds a route to a workspace in it that is
not reserved. -/
def CountsRouted (hostname : Text) : Prop :=
  isWorkspaceHostname hostname = true ↔
    ∃ route, parseRouteFromHostHeader (hostLineOf hostname) = some route ∧
      route.workspaceSubdomain ∉ reservedWorkspaceSubdomains

theorem named_address {route : Route} (labelled : Labelled route) :
    Named (route.address.splitOn CodeUnit.point) route.workspaceSubdomain := by
  have labels := splitOn_addressOf labelled.service labelled.workspace
  rw [Route.address, labels, addressLabels]
  split
  · exact .inl rfl
  · exact .inr ⟨route.serviceSubdomain, rfl⟩

theorem isSubdomainLabel_address {route : Route} (labelled : Labelled route) :
    ∀ label ∈ route.address.splitOn CodeUnit.point, isSubdomainLabel label = true := by
  rw [Route.address, splitOn_addressOf labelled.service labelled.workspace]
  intro label inside
  simp only [addressLabels, List.mem_append, List.mem_cons, List.not_mem_nil, or_false] at inside
  rcases inside with service | rfl | rfl | rfl
  · split at service
    · cases service
    · rename_i named
      obtain rfl := List.mem_singleton.mp service
      exact labelled.service.resolve_left (by simpa using named)
  · exact labelled.workspace
  · decide
  · decide

/-- Labels of subdomains that name a workspace are the address of a route. -/
theorem exists_address {text workspace : Text} (named : Named (text.splitOn CodeUnit.point) workspace)
    (labels : ∀ label ∈ text.splitOn CodeUnit.point, isSubdomainLabel label = true) :
    ∃ route, Labelled route ∧ text = route.address ∧ route.workspaceSubdomain = workspace := by
  have joined : List.intercalate [CodeUnit.point] (text.splitOn CodeUnit.point) = text :=
    List.intercalate_splitOn CodeUnit.point
  rcases named with split | ⟨service, split⟩
  · rw [split] at labels joined
    exact ⟨⟨[], workspace⟩, ⟨.inl rfl, labels workspace (by simp)⟩, joined.symm, rfl⟩
  · rw [split] at labels joined
    have isLabel := labels service (by simp)
    refine ⟨⟨service, workspace⟩, ⟨.inr isLabel, labels workspace (by simp)⟩, ?_, rfl⟩
    cases service with
    | nil => cases isLabel
    | cons unit rest => exact joined.symm

/-- The statistics and the gateway agree on a host exactly if it has the same shape for both. -/
theorem countsRouted_iff (hostname : Text) : CountsRouted hostname ↔ SameShape hostname := by
  rw [CountsRouted, isWorkspaceHostname_iff]
  simp only [routed_iff]
  constructor
  · intro agree
    constructor
    · intro workspace named free
      obtain ⟨route, ⟨labelled, tail, split, isTail⟩, -⟩ := agree.mp ⟨workspace, named, free⟩
      have ended : tail = [] := by
        by_contra some
        exact not_named_of_isTail labelled isTail some workspace (split ▸ named)
      rw [split, ended, List.append_nil]
      exact isSubdomainLabel_address labelled
    · intro route tail labelled split isTail free
      by_contra some
      obtain ⟨workspace, named, -⟩ := agree.mpr ⟨route, ⟨labelled, tail, split, isTail⟩, free⟩
      exact not_named_of_isTail labelled isTail some workspace (split ▸ named)
  · rintro ⟨labels, bare⟩
    constructor
    · rintro ⟨workspace, named, free⟩
      obtain ⟨route, labelled, split, rfl⟩ := exists_address named (labels workspace named free)
      exact ⟨route, ⟨labelled, [], split.trans (List.append_nil _).symm, .inr (.inl rfl)⟩, free⟩
    · rintro ⟨route, ⟨labelled, tail, split, isTail⟩, free⟩
      obtain rfl := bare route tail labelled split isTail free
      rw [List.append_nil] at split
      exact ⟨route.workspaceSubdomain, split ▸ named_address labelled, free⟩

/-- A label with an underscore counts and is not routed. A host with a point at its end is routed
and does not count. -/
theorem not_countsRouted :
    ¬ CountsRouted "my_shop.acme.optics.run" ∧ ¬ CountsRouted "acme.optics.run." := by
  constructor
  · intro agree
    obtain ⟨route, read, -⟩ := agree.mp (by decide)
    have refused : parseRouteFromHostHeader (hostLineOf "my_shop.acme.optics.run") = none := by
      decide
    rw [refused] at read
    cases read
  · intro agree
    have counted := agree.mpr ⟨⟨[], "acme"⟩, by decide, by decide⟩
    exact absurd counted (by decide)

end TrafficSyncService

end OpticsHub
