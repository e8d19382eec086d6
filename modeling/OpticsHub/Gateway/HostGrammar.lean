import OpticsHub.Gateway.Addresses
import OpticsHub.Script.Remains
import OpticsHub.Script.Whole

/-!
# The form of a host

The value of a host header is an address, a point that may follow it, and a port that may follow
that. The gateway puts the value in lower case, takes a point off its end, cuts it at the first
colon and splits what is left into labels, in this order. So a point before a port stays, and a
host with both is refused, while the same host with only one of them is accepted. And the lower
case is that of all letters, so the Kelvin sign counts as a letter of a label. In every other
value the gateway reads exactly the route that the form names.
-/
namespace OpticsHub

open Script

namespace Gateway

open Validation ServiceService

/-! ## The form -/

/-- A route has the labels of an address: one of a workspace, and one of a service if any. -/
structure Labelled (route : Route) : Prop where
  service : route.serviceSubdomain = [] ∨ isSubdomainLabel route.serviceSubdomain = true
  workspace : isSubdomainLabel route.workspaceSubdomain = true

/-- The address of a route. -/
def Route.address (route : Route) : Text :=
  addressOf route.serviceSubdomain route.workspaceSubdomain

/-- Nothing, or a colon and anything. -/
def IsCut (text : Text) : Prop := text = [] ∨ text.head? = some CodeUnit.colon

theorem IsPort.isCut {port : Text} (isPort : IsPort port) : IsCut port := by
  rcases isPort with rfl | ⟨digits, rfl, -, -⟩
  · exact .inl rfl
  · exact .inr rfl

/-- A value has the form of a host that names a route: its labels and the domain, with a point
between them, in any case of the Latin letters; then a point or nothing; then a colon and anything,
or nothing. -/
structure HostForm (value : Text) (route : Route) : Prop where
  labelled : Labelled route
  spelled : ∃ host root port, value = host ++ (root ++ port) ∧
    host.map CodeUnit.lower = route.address ∧ (root = [] ∨ root = [CodeUnit.point]) ∧ IsCut port

/-! ## What the gateway reads -/

/-- What may follow an address for the gateway: nothing, a point, or a colon and anything. -/
def IsTail (tail : Text) : Prop := tail = [CodeUnit.point] ∨ IsCut tail

/-- The gateway finds an address in a value: in the lower case of all letters, and without a
point before a port. -/
structure HostRead (value : Text) (route : Route) : Prop where
  labelled : Labelled route
  spelled : ∃ host tail, value = host ++ tail ∧ host.toLowerCase = route.address ∧ IsTail tail

/-- The labels that the gateway finds are those of a route with this address. -/
theorem labels_iff {host : Text} {route : Route} (hostLine : Text)
    (read : (withoutFinalPoint (hostOf hostLine).toLowerCase).takeWhile (· != CodeUnit.colon) =
      host) :
    parseRouteFromHostHeader hostLine = some route ↔ Labelled route ∧ host = route.address := by
  have joined : List.intercalate [CodeUnit.point] (host.splitOn CodeUnit.point) = host :=
    List.intercalate_splitOn CodeUnit.point
  rw [parseRouteFromHostHeader, read]
  constructor
  · intro found
    split at found
    · rename_i workspaceSubdomain optics run labels
      rw [labels] at joined
      split at found
      · rename_i fits
        obtain ⟨rfl, rfl, label⟩ := fits
        obtain rfl := Option.some.inj found
        exact ⟨⟨.inl rfl, label⟩, joined.symm⟩
      · cases found
    · rename_i serviceSubdomain workspaceSubdomain optics run labels
      rw [labels] at joined
      split at found
      · rename_i fits
        obtain ⟨rfl, rfl, service, label⟩ := fits
        obtain rfl := Option.some.inj found
        refine ⟨⟨.inr service, label⟩, joined.symm.trans ?_⟩
        cases serviceSubdomain with
        | nil => cases service
        | cons unit rest => rfl
      · cases found
    · cases found
  · rintro ⟨⟨stored, label⟩, rfl⟩
    obtain ⟨serviceSubdomain, workspaceSubdomain⟩ := route
    rw [Route.address, splitOn_addressOf stored label]
    cases serviceSubdomain with
    | nil => simp [addressLabels, isValidSubdomainLabel, label]
    | cons unit rest =>
      have service := stored.resolve_left (List.cons_ne_nil unit rest)
      simp [addressLabels, isValidSubdomainLabel, label, service]

/-- What is before a cut is what is before the first colon. -/
theorem takeWhile_of_isCut {text port : Text} (free : ∀ unit ∈ text, unit ≠ CodeUnit.colon)
    (isCut : IsCut port) : (text ++ port).takeWhile (· != CodeUnit.colon) = text := by
  rw [List.takeWhile_append_of_pos fun unit inside => by simpa using free unit inside]
  rcases isCut with rfl | colon
  · rw [List.takeWhile_nil, List.append_nil]
  · obtain ⟨rest, rfl⟩ := List.head?_eq_some_iff.mp colon
    rw [List.takeWhile_cons_of_neg (by simp), List.append_nil]

/-- Taking a point off the end and cutting at the first colon leaves an address, exactly if
nothing follows it but a tail. -/
theorem cut_iff {address lowered : Text} (free : ∀ unit ∈ address, unit ≠ CodeUnit.colon)
    (final : address.getLast? ≠ some CodeUnit.point) :
    (withoutFinalPoint lowered).takeWhile (· != CodeUnit.colon) = address ↔
      ∃ tail, lowered = address ++ tail ∧ IsTail tail := by
  have alone : address.takeWhile (· != CodeUnit.colon) = address := by
    have nothing := takeWhile_of_isCut free (.inl rfl)
    rwa [List.append_nil] at nothing
  constructor
  · intro read
    obtain ⟨dropped, whole, isCut⟩ :
        ∃ dropped, withoutFinalPoint lowered = address ++ dropped ∧ IsCut dropped := by
      refine ⟨(withoutFinalPoint lowered).dropWhile (· != CodeUnit.colon), ?_, ?_⟩
      · conv_rhs => rw [← read]
        exact List.takeWhile_append_dropWhile.symm
      · have stops := List.head?_dropWhile_not (· != CodeUnit.colon) (withoutFinalPoint lowered)
        cases first : ((withoutFinalPoint lowered).dropWhile (· != CodeUnit.colon)).head? with
        | none => exact .inl (List.head?_eq_none_iff.mp first)
        | some unit =>
          rw [first] at stops
          exact .inr (first.trans (congrArg some (by simpa using stops)))
    rw [withoutFinalPoint] at whole
    split at whole
    · rename_i last
      have restored := List.dropLast_append_getLast? _ last
      rw [whole, List.append_assoc] at restored
      refine ⟨dropped ++ [CodeUnit.point], restored.symm, ?_⟩
      rcases isCut with rfl | colon
      · exact .inl rfl
      · obtain ⟨rest, rfl⟩ := List.head?_eq_some_iff.mp colon
        exact .inr (.inr rfl)
    · exact ⟨dropped, whole, .inr isCut⟩
  · rintro ⟨tail, rfl, rfl | rfl | colon⟩
    · rw [withoutFinalPoint, if_pos List.getLast?_concat, List.dropLast_concat]
      exact alone
    · rw [List.append_nil, withoutFinalPoint, if_neg final]
      exact alone
    · obtain ⟨rest, rfl⟩ := List.head?_eq_some_iff.mp colon
      rw [withoutFinalPoint]
      split
      · rw [List.dropLast_append_of_ne_nil (List.cons_ne_nil _ _)]
        cases rest with
        | nil => exact takeWhile_of_isCut free (.inl rfl)
        | cons unit rest => exact takeWhile_of_isCut free (.inr rfl)
      · exact takeWhile_of_isCut free (.inr rfl)

theorem IsTail.unmarked {tail : Text} (isTail : IsTail tail) : tail.head? ≠ some 0x307 := by
  rcases isTail with rfl | rfl | colon
  · decide
  · decide
  · rw [colon]
    decide

/-! ## Lower case -/

/-- The lower case of a unit is one unit, or a letter and a mark. -/
theorem toLower_cases (unit : CodeUnit) :
    unit.toLower = [0x69, 0x307] ∨ ∃ lowered, unit.toLower = [lowered] := by
  rw [CodeUnit.toLower]
  split
  · exact .inr ⟨_, rfl⟩
  · split
    · exact .inl rfl
    · exact .inr ⟨_, rfl⟩

theorem toLowerCase_cons (unit : CodeUnit) (text : Text) :
    Text.toLowerCase (unit :: text) = unit.toLower ++ text.toLowerCase :=
  List.flatMap_cons

/-- A text is divided where its lower case is, unless that is before a mark. -/
theorem exists_of_toLowerCase_append {text front back : Text}
    (lowered : text.toLowerCase = front ++ back) (unmarked : back.head? ≠ some 0x307) :
    ∃ host tail, text = host ++ tail ∧ host.toLowerCase = front ∧ tail.toLowerCase = back := by
  induction text generalizing front with
  | nil =>
    obtain ⟨rfl, rfl⟩ := List.append_eq_nil_iff.mp lowered.symm
    exact ⟨[], [], rfl, rfl, rfl⟩
  | cons unit rest ih =>
    cases front with
    | nil => exact ⟨[], unit :: rest, rfl, rfl, lowered⟩
    | cons first front =>
      rw [toLowerCase_cons] at lowered
      rcases toLower_cases unit with marked | ⟨lower, single⟩
      · cases front with
        | nil =>
          rw [marked, List.cons_append, List.singleton_append, List.singleton_append,
            List.cons.injEq] at lowered
          refine absurd ?_ unmarked
          rw [← List.nil_append back, ← lowered.2]
          rfl
        | cons second front =>
          rw [marked, List.cons_append, List.singleton_append, List.cons_append, List.cons_append,
            List.cons.injEq, List.cons.injEq] at lowered
          obtain ⟨rfl, rfl, lowered⟩ := lowered
          obtain ⟨host, tail, rfl, rfl, same⟩ := ih lowered
          exact ⟨unit :: host, tail, rfl, by rw [toLowerCase_cons, marked]; rfl, same⟩
      · rw [single, List.singleton_append, List.cons_append, List.cons.injEq] at lowered
        obtain ⟨rfl, lowered⟩ := lowered
        obtain ⟨host, tail, rfl, rfl, same⟩ := ih lowered
        exact ⟨unit :: host, tail, rfl, by rw [toLowerCase_cons, single]; rfl, same⟩

/-- A unit before the letters is the lower case of itself alone. -/
theorem toLower_append_eq {unit first : CodeUnit} {later rest : Text} (small : unit < 0x41)
    (lowered : first.toLower ++ later = unit :: rest) : first = unit ∧ later = rest := by
  have large (other : CodeUnit) (high : 0x41 ≤ other) : other ≠ unit := by
    rintro rfl
    rw [UInt16.lt_iff_toNat_lt] at small
    rw [UInt16.le_iff_toNat_le] at high
    omega
  rw [CodeUnit.toLower] at lowered
  split at lowered
  · exact absurd (List.cons.inj lowered).1 (large _ (by decide))
  · split at lowered
    · exact absurd (List.cons.inj lowered).1 (large _ (by decide))
    · rw [List.singleton_append, List.cons.injEq, CodeUnit.lower] at lowered
      split at lowered
      · rename_i upper
        refine absurd lowered.1 (large _ ?_)
        simp only [CodeUnit.isUpper, Bool.and_eq_true, decide_eq_true_eq,
          UInt16.le_iff_toNat_le] at upper
        rw [UInt16.le_iff_toNat_le, UInt16.toNat_add]
        simp only [UInt16.reduceToNat] at upper ⊢
        omega
      · exact lowered

theorem exists_of_toLowerCase_cons {text rest : Text} {unit : CodeUnit} (small : unit < 0x41)
    (lowered : text.toLowerCase = unit :: rest) :
    ∃ later : Text, text = unit :: later ∧ later.toLowerCase = rest := by
  cases text with
  | nil => cases lowered
  | cons first later =>
    rw [toLowerCase_cons] at lowered
    obtain ⟨rfl, same⟩ := toLower_append_eq small lowered
    exact ⟨later, rfl, same⟩

/-- A text whose lower case is empty is empty. -/
theorem eq_nil_of_toLowerCase {text : Text} (lowered : text.toLowerCase = []) : text = [] := by
  cases text with
  | nil => rfl
  | cons unit rest =>
    rw [toLowerCase_cons] at lowered
    rcases toLower_cases unit with marked | ⟨lower, single⟩
    · rw [marked] at lowered
      cases lowered
    · rw [single] at lowered
      cases lowered

/-- What follows an address is the same in lower case. -/
theorem isTail_toLowerCase (tail : Text) : IsTail tail.toLowerCase ↔ IsTail tail := by
  constructor
  · rintro (point | empty | colon)
    · obtain ⟨later, rfl, none'⟩ := exists_of_toLowerCase_cons (by decide) point
      rw [eq_nil_of_toLowerCase none']
      exact .inl rfl
    · rw [eq_nil_of_toLowerCase empty]
      exact .inr (.inl rfl)
    · obtain ⟨rest, lowered⟩ := List.head?_eq_some_iff.mp colon
      obtain ⟨later, rfl, -⟩ := exists_of_toLowerCase_cons (by decide) lowered
      exact .inr (.inr rfl)
  · rintro (rfl | rfl | colon)
    · exact .inl rfl
    · exact .inr (.inl rfl)
    · obtain ⟨rest, rfl⟩ := List.head?_eq_some_iff.mp colon
      exact .inr (.inr rfl)

/-! ## What the gateway accepts -/

/-- An address has no colon and does not end in a point. -/
theorem Labelled.address {route : Route} (labelled : Labelled route) :
    (∀ unit ∈ route.address, isAddressUnit unit = true ∧ unit ≠ CodeUnit.colon) ∧
      route.address.getLast? = some 0x6E := by
  refine ⟨units_addressOf labelled.service labelled.workspace, ?_⟩
  have final : domain.getLast? = some 0x6E := rfl
  rw [Route.address, addressOf_eq, List.getLast?_append, List.getLast?_append, final,
    Option.some_or, Option.some_or]

/-- The gateway accepts exactly the values in which it finds an address. -/
theorem parseRoute_iff (hostLine : Text) (route : Route) :
    parseRouteFromHostHeader hostLine = some route ↔ HostRead (hostOf hostLine) route := by
  rw [labels_iff hostLine rfl]
  have divided (labelled : Labelled route) :=
    @cut_iff route.address (hostOf hostLine).toLowerCase
      (fun unit inside => (labelled.address.1 unit inside).2)
      (labelled.address.2 ▸ (by decide))
  constructor
  · rintro ⟨labelled, read⟩
    obtain ⟨back, lowered, isTail⟩ := (divided labelled).mp read
    obtain ⟨host, tail, split, spelled, rfl⟩ :=
      exists_of_toLowerCase_append lowered isTail.unmarked
    exact ⟨labelled, host, tail, split, spelled, (isTail_toLowerCase tail).mp isTail⟩
  · rintro ⟨labelled, host, tail, split, spelled, isTail⟩
    refine ⟨labelled, (divided labelled).mpr ⟨tail.toLowerCase, ?_, ?_⟩⟩
    · rw [split, Text.toLowerCase, List.flatMap_append, ← spelled]
      rfl
    · exact (isTail_toLowerCase tail).mpr isTail

/-! ## The form and the gateway -/

/-- The Kelvin sign, whose lower case is a Latin letter. -/
def kelvin : CodeUnit := 0x212A

/-- A text has an address as its lower case in the Latin letters exactly if it has it as its
lower case and is free of the Kelvin sign. -/
theorem map_lower_iff {host address : Text}
    (units : ∀ unit ∈ address, isAddressUnit unit = true) :
    host.map CodeUnit.lower = address ↔ host.toLowerCase = address ∧ kelvin ∉ host := by
  constructor
  · rintro rfl
    have spells : Spells host := fun unit inside => units _ (List.mem_map_of_mem inside)
    refine ⟨spells.toLowerCase, fun inside => ?_⟩
    exact absurd (spells kelvin inside) (by decide)
  · rintro ⟨rfl, absent⟩
    have spells : Spells host := by
      intro unit inside
      have lowered {unit' : CodeUnit} (inside' : unit' ∈ unit.toLower) :
          isAddressUnit unit' = true :=
        units unit' (List.mem_flatMap.mpr ⟨unit, inside, inside'⟩)
      rw [CodeUnit.toLower] at lowered
      split at lowered
      · rename_i sign
        obtain rfl := beq_iff_eq.mp sign
        exact absurd inside absent
      · split at lowered
        · exact absurd (lowered (List.mem_cons_of_mem _ List.mem_cons_self)) (by decide)
        · exact lowered List.mem_cons_self
    exact spells.toLowerCase.symm

/-- The host of a value is what is left before the first colon without a point at its end. -/
theorem host_eq {host root port : Text} (free : ∀ unit ∈ host, unit ≠ CodeUnit.colon)
    (final : host.getLast? ≠ some CodeUnit.point) (rooted : root = [] ∨ root = [CodeUnit.point])
    (isCut : IsCut port) :
    withoutFinalPoint ((host ++ (root ++ port)).takeWhile (· != CodeUnit.colon)) = host := by
  have free' : ∀ unit ∈ host ++ root, unit ≠ CodeUnit.colon := by
    intro unit inside
    rcases List.mem_append.mp inside with before | last
    · exact free unit before
    · rcases rooted with rfl | rfl
      · cases last
      · rw [List.mem_singleton.mp last]
        decide
  rw [← List.append_assoc, takeWhile_of_isCut free' isCut, withoutFinalPoint]
  rcases rooted with rfl | rfl
  · rw [List.append_nil, if_neg final]
  · rw [if_pos List.getLast?_concat, List.dropLast_concat]

/-- A host whose lower case is an address has no colon and does not end in a point. -/
theorem Labelled.host {route : Route} (labelled : Labelled route) {host : Text}
    (spelled : host.toLowerCase = route.address) :
    (∀ unit ∈ host, unit ≠ CodeUnit.colon) ∧ host.getLast? ≠ some CodeUnit.point := by
  constructor
  · rintro unit inside rfl
    have there : CodeUnit.colon ∈ host.toLowerCase :=
      List.mem_flatMap.mpr ⟨CodeUnit.colon, inside, by decide⟩
    rw [spelled] at there
    exact (labelled.address.1 _ there).2 rfl
  · intro last
    obtain ⟨before, rfl⟩ := List.getLast?_eq_some_iff.mp last
    have ending := labelled.address.2
    rw [← spelled, Text.toLowerCase, List.flatMap_append] at ending
    have point : List.flatMap CodeUnit.toLower [CodeUnit.point] = [CodeUnit.point] := by decide
    rw [point, List.getLast?_concat] at ending
    exact absurd ending (by decide)

/-- A value is divided into host, point and port in one way. -/
theorem host_unique {route route' : Route} (labelled : Labelled route)
    (labelled' : Labelled route') {host root port host' root' port' : Text}
    (spelled : host.toLowerCase = route.address) (spelled' : host'.toLowerCase = route'.address)
    (rooted : root = [] ∨ root = [CodeUnit.point]) (isCut : IsCut port)
    (rooted' : root' = [] ∨ root' = [CodeUnit.point]) (isCut' : IsCut port')
    (same : host ++ (root ++ port) = host' ++ (root' ++ port')) :
    host = host' ∧ root ++ port = root' ++ port' := by
  have plain := labelled.host spelled
  have plain' := labelled'.host spelled'
  have hosts : host = host' := by
    rw [← host_eq plain.1 plain.2 rooted isCut, same, host_eq plain'.1 plain'.2 rooted' isCut']
  subst hosts
  exact ⟨rfl, List.append_cancel_left same⟩

/-- A value is an address with a point after it, and a port or none. -/
def RootedAddress (value : Text) : Prop :=
  ∃ route host port, Labelled route ∧ value = host ++ CodeUnit.point :: port ∧
    host.map CodeUnit.lower = route.address ∧ IsCut port

/-- A value is an address in which the Kelvin sign stands for a letter, with a point, a port or
nothing after it. -/
def KelvinAddress (value : Text) : Prop :=
  ∃ route host tail, Labelled route ∧ value = host ++ tail ∧ host.toLowerCase = route.address ∧
    kelvin ∈ host ∧ IsTail tail

/-- What follows an address for the gateway is a point or a port, and not both. -/
theorem IsTail.split {tail : Text} (isTail : IsTail tail) :
    ∃ root port, tail = root ++ port ∧ (root = [] ∨ root = [CodeUnit.point]) ∧ IsCut port := by
  rcases isTail with rfl | isCut
  · exact ⟨[CodeUnit.point], [], rfl, .inr rfl, .inl rfl⟩
  · exact ⟨[], tail, rfl, .inl rfl, isCut⟩

/-- An address with a point before a port is not read. -/
theorem not_hostRead_rooted {route route' : Route} (labelled : Labelled route) {host port : Text}
    (spelled : host.toLowerCase = route.address) (colon : port.head? = some CodeUnit.colon) :
    ¬ HostRead (host ++ CodeUnit.point :: port) route' := by
  rintro ⟨labelled', host', tail, split, spelled', isTail⟩
  obtain ⟨root', port', rfl, rooted', isCut'⟩ := isTail.split
  obtain ⟨-, same⟩ := host_unique labelled labelled' spelled spelled' (.inr rfl) (.inr colon)
    rooted' isCut' split
  rw [← same] at isTail
  obtain ⟨rest, rfl⟩ := List.head?_eq_some_iff.mp colon
  rcases isTail with point | empty | head
  · cases point
  · cases empty
  · exact absurd (Option.some.inj head) (by decide)

/-- The gateway reads what the form names, also with a port behind it, exactly in the values that
are no address with a point at its end and no address with the Kelvin sign. -/
theorem reads_iff (value : Text) :
    ((∀ route, HostRead value route ↔ HostForm value route) ∧
      ∀ route port, HostRead value route → IsPort port → HostRead (value ++ port) route) ↔
      ¬ RootedAddress value ∧ ¬ KelvinAddress value := by
  have latin {route : Route} (labelled : Labelled route) {host : Text} :=
    @map_lower_iff host route.address fun unit inside => (labelled.address.1 unit inside).1
  constructor
  · rintro ⟨form, port⟩
    constructor
    · rintro ⟨route, host, later, labelled, rfl, spelled, isCut⟩
      have lowered := ((latin labelled).mp spelled).1
      rcases isCut with rfl | colon
      · have read : HostRead (host ++ [CodeUnit.point]) route :=
          ⟨labelled, host, [CodeUnit.point], rfl, lowered, .inl rfl⟩
        have again := port route (Text.ofString ":443") read
          (.inr ⟨Text.ofString "443", rfl, by decide, List.all_eq_true.mp (by decide)⟩)
        rw [List.append_assoc] at again
        exact not_hostRead_rooted labelled lowered rfl again
      · refine not_hostRead_rooted labelled lowered colon ((form route).mpr ⟨labelled, ?_⟩)
        exact ⟨host, [CodeUnit.point], later, rfl, spelled, .inr rfl, .inr colon⟩
    · rintro ⟨route, host, tail, labelled, rfl, spelled, signed, isTail⟩
      obtain ⟨labelled', host', root', port', split, spelled', rooted', isCut'⟩ :=
        (form route).mp ⟨labelled, host, tail, rfl, spelled, isTail⟩
      obtain ⟨root, port, rfl, rooted, isCut⟩ := isTail.split
      obtain ⟨lowered', unsigned⟩ := (latin labelled').mp spelled'
      obtain ⟨rfl, -⟩ := host_unique labelled labelled' spelled lowered' rooted isCut rooted' isCut'
        split
      exact unsigned signed
  · rintro ⟨unrooted, unsigned⟩
    have latin' {route : Route} {host tail : Text} (labelled : Labelled route)
        (split : value = host ++ tail) (spelled : host.toLowerCase = route.address)
        (isTail : IsTail tail) : host.map CodeUnit.lower = route.address :=
      (latin labelled).mpr ⟨spelled, fun signed =>
        unsigned ⟨route, host, tail, labelled, split, spelled, signed, isTail⟩⟩
    constructor
    · intro route
      constructor
      · rintro ⟨labelled, host, tail, split, spelled, isTail⟩
        have spelled' := latin' labelled split spelled isTail
        obtain ⟨root, port, rfl, rooted, isCut⟩ := isTail.split
        exact ⟨labelled, host, root, port, split, spelled', rooted, isCut⟩
      · rintro ⟨labelled, host, root, port, split, spelled, rfl | rfl, isCut⟩
        · exact ⟨labelled, host, port, split, ((latin labelled).mp spelled).1, .inr isCut⟩
        · exact absurd ⟨route, host, port, labelled, split, spelled, isCut⟩ unrooted
    · rintro route port ⟨labelled, host, tail, split, spelled, isTail⟩ isPort
      have spelled' := latin' labelled split spelled isTail
      rcases isTail with rfl | isCut
      · exact absurd ⟨route, host, [], labelled, split, spelled', .inl rfl⟩ unrooted
      · refine ⟨labelled, host, tail ++ port, ?_, spelled, .inr ?_⟩
        · rw [split, List.append_assoc]
        · rcases isCut with rfl | colon
          · exact isPort.isCut
          · obtain ⟨rest, rfl⟩ := List.head?_eq_some_iff.mp colon
            exact .inr rfl

/-! ## Lines -/

/-- The value of a line is what follows the name, trimmed. -/
theorem hostOf_append {name : Text} (named : name.map CodeUnit.lower = hostName) (rest : Text) :
    hostOf (name ++ rest) = rest.trim := by
  have length : name.length = hostName.length := by rw [← named, List.length_map]
  rw [hostOf, withoutName, ← length, List.take_left, if_pos named, List.drop_left, Text.trim_eq,
    Text.trim_eq, List.dropWhile_idempotent]

/-- A port is not white space, so it ends a value that is trimmed. -/
theorem trim_append_port (text : Text) {port : Text} (isPort : IsPort port) :
    (text.trim ++ port).trim = text.trim ++ port := by
  rcases isPort with rfl | ⟨digits, rfl, some, all⟩
  · rw [List.append_nil, Text.trim_trim]
  · refine Text.trim_of_ends ?_ ?_
    · have front := Text.dropWhile_trim text
      cases trimmed : text.trim with
      | nil => rfl
      | cons unit rest =>
        rw [trimmed, List.dropWhile_cons] at front
        rw [List.cons_append, List.dropWhile_cons]
        split
        · rename_i blank
          rw [if_pos blank] at front
          have shorter := (List.dropWhile_suffix CodeUnit.isSpace (l := rest)).length_le
          rw [front, List.length_cons] at shorter
          omega
        · rfl
    · rw [List.rdropWhile_eq_self_iff]
      intro nonempty blank
      rw [List.getLast_append_of_ne_nil nonempty (List.cons_ne_nil _ _),
        List.getLast_cons some] at blank
      have visible := isSpace_of_isDigit (all _ (List.getLast_mem some))
      rw [visible] at blank
      cases blank

/-- The line of a header begins with its name, in any case of the letters, if the Kelvin sign can
stand for none of these. -/
theorem isHeader_iff {label : Text} (plain : ∀ unit ∈ label, isAddressUnit unit = true)
    (free : (0x6B : CodeUnit) ∉ label) (line : Text) :
    isHeader (label ++ [CodeUnit.colon]) line = true ↔
      ∃ name rest, line = name ++ rest ∧ name.map CodeUnit.lower = label ++ [CodeUnit.colon] := by
  rw [isHeader, List.isPrefixOf_iff_prefix]
  constructor
  · rintro ⟨more, lowered⟩
    rw [List.append_assoc] at lowered
    obtain ⟨first, later, rfl, named, ended⟩ :=
      exists_of_toLowerCase_append lowered.symm
        fun same => absurd (Option.some.inj same) (by decide)
    obtain ⟨rest, rfl, -⟩ := exists_of_toLowerCase_cons (by decide) ended
    have unsigned : kelvin ∉ first := by
      intro inside
      have letter : (0x6B : CodeUnit) ∈ first.toLowerCase :=
        List.mem_flatMap.mpr ⟨kelvin, inside, by decide⟩
      rw [named] at letter
      exact free letter
    refine ⟨first ++ [CodeUnit.colon], rest, List.append_cons _ _ _, ?_⟩
    rw [List.map_append, (map_lower_iff plain).mpr ⟨named, unsigned⟩]
    rfl
  · rintro ⟨name, rest, rfl, named⟩
    have units : ∀ unit ∈ label ++ [CodeUnit.colon], isAddressUnit unit = true :=
      List.forall_mem_append.mpr ⟨plain, List.forall_mem_singleton.mpr (by decide)⟩
    rw [Text.toLowerCase, List.flatMap_append, ← Text.toLowerCase,
      ((map_lower_iff units).mp named).1]
    exact List.prefix_append _ _

/-- The line of a host header begins with its name, in any case of the letters. -/
theorem isHeader_hostName_iff (hostLine : Text) :
    isHeader hostName hostLine = true ↔
      ∃ name rest, hostLine = name ++ rest ∧ name.map CodeUnit.lower = hostName := by
  have colon : hostName = Text.ofString "host" ++ [CodeUnit.colon] := by decide
  rw [colon]
  exact isHeader_iff (List.all_eq_true.mp (by decide)) (by decide) hostLine

/-- The gateway reads a line as the form says, and a port behind the value changes nothing. -/
structure ReadsForm (name rest : Text) : Prop where
  form : ∀ route,
    parseRouteFromHostHeader (name ++ rest) = some route ↔ HostForm rest.trim route
  port : ∀ route port, parseRouteFromHostHeader (name ++ rest) = some route → IsPort port →
    parseRouteFromHostHeader (name ++ (rest.trim ++ port)) = some route

/-- The gateway reads the line of a host header as the form says, with a port or without, exactly
if its value is no address with a point at its end and no address with the Kelvin sign. -/
theorem readsForm_iff (name rest : Text) (named : name.map CodeUnit.lower = hostName) :
    ReadsForm name rest ↔ ¬ RootedAddress rest.trim ∧ ¬ KelvinAddress rest.trim := by
  have read (route : Route) :
      parseRouteFromHostHeader (name ++ rest) = some route ↔ HostRead rest.trim route := by
    rw [parseRoute_iff, hostOf_append named]
  have readPort (route : Route) {port : Text} (isPort : IsPort port) :
      parseRouteFromHostHeader (name ++ (rest.trim ++ port)) = some route ↔
        HostRead (rest.trim ++ port) route := by
    rw [parseRoute_iff, hostOf_append named, trim_append_port rest isPort]
  rw [← reads_iff]
  constructor
  · rintro ⟨form, port⟩
    refine ⟨fun route => (read route).symm.trans (form route), fun route later found isPort => ?_⟩
    exact (readPort route isPort).mp (port route later ((read route).mpr found) isPort)
  · rintro ⟨form, port⟩
    refine ⟨fun route => (read route).trans (form route), fun route later found isPort => ?_⟩
    exact (readPort route isPort).mpr (port route later ((read route).mp found) isPort)

/-- Without a point before the first colon there is none behind an address. -/
theorem not_rootedAddress {value : Text}
    (final : (value.takeWhile (· != CodeUnit.colon)).getLast? ≠ some CodeUnit.point) :
    ¬ RootedAddress value := by
  rintro ⟨route, host, port, labelled, rfl, spelled, isCut⟩
  have free : ∀ unit ∈ host ++ [CodeUnit.point], unit ≠ CodeUnit.colon := by
    rintro unit inside rfl
    rcases List.mem_append.mp inside with before | last
    · have there := List.mem_map_of_mem (f := CodeUnit.lower) before
      rw [spelled] at there
      exact (labelled.address.1 _ there).2 rfl
    · exact absurd (List.mem_singleton.mp last) (by decide)
  rw [List.append_cons, takeWhile_of_isCut free isCut, List.getLast?_concat] at final
  exact final rfl

theorem not_kelvinAddress {value : Text} (absent : kelvin ∉ value) : ¬ KelvinAddress value := by
  rintro ⟨route, host, tail, -, rfl, -, signed, -⟩
  exact absent (List.mem_append_left tail signed)

/-- A service of a workspace, in mixed case and with a port. -/
theorem readsForm_shop :
    ReadsForm "HOST:" " Shop.Acme.optics.run:8443 " ∧
      parseRouteFromHostHeader "HOST: Shop.Acme.optics.run:8443 " = some ⟨"shop", "acme"⟩ :=
  ⟨(readsForm_iff "HOST:" " Shop.Acme.optics.run:8443 " (by decide)).mpr
    ⟨not_rootedAddress (by decide), not_kelvinAddress (by decide)⟩, by decide⟩

/-- A name with the Kelvin sign. -/
def kelvinHost : Text := kelvin :: domain

/-- A point before a port is refused, a port behind a point changes the result, and the Kelvin
sign is read as a letter. -/
theorem not_readsForm :
    ¬ ReadsForm "Host:" " acme.optics.run.:443" ∧ ¬ ReadsForm "Host:" " acme.optics.run." ∧
      ¬ ReadsForm "Host:" kelvinHost := by
  have labelled : Labelled ⟨[], "acme"⟩ := ⟨.inl rfl, by decide⟩
  refine ⟨fun reads => ?_, fun reads => ?_, fun reads => ?_⟩
  · have formed : HostForm (Text.trim " acme.optics.run.:443") ⟨[], "acme"⟩ :=
      ⟨labelled, "acme.optics.run", ".", ":443", by decide, by decide, .inr rfl, .inr rfl⟩
    exact absurd ((reads.form _).mpr formed) (by decide)
  · have read := reads.port ⟨[], "acme"⟩ ":443" (by decide)
      (.inr ⟨"443", by decide, by decide, List.all_eq_true.mp (by decide)⟩)
    exact absurd read (by decide)
  · obtain ⟨-, host, root, port, split, spelled, -⟩ :=
      (reads.form ⟨[], "k"⟩).mp (by decide)
    have trimmed : kelvinHost.trim = kelvinHost := by decide
    rw [trimmed] at split
    cases host with
    | nil => cases spelled
    | cons unit rest =>
      obtain ⟨rfl, -⟩ := List.cons.inj split
      exact absurd (List.cons.inj spelled).1 (by decide)

end Gateway

end OpticsHub
