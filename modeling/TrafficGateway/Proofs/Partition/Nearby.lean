import TrafficGateway.Partition.Nearby
import TrafficGateway.Proofs.Partition.Version

/-!
# What localities choose from

A request is served from the zone it comes from if any node is there, otherwise from its region, and
otherwise from anywhere (`NearbyRouter.vicinity`). Among these nodes the version decides as in a version
partition. The tables of zones and regions that exist hold a node at least, so none of them ever fails
and the search is widened only where there is no table.

## Main definitions

* `NearbyRouter.Area`, `NearbyRouter.table`: the areas that have tables, and the table of each.
* `NearbyRouter.servingArea`: the area that requests from somewhere are served from.

## Main statements

* `NearbyRouter.build_cases`: what is built serves the nodes, and what cannot be built.
* `NearbyRouter.Serves.chooseFrom_eq`: the one table that serves a request.
* `NearbyRouter.Serves.choose`: what a pick is, and what is kept by it.
-/

namespace TrafficGateway

namespace NearbyRouter

variable {α : Type}

/-- The nodes of a region. There are none where the region is not known. -/
def inRegion (region : String) (items : List (Placed α)) : List (Placed α) :=
  (items.filter (·.hasRegion)).filter fun p => p.locality.region == region

/-- The nodes of a zone. There are none where the zone or its region is not known. -/
def inZone (place : Locality) (items : List (Placed α)) : List (Placed α) :=
  (items.filter (·.hasZone)).filter fun p => p.locality == place

/-- The nodes of a region if it has any, and otherwise all. -/
def around (region : String) (items : List (Placed α)) : List (Placed α) :=
  if inRegion region items ≠ [] then inRegion region items else items

/-- The nodes that a request from somewhere is served by. -/
def vicinity (origin : Locality) (items : List (Placed α)) : List (Placed α) :=
  if inZone origin items ≠ [] then inZone origin items else around origin.region items

/-- The tables of a dictionary serve groups of nodes, those that are not empty. -/
def ServesGroups {κ : Type} [DecidableEq κ] (tables : Dict κ (VersionRouter α))
    (localVersion : String) (group : κ → List (Placed α)) : Prop :=
  tables.Assigns (fun k => group k ≠ []) fun k t => t.Serves localVersion ((group k).map (·.toTagged))

/-- The router serves placed nodes for a process of some version that runs somewhere. -/
structure Serves (r : NearbyRouter α) (localVersion : String) (here : Locality)
    (items : List (Placed α)) : Prop where
  here : r.here = here
  everywhere : r.everywhere.Serves localVersion (items.map (·.toTagged))
  regions : ServesGroups r.regions localVersion fun region => inRegion region items
  zones : ServesGroups r.zones localVersion fun place => inZone place items

/-! ## Building -/

/-- The tables of groups can be built if one can be built over all nodes. -/
theorem servesGroups_ofKeys {κ : Type} [DecidableEq κ] (f : SelectorFactory) (kind : SelectorKind)
    (localVersion : String) (key : Placed α → κ) (known : List (Placed α))
    (hpos : kind = .weightedRoundRobin → ∀ p ∈ known, 0 < p.node.weight) :
    ∃ tables, Dict.ofKeys (fun k => VersionRouter.build f kind localVersion
        ((known.filter fun p => key p == k).map (·.toTagged))) (known.map key).eraseDups = .ok tables ∧
      ServesGroups tables localVersion fun k => known.filter fun p => key p == k := by
  have hbuild := fun k => VersionRouter.build_cases f kind localVersion
    ((known.filter fun p => key p == k).map (·.toTagged))
  refine Dict.assigns_ofKeys (fun k => ?_) (fun k _ => ?_) fun k t ht => ?_
  · simp [List.filter_eq_nil_iff]
  · rcases hbuild k with ⟨t, ht, -⟩ | ⟨t, ht, -, hzero, hkind⟩
    · exact ⟨t, ht⟩
    · obtain ⟨p, hp, rfl⟩ := List.mem_map.1 ht
      exact absurd (hpos hkind p (List.mem_of_mem_filter hp)) (by
        show ¬0 < p.toTagged.node.weight
        omega)
  · rcases hbuild k with ⟨t', ht', hserves, -⟩ | ⟨_, _, herr, -⟩
    · rw [ht'] at ht
      exact Except.ok.inj ht ▸ hserves
    · rw [herr] at ht
      cases ht

/-- The tables of regions and zones can be built if the one of all nodes can. -/
theorem build_cases (f : SelectorFactory) (kind : SelectorKind) (localVersion : String)
    (here : Locality) (items : List (Placed α)) :
    (∃ r, build f kind localVersion here items = .ok r ∧ r.Serves localVersion here items ∧
      (kind = .weightedRoundRobin → ∀ p ∈ items, 0 < p.node.weight)) ∨
    ∃ p ∈ items, build f kind localVersion here items = .error (.invalidWeight p.node.id 0) ∧
      p.node.weight = 0 ∧ kind = .weightedRoundRobin := by
  rcases VersionRouter.build_cases f kind localVersion (items.map (·.toTagged)) with
    ⟨everywhere, hall, hserves, hpos⟩ | ⟨t, ht, herr, hzero⟩
  · left
    have hitems : kind = .weightedRoundRobin → ∀ p ∈ items, 0 < p.node.weight :=
      fun hkind p hp => hpos hkind _ (List.mem_map_of_mem hp)
    obtain ⟨regions, hregions, hregion⟩ := servesGroups_ofKeys f kind localVersion
      (fun p => p.locality.region) (items.filter (·.hasRegion))
      fun hkind p hp => hitems hkind p (List.mem_of_mem_filter hp)
    obtain ⟨zones, hzones, hzone⟩ := servesGroups_ofKeys f kind localVersion
      (fun p => p.locality) (items.filter (·.hasZone))
      fun hkind p hp => hitems hkind p (List.mem_of_mem_filter hp)
    refine ⟨⟨everywhere, regions, zones, here⟩, ?_, ⟨rfl, hserves, hregion, hzone⟩, hitems⟩
    simp only [build, hall, ok_bind, hregions, hzones]
    rfl
  · right
    obtain ⟨p, hp, rfl⟩ := List.mem_map.1 ht
    refine ⟨p, hp, ?_, hzero⟩
    simp only [build, herr]
    rfl

/-! ## Areas -/

/-- Where the nodes of a table are. -/
inductive Area where
  | everywhere
  | region (name : String)
  | zone (place : Locality)
  deriving DecidableEq

/-- The nodes in an area. -/
def inArea (items : List (Placed α)) : Area → List (Placed α)
  | .everywhere => items
  | .region name => inRegion name items
  | .zone place => inZone place items

/-- The area that requests from somewhere are served from. -/
def servingArea (origin : Locality) (items : List (Placed α)) : Area :=
  if inZone origin items ≠ [] then .zone origin
  else if inRegion origin.region items ≠ [] then .region origin.region
  else .everywhere

theorem vicinity_eq (origin : Locality) (items : List (Placed α)) :
    vicinity origin items = inArea items (servingArea origin items) := by
  unfold vicinity around servingArea
  split
  · rfl
  · split <;> rfl

/-- The table of an area. -/
def table (r : NearbyRouter α) : Area → Option (VersionRouter α)
  | .everywhere => some r.everywhere
  | .region name => r.regions.get? name
  | .zone place => r.zones.get? place

/-- The router with another table for an area. -/
def put (r : NearbyRouter α) (area : Area) (t : VersionRouter α) : NearbyRouter α :=
  match area with
  | .everywhere => { r with everywhere := t }
  | .region name => { r with regions := r.regions.insert name t }
  | .zone place => { r with zones := r.zones.insert place t }

@[simp] theorem table_put (r : NearbyRouter α) (area area' : Area) (t : VersionRouter α) :
    (r.put area t).table area' = if area' = area then some t else r.table area' := by
  cases area <;> cases area' <;> simp [put, table, eq_comm]

variable {r : NearbyRouter α} {localVersion : String} {here : Locality} {items : List (Placed α)}

/-- The table of an area was built over its nodes. -/
theorem build_table {f : SelectorFactory} {kind : SelectorKind} {area : Area}
    {t : VersionRouter α} (h : build f kind localVersion here items = .ok r)
    (ht : r.table area = some t) :
    VersionRouter.build f kind localVersion ((inArea items area).map (·.toTagged)) = .ok t := by
  obtain ⟨everywhere, heverywhere, hrest⟩ := bind_eq_ok_iff.1 h
  obtain ⟨regions, hregions, hrest⟩ := bind_eq_ok_iff.1 hrest
  obtain ⟨zones, hzones, hr⟩ := bind_eq_ok_iff.1 hrest
  obtain rfl := Except.ok.inj hr
  cases area with
  | everywhere => exact Option.some.inj ht ▸ heverywhere
  | region name =>
    have hname : regions.get? name = some t := ht
    rw [Dict.get?_ofKeys hregions] at hname
    split at hname
    · exact toOption_eq_some_iff.1 hname
    · cases hname
  | zone place =>
    have hplace : zones.get? place = some t := ht
    rw [Dict.get?_ofKeys hzones] at hplace
    split at hplace
    · exact toOption_eq_some_iff.1 hplace
    · cases hplace

/-- Giving an area the table that it has changes nothing. -/
theorem put_eq_self {area : Area} {t : VersionRouter α} (ht : r.table area = some t) :
    r.put area t = r := by
  cases area with
  | everywhere =>
    obtain rfl := Option.some.inj ht
    rfl
  | region name => rw [put, Dict.insert_eq_self ht]
  | zone place => rw [put, Dict.insert_eq_self ht]

/-- The table of an area serves its nodes. -/
theorem Serves.table (h : r.Serves localVersion here items) {area : Area} {t : VersionRouter α}
    (ht : r.table area = some t) :
    t.Serves localVersion ((inArea items area).map (·.toTagged)) := by
  cases area with
  | everywhere => exact Option.some.inj ht ▸ h.everywhere
  | region name => exact (h.regions.of_some ht).2
  | zone place => exact (h.zones.of_some ht).2

/-- The table of an area may be replaced by another one that serves its nodes. -/
theorem Serves.put (h : r.Serves localVersion here items) {area : Area} {t t' : VersionRouter α}
    (ht : r.table area = some t)
    (hserves : t'.Serves localVersion ((inArea items area).map (·.toTagged))) :
    (r.put area t').Serves localVersion here items := by
  cases area with
  | everywhere => exact { h with everywhere := hserves }
  | region name => exact { h with regions := h.regions.insert (h.regions.of_some ht).1 hserves }
  | zone place => exact { h with zones := h.zones.insert (h.zones.of_some ht).1 hserves }

/-! ## Choosing -/

/-- A table that exists does not fail. -/
theorem ServesGroups.choose_ok {κ : Type} [DecidableEq κ] {tables : Dict κ (VersionRouter α)}
    {group : κ → List (Placed α)} (h : ServesGroups tables localVersion group) {k : κ}
    {t : VersionRouter α} (ht : tables.get? k = some t) (c : RouteContext) :
    ∃ node, (t.choose c).1 = .ok node := by
  obtain ⟨hne, hserves⟩ := h.of_some ht
  obtain ⟨node, -, hok⟩ := (hserves.choose c).1.exists_ok fun hnil =>
    hne (List.map_eq_nil_iff.1 (VersionRouter.candidates_eq_nil_iff.1 hnil))
  exact ⟨node, hok⟩

/-- **A request is served by one area.** What is picked is what its table picks, and no other table
changes. -/
theorem Serves.chooseFrom_eq (h : r.Serves localVersion here items) (origin : Locality)
    (c : RouteContext) :
    ∃ t, r.table (servingArea origin items) = some t ∧
      r.chooseFrom origin c = ((t.choose c).1, r.put (servingArea origin items) (t.choose c).2) := by
  unfold chooseFrom servingArea
  cases hz : r.zones.get? origin with
  | some t =>
    obtain ⟨node, hok⟩ := h.zones.choose_ok hz c
    rw [if_pos (h.zones.of_some hz).1]
    simp only [hok]
    exact ⟨t, hz, by rw [hok]; rfl⟩
  | none =>
    rw [if_neg (h.zones.of_none hz)]
    unfold chooseRegion
    cases hr : r.regions.get? origin.region with
    | some t =>
      obtain ⟨node, hok⟩ := h.regions.choose_ok hr c
      rw [if_pos (h.regions.of_some hr).1]
      simp only [hok]
      exact ⟨t, hr, by rw [hok]; rfl⟩
    | none =>
      rw [if_neg (h.regions.of_none hr)]
      exact ⟨r.everywhere, rfl, rfl⟩

/-- **A pick is one of the candidates** in the vicinity of where the request comes from, and the router
serves the same nodes after it. -/
theorem Serves.chooseFrom (h : r.Serves localVersion here items) (origin : Locality)
    (c : RouteContext) :
    IsPick (VersionRouter.candidates (wantedVersion localVersion c)
        ((vicinity origin items).map (·.toTagged))) (r.chooseFrom origin c).1 ∧
      (r.chooseFrom origin c).2.Serves localVersion here items := by
  obtain ⟨t, ht, hchoose⟩ := h.chooseFrom_eq origin c
  obtain ⟨hpick, hserves⟩ := (h.table ht).choose c
  rw [hchoose, vicinity_eq]
  exact ⟨hpick, h.put ht hserves⟩

theorem Serves.choose (h : r.Serves localVersion here items) (c : RouteContext) :
    IsPick (VersionRouter.candidates (wantedVersion localVersion c)
        ((vicinity here items).map (·.toTagged))) (r.choose c).1 ∧
      (r.choose c).2.Serves localVersion here items := by
  rw [NearbyRouter.choose, h.here]
  exact h.chooseFrom here c

end NearbyRouter

end TrafficGateway
