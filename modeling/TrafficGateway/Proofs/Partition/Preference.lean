import TrafficGateway.Partition.ServiceTable
import TrafficGateway.Proofs.Partition.Nearby

/-!
# What service tables prefer

A table prefers the instances that are near (`ServiceTable.nearest`) and among these the ones of the
version that a request wants (`wantedVersion`). Every pick respects both preferences, place before
version, and only a table without instances fails (`ServiceTable.choose_preferred`).

## Main definitions

* `ServiceTable.nearest`: the instances of the zone, of the region, or all.
* `ServiceTable.IsPreferred`: a pick that respects the preferences.
* `ServiceTable.Serves`: the invariant of a table, which every pick keeps.
-/

namespace TrafficGateway

namespace ServiceTable

/-- The instances that are nearest to where a process runs: those in its zone if there are any,
otherwise those in its region if there are any, otherwise all. -/
def nearest (here : Option Locality) (instances : List Instance) : List Instance :=
  match here with
  | none => instances
  | some l =>
    let sameRegion := instances.filter fun i => i.region = l.region ∧ i.region ≠ ""
    let sameZone := sameRegion.filter fun i => i.zone = l.zone ∧ i.zone ≠ ""
    if sameZone ≠ [] then sameZone else if sameRegion ≠ [] then sameRegion else instances

/-- A pick respects the preferences: it is one of the nearest instances, of the wanted version if that is
not the default and one of them has it. Only where there are no instances there is no pick. -/
def IsPreferred (options : TableOptions) (instances : List Instance) (c : RouteContext) :
    Except BackendError Instance → Prop
  | .ok i =>
    let near := nearest options.locality instances
    let wanted := wantedVersion options.localVersion c
    (∃ j ∈ near, i = j.normalize) ∧
      (wanted ≠ defaultVersion → (∃ j ∈ near, j.normalizedVersion = wanted) → i.version = wanted)
  | .error e => e = .noNodes ∧ instances = []

/-- The table after some picks. -/
def after (t : ServiceTable) (contexts : List RouteContext) : ServiceTable :=
  contexts.foldl (fun t c => (t.choose c).2) t

/-! ## Instances as nodes -/

/-- An instance as a node of a table. -/
def place (i : Instance) : Placed Instance :=
  ⟨i.normalizedVersion, ⟨i.region, i.zone⟩, toNode i.normalize⟩

theorem nearest_eq_nil_iff {here : Option Locality} {instances : List Instance} :
    nearest here instances = [] ↔ instances = [] := by
  unfold nearest
  cases here with
  | none => rfl
  | some l =>
    constructor
    · intro h
      simp only at h
      split at h
      · contradiction
      · split at h
        · contradiction
        · exact h
    · rintro rfl
      rfl

/-- The vicinity of a process holds the nodes of the instances that are nearest to it. -/
theorem vicinity_map_place (l : Locality) (instances : List Instance) :
    NearbyRouter.vicinity l (instances.map place) = (nearest (some l) instances).map place := by
  have hregion : NearbyRouter.inRegion l.region (instances.map place) =
      (instances.filter fun i => i.region = l.region ∧ i.region ≠ "").map place := by
    unfold NearbyRouter.inRegion
    rw [List.filter_filter, List.filter_map]
    congr 1
    refine List.filter_congr fun i _ => ?_
    rw [Bool.eq_iff_iff]
    simp [place, Placed.hasRegion]
  have hzone : NearbyRouter.inZone l (instances.map place) =
      ((instances.filter fun i => i.region = l.region ∧ i.region ≠ "").filter
        fun i => i.zone = l.zone ∧ i.zone ≠ "").map place := by
    unfold NearbyRouter.inZone
    rw [List.filter_filter, List.filter_filter, List.filter_map]
    congr 1
    refine List.filter_congr fun i _ => ?_
    have hplace : (⟨i.region, i.zone⟩ : Locality) = l ↔ i.region = l.region ∧ i.zone = l.zone := by
      cases l
      simp
    rw [Bool.eq_iff_iff]
    simp [place, Placed.hasZone, Placed.hasRegion, hplace]
    tauto
  unfold NearbyRouter.vicinity NearbyRouter.around nearest
  rw [hregion, hzone]
  simp only [ne_eq, List.map_eq_nil_iff]
  split
  · rfl
  · split <;> rfl

/-- A candidate among the nearest instances is a preferred pick. -/
theorem isPreferred_of_isPick {options : TableOptions} {instances : List Instance} {c : RouteContext}
    {pick : Except BackendError (Node Instance)}
    (h : IsPick (VersionRouter.candidates (wantedVersion options.localVersion c)
      ((nearest options.locality instances).map fun i => (place i).toTagged)) pick) :
    IsPreferred options instances c (pick.map (·.data)) := by
  cases pick with
  | error e =>
    refine ⟨h.1, ?_⟩
    exact nearest_eq_nil_iff.1 (List.map_eq_nil_iff.1 (VersionRouter.candidates_eq_nil_iff.1 h.2))
  | ok node =>
    have hnode : node ∈ VersionRouter.candidates _ _ := h
    unfold VersionRouter.candidates at hnode
    split at hnode
    · -- Only instances of the wanted version are candidates.
      obtain ⟨t, ht, rfl⟩ := List.mem_map.1 hnode
      obtain ⟨hmem, hversion⟩ := List.mem_filter.1 ht
      obtain ⟨j, hj, rfl⟩ := List.mem_map.1 hmem
      exact ⟨⟨j, hj, rfl⟩, fun _ _ => eq_of_beq hversion⟩
    · next hany =>
      obtain ⟨t, ht, rfl⟩ := List.mem_map.1 hnode
      obtain ⟨j, hj, rfl⟩ := List.mem_map.1 ht
      refine ⟨⟨j, hj, rfl⟩, fun hwanted ⟨k, hk, hversion⟩ => absurd ⟨hwanted, ?_⟩ hany⟩
      -- An instance of the wanted version would have been a candidate.
      refine List.ne_nil_of_mem (List.mem_map_of_mem (List.mem_filter.2 ⟨List.mem_map_of_mem hk, ?_⟩))
      exact beq_iff_eq.2 hversion

/-! ## Tables -/

/-- The table serves instances, by version only or by locality first as its options say. -/
inductive Serves (options : TableOptions) (instances : List Instance) : ServiceTable → Prop where
  | versioned {is : List Instance} {r : VersionRouter Instance} (hplace : options.locality = none)
      (h : r.Serves options.localVersion (instances.map fun i => (place i).toTagged)) :
      Serves options instances ⟨is, .versioned r⟩
  | nearby {is : List Instance} {r : NearbyRouter Instance} {here : Locality}
      (hplace : options.locality = some here)
      (h : r.Serves options.localVersion here (instances.map place)) :
      Serves options instances ⟨is, .nearby r⟩

theorem build_of_none {f : SelectorFactory} {options : TableOptions} {instances : List Instance}
    (h : options.locality = none) :
    build f options instances =
      (VersionRouter.build f options.kind options.localVersion
        (instances.map fun i => (place i).toTagged)).map fun r =>
          ⟨instances.map (·.normalize), .versioned r⟩ := by
  unfold build
  simp only [h, List.map_map]
  exact bind_pure_comp ..

theorem build_of_some {f : SelectorFactory} {options : TableOptions} {instances : List Instance}
    {here : Locality} (h : options.locality = some here) :
    build f options instances =
      (NearbyRouter.build f options.kind options.localVersion here (instances.map place)).map fun r =>
        ⟨instances.map (·.normalize), .nearby r⟩ := by
  unfold build
  simp only [h, List.map_map]
  exact bind_pure_comp ..

/-- A table can be built unless weighted round robin meets an instance without weight. -/
theorem build_cases (f : SelectorFactory) (options : TableOptions) (instances : List Instance) :
    (∃ t, build f options instances = .ok t ∧ Serves options instances t ∧
      (options.kind = .weightedRoundRobin → ∀ i ∈ instances, 0 < i.weight.toNat)) ∨
    ∃ i ∈ instances, build f options instances = .error (.invalidWeight i.authority 0) ∧
      i.weight.toNat = 0 ∧ options.kind = .weightedRoundRobin := by
  cases hplace : options.locality with
  | none =>
    rw [build_of_none hplace]
    rcases VersionRouter.build_cases f options.kind options.localVersion
      (instances.map fun i => (place i).toTagged) with ⟨r, hr, hserves, hpos⟩ | ⟨t, ht, herr, hzero⟩
    · left
      rw [hr]
      exact ⟨_, rfl, .versioned hplace hserves, fun hkind i hi =>
        hpos hkind _ (List.mem_map_of_mem hi)⟩
    · right
      rw [herr]
      obtain ⟨i, hi, rfl⟩ := List.mem_map.1 ht
      exact ⟨i, hi, rfl, hzero⟩
  | some here =>
    rw [build_of_some hplace]
    rcases NearbyRouter.build_cases f options.kind options.localVersion here
      (instances.map place) with ⟨r, hr, hserves, hpos⟩ | ⟨p, hp, herr, hzero⟩
    · left
      rw [hr]
      exact ⟨_, rfl, .nearby hplace hserves, fun hkind i hi =>
        hpos hkind _ (List.mem_map_of_mem hi)⟩
    · right
      rw [herr]
      obtain ⟨i, hi, rfl⟩ := List.mem_map.1 hp
      exact ⟨i, hi, rfl, hzero⟩

variable {t : ServiceTable} {options : TableOptions} {instances : List Instance}

/-- A pick respects the preferences, and the table serves the same instances after it. -/
theorem Serves.choose (h : Serves options instances t) (c : RouteContext) :
    IsPreferred options instances c (t.choose c).1 ∧ Serves options instances (t.choose c).2 := by
  cases h with
  | versioned hplace h =>
    obtain ⟨hpick, hserves⟩ := h.choose c
    refine ⟨isPreferred_of_isPick ?_, .versioned hplace hserves⟩
    rw [hplace]
    exact hpick
  | nearby hplace h =>
    obtain ⟨hpick, hserves⟩ := h.choose c
    refine ⟨isPreferred_of_isPick ?_, .nearby hplace hserves⟩
    rw [vicinity_map_place, List.map_map] at hpick
    rw [hplace]
    exact hpick

theorem Serves.after (h : Serves options instances t) (contexts : List RouteContext) :
    Serves options instances (t.after contexts) :=
  List.foldlRecOn contexts _ h fun _ h c _ => (Serves.choose h c).2

/-- **A service table prefers what is near, then what is wanted.** It cannot be built exactly if weighted
round robin meets an instance without weight. Otherwise every pick, whatever was picked before, is one of
the nearest instances, of the wanted version if that is not the default and one of them has it; and there
is no pick, for want of nodes, exactly if there are no instances. -/
theorem choose_preferred (f : SelectorFactory) (options : TableOptions) (instances : List Instance) :
    ((∃ e, build f options instances = .error e) ↔
      options.kind = .weightedRoundRobin ∧ ∃ i ∈ instances, i.weight = 0) ∧
    ∀ t, build f options instances = .ok t → ∀ (history : List RouteContext) (c : RouteContext),
      IsPreferred options instances c ((t.after history).choose c).1 := by
  rcases build_cases f options instances with ⟨t, ht, hserves, hpos⟩ | ⟨i, hi, herr, hzero, hkind⟩
  · refine ⟨⟨fun ⟨e, he⟩ => ?_, fun ⟨hkind, i, hi, hzero⟩ => ?_⟩, fun t' ht' history c => ?_⟩
    · rw [ht] at he
      cases he
    · have hweight := hpos hkind i hi
      rw [hzero] at hweight
      exact absurd hweight (by decide)
    · obtain rfl := Except.ok.inj (ht.symm.trans ht')
      exact ((hserves.after history).choose c).1
  · have hweight : i.weight = 0 := UInt32.toNat_inj.1 hzero
    refine ⟨⟨fun _ => ⟨hkind, i, hi, hweight⟩, fun _ => ⟨_, herr⟩⟩, fun t' ht' => ?_⟩
    rw [herr] at ht'
    cases ht'

/-- Of two instances in the zone of the process and one elsewhere, a request is always served by the one
in the zone that has its version. -/
theorem choose_preferred_zone :
    let a : Instance := ⟨"10.0.0.1", 80, 3, "v2", "eu", "eu-1"⟩
    let b : Instance := ⟨"10.0.0.2", 80, 1, "", "eu", "eu-1"⟩
    let c : Instance := ⟨"10.0.0.3", 80, 1, "v2", "us", "us-1"⟩
    let options : TableOptions := ⟨.weightedRoundRobin, "", some ⟨"eu", "eu-1"⟩⟩
    ∃ t, build {} options [c, b, a] = .ok t ∧
      ∀ history, ((t.after history).choose { version := some "v2" }).1 = .ok a := by
  intro a b c options
  obtain ⟨hbuild, hchoose⟩ := choose_preferred {} options [c, b, a]
  have hnear : nearest options.locality [c, b, a] = [b, a] := by decide
  have hwanted : wantedVersion options.localVersion { version := some "v2" } = "v2" := by decide
  cases ht : build {} options [c, b, a] with
  | error e =>
    have hweight : ¬∃ i ∈ [c, b, a], i.weight = 0 := by decide
    exact absurd (hbuild.1 ⟨e, ht⟩).2 hweight
  | ok t =>
    refine ⟨t, rfl, fun history => ?_⟩
    have hpick := hchoose t ht history { version := some "v2" }
    cases hp : ((t.after history).choose { version := some "v2" }).1 with
    | error e =>
      rw [hp] at hpick
      cases hpick.2
    | ok i =>
      rw [hp] at hpick
      obtain ⟨⟨j, hj, rfl⟩, hversion⟩ := hpick
      rw [hnear] at hj hversion
      rw [hwanted] at hversion
      have hv := hversion (by decide) ⟨a, by decide, by decide⟩
      rcases List.mem_cons.1 hj with rfl | hj
      · exact absurd hv (by decide)
      · rw [List.mem_singleton.1 hj]
        rfl

end ServiceTable

end TrafficGateway
