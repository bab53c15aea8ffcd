import TrafficGateway.Partition.Version
import TrafficGateway.Proofs.Balance.Selector
import TrafficGateway.Proofs.Dict

/-!
# What version partitions choose from

A request wants a version (`wantedVersion`). It is served by a node that carries this version, if there
is one and the version is not the default, and otherwise by any node. This is said over the list of
tagged nodes (`VersionRouter.candidates`), and it holds whatever requests were served before, since picks
move the places of selectors and nothing else (`VersionRouter.Serves`).

## Main statements

* `VersionRouter.build_cases`: what is built serves the nodes, and what cannot be built.
* `VersionRouter.Serves.choose_eq`: the one selector that serves a request.
* `VersionRouter.Serves.choose`: what a pick is, and what is kept by it.
-/

namespace TrafficGateway

variable {α : Type}

/-- The version that a request is to be served from: the first of the one that it asks for and the one
of this process that is not empty. -/
def wantedVersion (localVersion : String) (c : RouteContext) : String :=
  ([c.version.getD "", localVersion].find? (· ≠ "")).getD defaultVersion

namespace VersionRouter

/-- The nodes that a request for a version may be sent to. -/
def candidates (version : String) (items : List (Tagged α)) : List (Node α) :=
  if version ≠ defaultVersion ∧ nodesOf version items ≠ [] then nodesOf version items
  else items.map (·.node)

theorem candidates_eq_nil_iff {version : String} {items : List (Tagged α)} :
    candidates version items = [] ↔ items = [] := by
  unfold candidates
  split
  · next h =>
    have hne : items ≠ [] := fun hnil => h.2 (by rw [hnil]; rfl)
    exact ⟨fun hnil => absurd hnil h.2, fun hnil => absurd hnil hne⟩
  · exact List.map_eq_nil_iff

/-- The nodes of the partition of a version. -/
def members (version : String) (items : List (Tagged α)) : List (Node α) :=
  if version = defaultVersion then items.map (·.node) else nodesOf version items

/-- The version of the partition that serves requests for a version. -/
def serving (version : String) (items : List (Tagged α)) : String :=
  if version ≠ defaultVersion ∧ nodesOf version items ≠ [] then version else defaultVersion

theorem candidates_eq (version : String) (items : List (Tagged α)) :
    candidates version items = members (serving version items) items := by
  unfold candidates serving
  split
  · next h => rw [members, if_neg h.1]
  · rw [members, if_pos rfl]

/-- The router with another selector for a version. -/
def put (r : VersionRouter α) (version : String) (s : Selector α) : VersionRouter α :=
  if version = defaultVersion then { r with all := s }
  else { r with tagged := r.tagged.insert version s }

@[simp] theorem partition_put (r : VersionRouter α) (version version' : String) (s : Selector α) :
    (r.put version s).partition version' =
      if version' = version then some s else r.partition version' := by
  unfold put partition
  by_cases hv : version = defaultVersion
  · rw [if_pos hv, hv]
    split <;> rfl
  · rw [if_neg hv, Dict.get?_insert]
    by_cases hv' : version' = defaultVersion
    · rw [if_pos hv', if_neg (hv' ▸ Ne.symm hv), if_pos hv']
    · rw [if_neg hv', if_neg hv']
      simp only [eq_comm]

/-- The router serves tagged nodes for a process of some version. -/
structure Serves (r : VersionRouter α) (localVersion : String) (items : List (Tagged α)) : Prop where
  localVersion : r.localVersion = localVersion
  all : r.all.Over (items.map (·.node))
  tagged : r.tagged.Assigns (fun v => isVersionTag v ∧ nodesOf v items ≠ [])
    fun v s => s.Over (nodesOf v items)

theorem resolve_eq (r : VersionRouter α) (c : RouteContext) :
    r.resolve c = wantedVersion r.localVersion c := by
  have hempty : ∀ v : String, v.isEmpty = true ↔ v = "" := fun v => String.isEmpty_iff
  unfold resolve resolve.fallback wantedVersion
  cases c.version with
  | none => by_cases hl : r.localVersion = "" <;> simp [hl, hempty]
  | some v => by_cases hv : v = "" <;> by_cases hl : r.localVersion = "" <;> simp [hv, hl, hempty]

theorem wantedVersion_ne_empty (localVersion : String) (c : RouteContext) :
    wantedVersion localVersion c ≠ "" := by
  unfold wantedVersion
  cases hfind : [c.version.getD "", localVersion].find? (· ≠ "") with
  | none => simp [defaultVersion]
  | some v => simpa using List.find?_some hfind

/-- The partitions of tagged nodes are those of the version tags that some of them carry. -/
theorem mem_tags (items : List (Tagged α)) (v : String) :
    v ∈ ((items.map (·.version)).filter isVersionTag).eraseDups ↔
      isVersionTag v ∧ nodesOf v items ≠ [] := by
  simp [nodesOf, List.filter_eq_nil_iff, and_comm]

/-- The nodes of a version can be built over if all nodes can. -/
theorem build_cases (f : SelectorFactory) (kind : SelectorKind) (localVersion : String)
    (items : List (Tagged α)) :
    (∃ r, build f kind localVersion items = .ok r ∧ r.Serves localVersion items ∧
      (kind = .weightedRoundRobin → ∀ t ∈ items, 0 < t.node.weight)) ∨
    ∃ t ∈ items, build f kind localVersion items = .error (.invalidWeight t.node.id 0) ∧
      t.node.weight = 0 ∧ kind = .weightedRoundRobin := by
  rcases f.build_cases kind (items.map (·.node)) with ⟨all, hall, hover, hpos⟩ | ⟨n, hn, herr, hzero⟩
  · left
    have hitems : kind = .weightedRoundRobin → ∀ t ∈ items, 0 < t.node.weight :=
      fun hkind t ht => hpos hkind _ (List.mem_map_of_mem ht)
    have hgroup : ∀ v, ∃ s, f.build kind (nodesOf v items) = .ok s := by
      refine fun v => f.build_ok fun hkind n hn => ?_
      obtain ⟨t, ht, rfl⟩ := List.mem_map.1 hn
      exact hitems hkind t (List.mem_of_mem_filter ht)
    obtain ⟨tagged, htagged, hassigns⟩ := Dict.assigns_ofKeys (mem_tags items)
      (fun v _ => hgroup v) fun v s hs => SelectorFactory.over_of_build hs
    refine ⟨⟨all, tagged, localVersion⟩, ?_, ⟨rfl, hover, hassigns⟩, hitems⟩
    simp only [build, hall, ok_bind, htagged]
    rfl
  · right
    obtain ⟨t, ht, rfl⟩ := List.mem_map.1 hn
    refine ⟨t, ht, ?_, hzero⟩
    rw [build, herr]
    rfl

variable {r : VersionRouter α} {localVersion : String} {items : List (Tagged α)}

/-- The selector of a version was built over the nodes that carry it. -/
theorem build_partition {f : SelectorFactory} {kind : SelectorKind} {version : String} {s : Selector α}
    (h : build f kind localVersion items = .ok r) (hs : r.partition version = some s) :
    f.build kind (members version items) = .ok s := by
  obtain ⟨all, hall, hrest⟩ := bind_eq_ok_iff.1 h
  obtain ⟨tagged, htagged, hr⟩ := bind_eq_ok_iff.1 hrest
  obtain rfl := Except.ok.inj hr
  unfold partition at hs
  unfold members
  by_cases hv : version = defaultVersion
  · rw [if_pos hv] at hs ⊢
    exact Option.some.inj hs ▸ hall
  · rw [if_neg hv, Dict.get?_ofKeys htagged] at hs
    rw [if_neg hv]
    split at hs
    · exact toOption_eq_some_iff.1 hs
    · cases hs

/-- Giving a partition the selector that it has changes nothing. -/
theorem put_eq_self {version : String} {s : Selector α} (hs : r.partition version = some s) :
    r.put version s = r := by
  unfold partition at hs
  unfold put
  by_cases hv : version = defaultVersion
  · rw [if_pos hv] at hs ⊢
    obtain rfl := Option.some.inj hs
    rfl
  · rw [if_neg hv] at hs ⊢
    rw [Dict.insert_eq_self hs]

/-- A request for the default version, or for one that no node carries, is served by any node. -/
theorem choose_of_default {c : RouteContext}
    (h : r.resolve c = defaultVersion ∨ r.tagged.get? (r.resolve c) = none) :
    r.choose c = r.chooseDefault c.hashKey := by
  unfold choose
  by_cases hv : r.resolve c = defaultVersion
  · simp only [if_pos hv]
  · simp only [if_neg hv, h.resolve_left hv]

/-- Any other request is served by the selector of its version. -/
theorem choose_of_tagged {c : RouteContext} {s : Selector α} {node : Node α}
    (hv : r.resolve c ≠ defaultVersion) (hs : r.tagged.get? (r.resolve c) = some s)
    (hok : (s.select c.hashKey).1 = .ok node) :
    r.choose c =
      (.ok node, { r with tagged := r.tagged.insert (r.resolve c) (s.select c.hashKey).2 }) := by
  unfold choose
  simp only [if_neg hv, hs, hok]

/-- The selector of a partition is over its nodes. -/
theorem Serves.partition (h : r.Serves localVersion items) {version : String} {s : Selector α}
    (hs : r.partition version = some s) : s.Over (members version items) := by
  unfold VersionRouter.partition at hs
  unfold members
  by_cases hv : version = defaultVersion
  · rw [if_pos hv] at hs ⊢
    exact Option.some.inj hs ▸ h.all
  · rw [if_neg hv] at hs ⊢
    exact (h.tagged.of_some hs).2

/-- The selector of a partition may be replaced by another one over its nodes. -/
theorem Serves.put (h : r.Serves localVersion items) {version : String} {s s' : Selector α}
    (hs : r.partition version = some s) (hover : s'.Over (members version items)) :
    (r.put version s').Serves localVersion items := by
  unfold VersionRouter.partition at hs
  unfold members at hover
  unfold VersionRouter.put
  by_cases hv : version = defaultVersion
  · rw [if_pos hv] at hover ⊢
    exact { h with all := hover }
  · rw [if_neg hv] at hs hover ⊢
    exact { h with tagged := h.tagged.insert (h.tagged.of_some hs).1 hover }

/-- **A request is served by one partition.** What is picked is what its selector picks, and no other
selector moves. -/
theorem Serves.choose_eq (h : r.Serves localVersion items) (c : RouteContext) :
    ∃ s, r.partition (serving (wantedVersion localVersion c) items) = some s ∧
      r.choose c = ((s.select c.hashKey).1,
        r.put (serving (wantedVersion localVersion c) items) (s.select c.hashKey).2) := by
  have hresolve : r.resolve c = wantedVersion localVersion c := by rw [resolve_eq, h.localVersion]
  rw [serving, ← hresolve]
  by_cases hv : r.resolve c = defaultVersion
  · rw [if_neg fun hcand => hcand.1 hv, choose_of_default (.inl hv)]
    exact ⟨r.all, rfl, rfl⟩
  · cases hs : r.tagged.get? (r.resolve c) with
    | none =>
      have hne : r.resolve c ≠ "" := hresolve ▸ wantedVersion_ne_empty localVersion c
      have htag : isVersionTag (r.resolve c) := by simp [isVersionTag, hne, hv]
      rw [choose_of_default (.inr hs), if_neg fun hcand => h.tagged.of_none hs ⟨htag, hcand.2⟩]
      exact ⟨r.all, rfl, rfl⟩
    | some s =>
      obtain ⟨⟨-, hnodes⟩, hover⟩ := h.tagged.of_some hs
      obtain ⟨node, -, hok⟩ := (hover.isPick c.hashKey).exists_ok hnodes
      rw [if_pos ⟨hv, hnodes⟩, choose_of_tagged hv hs hok]
      refine ⟨s, ?_, ?_⟩
      · rw [VersionRouter.partition, if_neg hv, hs]
      · rw [VersionRouter.put, if_neg hv, hok]

/-- **A pick is one of the candidates** for the version that the request wants, and the router serves
the same nodes after it. -/
theorem Serves.choose (h : r.Serves localVersion items) (c : RouteContext) :
    IsPick (candidates (wantedVersion localVersion c) items) (r.choose c).1 ∧
      (r.choose c).2.Serves localVersion items := by
  obtain ⟨s, hs, hchoose⟩ := h.choose_eq c
  have hover := h.partition hs
  rw [candidates_eq, hchoose]
  exact ⟨hover.isPick c.hashKey, h.put hs (hover.select c.hashKey)⟩

end VersionRouter

end TrafficGateway
