import TrafficGateway.Proofs.Balance.Proportion
import TrafficGateway.Proofs.Balance.Selector

/-!
# Whole cycles of picks

A selector that keeps a place takes its nodes in cycles. Round robin takes each node once, and weighted
round robin takes a node of weight `w` as often as `w / g`, where `g` is the greatest common divisor of
the weights. Whatever was picked before, the picks of a whole cycle are these nodes in some order
(`SelectorFactory.perm_cycle`), as long as the counter of round robin does not wrap.

## Main definitions

* `Selector.picks`, `Selector.after`: what a selector picks for some keys, and the selector after that.
* `SelectorKind.cycle`: the nodes that a whole cycle of picks consists of.
* `Selector.Unwrapped`: the counter does not wrap in some picks.
-/

namespace TrafficGateway

variable {α : Type}

namespace Selector

/-- The picks for some keys, one after the other. -/
def picks (s : Selector α) : List (Option String) → List (Except BackendError (Node α))
  | [] => []
  | key :: keys => (s.select key).1 :: picks (s.select key).2 keys

/-- The selector after the picks for some keys. -/
def after (s : Selector α) (keys : List (Option String)) : Selector α :=
  keys.foldl (fun s key => (s.select key).2) s

@[simp] theorem after_single (node : Node α) (keys : List (Option String)) :
    (single node).after keys = single node := by
  induction keys with
  | nil => rfl
  | cons key keys ih => exact ih

/-- The counter, if there is one, does not wrap in some picks. -/
def Unwrapped (s : Selector α) (picks : Nat) : Prop :=
  match s with
  | roundRobin r => r.counter.toNat + picks ≤ UInt64.size
  | _ => True

end Selector

/-- The nodes that a whole cycle of picks consists of. A node of weight `w` is taken `w / g` times by
weighted round robin, where `g` is the greatest common divisor of the weights, and otherwise once. -/
def SelectorKind.cycle (kind : SelectorKind) (nodes : List (Node α)) : List (Node α) :=
  match kind with
  | .weightedRoundRobin =>
    nodes.flatMap fun n =>
      List.replicate (n.weight / (nodes.map (·.weight) : Multiset Nat).gcd) n
  | _ => nodes

/-! ## Round robin -/

namespace RoundRobin

variable {nodes : List (Node α)}

/-- What is at a place of a list of nodes. -/
def pickAt (nodes : List (Node α)) (i : Nat) : Except BackendError (Node α) :=
  match nodes[i]? with
  | some node => .ok node
  | none => .error .noNodes

theorem map_pickAt_range (nodes : List (Node α)) :
    (List.range nodes.length).map (pickAt nodes) = nodes.map .ok := by
  refine List.ext_getElem (by simp) fun i hi _ => ?_
  have hlt : i < nodes.length := by simpa using hi
  simp [pickAt, List.getElem?_eq_getElem hlt]

theorem select_eq (hne : nodes ≠ []) (counter : UInt64) :
    (⟨nodes, counter⟩ : RoundRobin α).select =
      (pickAt nodes (counter.toNat % nodes.length), ⟨nodes, counter + 1⟩) := by
  have hlt : counter.toNat % nodes.length < nodes.length :=
    Nat.mod_lt _ (List.length_pos_iff.2 hne)
  simp only [select, place, pickAt, List.getElem?_eq_getElem hlt, advance]

theorem toNat_add_one {counter : UInt64} (h : counter.toNat + 1 < UInt64.size) :
    (counter + 1).toNat = counter.toNat + 1 := by
  rw [UInt64.toNat_add]
  exact Nat.mod_eq_of_lt h

/-- While the counter does not wrap, its picks are those of consecutive places. -/
theorem picks_eq (hne : nodes ≠ []) (counter : UInt64) (keys : List (Option String))
    (h : counter.toNat + keys.length ≤ UInt64.size) :
    (Selector.roundRobin ⟨nodes, counter⟩).picks keys =
      (List.range' counter.toNat keys.length).map fun i => pickAt nodes (i % nodes.length) := by
  induction keys generalizing counter with
  | nil => rfl
  | cons key keys ih =>
    rw [Selector.picks, Selector.select, select_eq hne, List.length_cons, List.range'_succ,
      List.map_cons]
    congr 1
    cases keys with
    | nil => rfl
    | cons key' keys =>
      rw [List.length_cons, List.length_cons] at h
      have hnext : (counter + 1).toNat = counter.toNat + 1 := toNat_add_one (by omega)
      rw [ih (counter + 1) (by rw [hnext, List.length_cons]; omega), hnext]

theorem after_eq (hne : nodes ≠ []) (counter : UInt64) (keys : List (Option String))
    (h : counter.toNat + keys.length < UInt64.size) :
    ∃ counter', (Selector.roundRobin ⟨nodes, counter⟩).after keys = .roundRobin ⟨nodes, counter'⟩ ∧
      counter'.toNat = counter.toNat + keys.length := by
  induction keys generalizing counter with
  | nil => exact ⟨counter, rfl, rfl⟩
  | cons key keys ih =>
    rw [List.length_cons] at h
    have hnext : (counter + 1).toNat = counter.toNat + 1 := toNat_add_one (by omega)
    obtain ⟨counter', hafter, hcounter⟩ := ih (counter + 1) (by omega)
    refine ⟨counter', ?_, by rw [List.length_cons, hcounter]; omega⟩
    rw [← hafter, Selector.after, List.foldl_cons, Selector.select, select_eq hne]
    rfl

/-- As many places in a row as there are nodes are those of all nodes. -/
theorem window_perm (nodes : List (Node α)) (start : Nat) :
    ((List.range' start nodes.length).map fun i => pickAt nodes (i % nodes.length)).Perm
      (nodes.map .ok) := by
  have hplaces : ((List.range' start nodes.length).map (· % nodes.length)).Perm
      (List.range nodes.length) := by
    have hwindow : Multiset.Ico start (start + nodes.length) =
        (List.range' start (start + nodes.length - start) : Multiset Nat) := rfl
    rw [Nat.add_sub_cancel_left] at hwindow
    rw [← Multiset.coe_eq_coe, ← Multiset.map_coe, ← hwindow]
    exact Nat.multiset_Ico_map_mod start nodes.length
  have hpicks := hplaces.map (pickAt nodes)
  rwa [List.map_map, map_pickAt_range] at hpicks

end RoundRobin

/-! ## Weighted round robin -/

namespace WeightedRoundRobin

variable {s : WeightedRoundRobin α}

theorem picks_eq (s : WeightedRoundRobin α) (start : Nat) (keys : List (Option String)) :
    (Selector.weighted (s.after start)).picks keys =
      (List.range' start keys.length).map fun k => .ok (s.pick k) := by
  induction keys generalizing start with
  | nil => rfl
  | cons key keys ih =>
    have hnext : (s.after start).select.2 = s.after (start + 1) := (s.after_succ start).symm
    rw [Selector.picks, Selector.select, List.length_cons, List.range'_succ, List.map_cons, hnext, ih]
    rfl

theorem after_eq (s : WeightedRoundRobin α) (start : Nat) (keys : List (Option String)) :
    (Selector.weighted (s.after start)).after keys = .weighted (s.after (start + keys.length)) := by
  induction keys generalizing start with
  | nil => rfl
  | cons key keys ih =>
    have hnext : (s.after start).select.2 = s.after (start + 1) := (s.after_succ start).symm
    rw [Selector.after, List.foldl_cons, Selector.select, hnext]
    exact (ih (start + 1)).trans (by rw [List.length_cons, Nat.add_right_comm, Nat.add_assoc])

/-- As many picks in a row as the stops of a period are each node as often as its weight says. -/
theorem IsBefore.window_perm (h : s.IsBefore 0) (start : Nat) :
    ((List.range' start (Nat.count s.Stops s.period)).map s.pick).Perm
      (s.nodes.flatMap fun n => List.replicate (n.weight / s.stride) n) := by
  have hturn : ∀ k, s.turn k < s.nodes.length := fun k =>
    (List.getElem?_eq_some_iff.1 (s.getElem?_turn k)).1
  have hplaces : ∀ k ∈ Finset.Ico start (start + Nat.count s.Stops s.period),
      (⟨s.turn k, hturn k⟩ : Fin s.nodes.length) ∈ Finset.univ := fun _ _ => Finset.mem_univ _
  -- The picks of one node
  have hnode : ∀ i : Fin s.nodes.length,
      ∑ k ∈ (Finset.Ico start (start + Nat.count s.Stops s.period)).filter
          (fun k => (⟨s.turn k, hturn k⟩ : Fin s.nodes.length) = i), ({s.pick k} : Multiset (Node α)) =
        (List.replicate (s.nodes[i.val].weight / s.stride) s.nodes[i.val] : Multiset (Node α)) := by
    intro i
    rw [Multiset.coe_replicate, ← h.card_window i.isLt start, ← Multiset.nsmul_singleton, ← Finset.sum_const]
    simp only [Fin.ext_iff]
    refine Finset.sum_congr rfl fun k hk => ?_
    obtain ⟨-, hki⟩ := Finset.mem_filter.1 hk
    have hpick := s.getElem?_turn k
    rw [hki, List.getElem?_eq_getElem i.isLt] at hpick
    rw [Option.some.inj hpick]
  have hwindow : Multiset.Ico start (start + Nat.count s.Stops s.period) =
      (List.range' start (start + Nat.count s.Stops s.period - start) : Multiset Nat) := rfl
  rw [Nat.add_sub_cancel_left] at hwindow
  rw [← Multiset.coe_eq_coe, ← Multiset.map_coe, ← hwindow, ← Multiset.coe_bind]
  calc (Multiset.Ico start (start + Nat.count s.Stops s.period)).map s.pick
      = ∑ k ∈ Finset.Ico start (start + Nat.count s.Stops s.period), {s.pick k} := by
        rw [← Multiset.sum_map_singleton (Multiset.map s.pick _), Multiset.map_map]
        rfl
    _ = ∑ i : Fin s.nodes.length,
          (List.replicate (s.nodes[i.val].weight / s.stride) s.nodes[i.val] : Multiset (Node α)) := by
        rw [← Finset.sum_fiberwise_of_maps_to hplaces]
        exact Finset.sum_congr rfl fun i _ => hnode i
    _ = (s.nodes.map fun n => (List.replicate (n.weight / s.stride) n : Multiset (Node α))).sum :=
        Fin.sum_univ_fun_getElem s.nodes fun n =>
          (List.replicate (n.weight / s.stride) n : Multiset (Node α))

end WeightedRoundRobin

/-! ## Selectors -/

namespace SelectorFactory

variable {f : SelectorFactory} {kind : SelectorKind} {nodes : List (Node α)} {s : Selector α}

/-- What is built, one of each kind of selector that keeps a place or has no choice. -/
theorem build_of_kind (hs : f.build kind nodes = .ok s)
    (hkind : kind = .roundRobin ∨ kind = .weightedRoundRobin) :
    (nodes = [] ∧ s = .failing .noNodes) ∨
    (∃ node, nodes = [node] ∧ s = .single node ∧ (kind = .weightedRoundRobin → 0 < node.weight)) ∨
    (kind = .roundRobin ∧ nodes ≠ [] ∧ ∃ counter, s = .roundRobin ⟨nodes, counter⟩) ∨
    (kind = .weightedRoundRobin ∧ ∃ w, w.nodes = nodes ∧ w.IsBefore 0 ∧ s = .weighted w) := by
  have hpos : kind = .weightedRoundRobin → ∀ n ∈ nodes, 0 < n.weight := by
    intro hweighted
    rcases f.build_cases kind nodes with ⟨s', -, -, hpos⟩ | ⟨_, _, herr, -⟩
    · exact hpos hweighted
    · rw [hs] at herr
      cases herr
  unfold build at hs
  split at hs
  · cases hs
  · split at hs
    · exact .inl ⟨rfl, (Except.ok.inj hs).symm⟩
    · exact .inr (.inl ⟨_, rfl, (Except.ok.inj hs).symm, fun h => hpos h _ List.mem_cons_self⟩)
    · next hnil _ =>
      have hne : nodes ≠ [] := hnil
      rcases hkind with rfl | rfl
      · exact .inr (.inr (.inl ⟨rfl, hne, _, (Except.ok.inj hs).symm⟩))
      · obtain ⟨w, hw, hnodes, hbefore⟩ := WeightedRoundRobin.ofNodes_isBefore hne (hpos rfl)
        simp only [hw] at hs
        exact .inr (.inr (.inr ⟨rfl, w, hnodes, hbefore, (Except.ok.inj hs).symm⟩))

/-- **The picks of a whole cycle** are the nodes of a cycle in some order, whatever was picked before. -/
theorem perm_cycle (hs : f.build kind nodes = .ok s)
    (hkind : kind = .roundRobin ∨ kind = .weightedRoundRobin) (earlier keys : List (Option String))
    (hlength : keys.length = (kind.cycle nodes).length)
    (hwrap : s.Unwrapped (earlier.length + keys.length)) :
    ((s.after earlier).picks keys).Perm ((kind.cycle nodes).map .ok) := by
  rcases build_of_kind hs hkind with ⟨rfl, -⟩ | ⟨node, rfl, rfl, hpos⟩ |
    ⟨rfl, hne, counter, rfl⟩ | ⟨rfl, w, rfl, hbefore, rfl⟩
  · -- Without nodes there is nothing in a cycle.
    have hcycle : kind.cycle ([] : List (Node α)) = [] := by rcases hkind with rfl | rfl <;> rfl
    rw [hcycle, List.length_nil, List.length_eq_zero_iff] at hlength
    rw [hlength, hcycle]
    exact List.Perm.nil
  · -- One node is a cycle of its own: its weight is the greatest common divisor.
    have hcycle : kind.cycle [node] = [node] := by
      rcases hkind with rfl | rfl
      · rfl
      · simp [SelectorKind.cycle, Nat.div_self (hpos rfl)]
    rw [hcycle, List.length_singleton] at hlength
    obtain ⟨key, rfl⟩ := List.length_eq_one_iff.1 hlength
    rw [hcycle, Selector.after_single]
    exact List.Perm.refl _
  · -- The counter has come to some number, and the places from there on are those of all nodes.
    have hcycle : SelectorKind.roundRobin.cycle nodes = nodes := rfl
    rw [hcycle] at hlength ⊢
    have hlt : counter.toNat + earlier.length < UInt64.size := by
      have hwrap : counter.toNat + (earlier.length + keys.length) ≤ UInt64.size := hwrap
      have := List.length_pos_iff.2 hne
      omega
    obtain ⟨counter', hafter, hcounter⟩ := RoundRobin.after_eq hne counter earlier hlt
    rw [hafter, RoundRobin.picks_eq hne counter' keys (by rw [hcounter, Nat.add_assoc]; exact hwrap),
      hlength]
    exact RoundRobin.window_perm nodes counter'.toNat
  · -- A cycle has as many picks as a period has stops.
    have hcycle : SelectorKind.weightedRoundRobin.cycle w.nodes =
        w.nodes.flatMap fun n => List.replicate (n.weight / w.stride) n := by
      rw [WeightedRoundRobin.stride_eq_gcd]
      rfl
    have hperm := hbefore.window_perm earlier.length
    have hpicks : keys.length = Nat.count w.Stops w.period := by
      rw [hlength, hcycle, ← hperm.length_eq, List.length_map, List.length_range']
    have hafter := w.after_eq 0 earlier
    rw [Nat.zero_add] at hafter
    have hfresh : w.after 0 = w := rfl
    rw [hfresh] at hafter
    have hmap := hperm.map (Except.ok : Node α → Except BackendError (Node α))
    rw [List.map_map] at hmap
    rw [hafter, WeightedRoundRobin.picks_eq, hpicks, hcycle]
    exact hmap

end SelectorFactory

end TrafficGateway
