import TrafficGateway.Balance.Selector
import TrafficGateway.Proofs.Balance.Walk

/-!
# What selectors choose from

A selector chooses one of the nodes that it was built over, and fails only if there are none. This holds
in every state that it can come to, whatever its kind is and wherever its place, counter or threshold
stands, so it is said without them: a selector *is over* a list of nodes (`Selector.Over`), which
picks keep.

## Main statements

* `SelectorFactory.build_cases`: what is built is over the nodes, and what cannot be built.
* `Selector.Over.isPick`, `Selector.Over.select`: what a pick is, and what is kept by it.
-/

namespace TrafficGateway

variable {α : Type}

/-- A pick among nodes is one of them, or the failure that there are none. -/
def IsPick (nodes : List (Node α)) : Except BackendError (Node α) → Prop
  | .ok node => node ∈ nodes
  | .error e => e = .noNodes ∧ nodes = []

/-- Where there are nodes, a pick does not fail. -/
theorem IsPick.exists_ok {nodes : List (Node α)} {pick : Except BackendError (Node α)}
    (h : IsPick nodes pick) (hne : nodes ≠ []) : ∃ node ∈ nodes, pick = .ok node := by
  cases pick with
  | ok node => exact ⟨node, h, rfl⟩
  | error e => exact absurd h.2 hne

/-- A place that is reduced by the number of nodes is the place of one. -/
theorem exists_getElem?_mod {nodes : List (Node α)} (hne : nodes ≠ []) (i : Nat) :
    ∃ node ∈ nodes, nodes[i % nodes.length]? = some node := by
  have hlt : i % nodes.length < nodes.length := Nat.mod_lt _ (List.length_pos_iff.2 hne)
  exact ⟨_, List.getElem_mem hlt, List.getElem?_eq_getElem hlt⟩

namespace Selector

/-- The selector is over a list of nodes, wherever it stands. -/
def Over (nodes : List (Node α)) : Selector α → Prop
  | failing e => e = .noNodes ∧ nodes = []
  | single node => nodes = [node]
  | roundRobin s => s.nodes = nodes ∧ nodes ≠ []
  | weighted s => s.nodes = nodes
  | hashed s => s.nodes = nodes ∧ nodes ≠ []

variable {s : Selector α} {nodes : List (Node α)}

/-- What a selector chooses is one of its nodes. -/
theorem Over.isPick (h : s.Over nodes) (key : Option String) : IsPick nodes (s.select key).1 := by
  cases s with
  | failing e => exact h
  | single node => exact h ▸ List.mem_cons_self
  | roundRobin r =>
    obtain ⟨rfl, hne⟩ := h
    obtain ⟨node, hnode, hplace⟩ := exists_getElem?_mod hne r.counter.toNat
    simp only [select, RoundRobin.select, RoundRobin.place, hplace]
    exact hnode
  | weighted w =>
    obtain rfl := h
    exact w.nodes_advance ▸ List.get_mem ..
  | hashed k =>
    obtain ⟨rfl, hne⟩ := h
    obtain ⟨node, hnode, hplace⟩ := exists_getElem?_mod hne
      (k.function.digestText (key.getD noKeySentinel)).toNat
    simp only [select, HashSelector.select, HashSelector.place, hplace]
    exact hnode

/-- A pick leaves the selector over the same nodes. -/
theorem Over.select (h : s.Over nodes) (key : Option String) : (s.select key).2.Over nodes := by
  cases s with
  | failing e => exact h
  | single node => exact h
  | roundRobin r =>
    obtain ⟨rfl, hne⟩ := h
    obtain ⟨node, -, hplace⟩ := exists_getElem?_mod hne r.counter.toNat
    simp only [Selector.select, RoundRobin.select, RoundRobin.place, hplace]
    exact ⟨rfl, hne⟩
  | weighted w => exact (w.nodes_advance).trans h
  | hashed k => exact h

end Selector

namespace SelectorFactory

/-- A selector of any kind can be built over nodes of which weighted round robin can use each. -/
theorem build_cases (f : SelectorFactory) (kind : SelectorKind) (nodes : List (Node α)) :
    (∃ s, f.build kind nodes = .ok s ∧ s.Over nodes ∧
      (kind = .weightedRoundRobin → ∀ n ∈ nodes, 0 < n.weight)) ∨
    ∃ n ∈ nodes, f.build kind nodes = .error (.invalidWeight n.id 0) ∧ n.weight = 0 ∧
      kind = .weightedRoundRobin := by
  unfold build
  split
  · next node hnode =>
    -- Weighted round robin has found a node without weight.
    right
    split at hnode
    · next hkind =>
      have hzero : node.weight = 0 := by simpa using List.find?_some hnode
      exact ⟨node, List.mem_of_find?_eq_some hnode, by rw [hzero], hzero, hkind⟩
    · cases hnode
  · next hnone =>
    left
    have hpos : kind = .weightedRoundRobin → ∀ n ∈ nodes, 0 < n.weight := by
      intro hkind
      rw [if_pos hkind] at hnone
      exact firstUnweighted_eq_none_iff.1 hnone
    split
    · exact ⟨_, rfl, ⟨rfl, rfl⟩, hpos⟩
    · exact ⟨_, rfl, rfl, hpos⟩
    · next hne _ =>
      cases kind with
      | roundRobin => exact ⟨_, rfl, ⟨rfl, hne⟩, hpos⟩
      | weightedRoundRobin =>
        obtain ⟨w, hw, hnodes, -⟩ := WeightedRoundRobin.ofNodes_isBefore hne (hpos rfl)
        exact ⟨.weighted w, by simp only [hw, Except.map], hnodes, hpos⟩
      | hash function => exact ⟨_, rfl, ⟨rfl, hne⟩, hpos⟩

/-- What is built over nodes is over them. -/
theorem over_of_build {f : SelectorFactory} {kind : SelectorKind} {nodes : List (Node α)}
    {s : Selector α} (h : f.build kind nodes = .ok s) : s.Over nodes := by
  rcases f.build_cases kind nodes with ⟨s', hs, hover, -⟩ | ⟨_, _, herr, -⟩
  · rw [hs] at h
    exact Except.ok.inj h ▸ hover
  · rw [herr] at h
    cases h

theorem build_ok (f : SelectorFactory) {kind : SelectorKind} {nodes : List (Node α)}
    (hpos : kind = .weightedRoundRobin → ∀ n ∈ nodes, 0 < n.weight) :
    ∃ s, f.build kind nodes = .ok s := by
  rcases f.build_cases kind nodes with ⟨s, hs, -⟩ | ⟨n, hn, -, hzero, hkind⟩
  · exact ⟨s, hs⟩
  · exact absurd (hpos hkind n hn) (by omega)

end SelectorFactory

end TrafficGateway
