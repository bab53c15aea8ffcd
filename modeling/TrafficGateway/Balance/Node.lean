/-!
# Nodes

What a selector chooses among.

## Main definitions

* `Node`: a named, weighted item.
* `firstUnweighted`: the first node of a list that has no weight.
-/

namespace TrafficGateway

/-- A named, weighted item that a selector may choose. -/
structure Node (α : Type) where
  id : String
  data : α
  weight : Nat
  deriving DecidableEq, Repr, Inhabited

/-- The first node with weight zero. -/
def firstUnweighted {α : Type} (nodes : List (Node α)) : Option (Node α) :=
  nodes.find? fun n => n.weight == 0

theorem firstUnweighted_eq_none_iff {α : Type} {nodes : List (Node α)} :
    firstUnweighted nodes = none ↔ ∀ n ∈ nodes, 0 < n.weight := by
  simp [firstUnweighted, Nat.pos_iff_ne_zero]

end TrafficGateway
