import TrafficGateway.Balance.RoundRobin
import TrafficGateway.Balance.Weighted
import TrafficGateway.Hash
import TrafficGateway.Text.Quoted

/-!
# Selectors

A selector chooses one node of a fixed list for each request. Round robin and weighted round robin
keep a place between picks; a hash selector sends equal keys to equal nodes.

## Main definitions

* `Selector`: a selector in one of its states.
* `Selector.select`: the node for a request with an optional key, and the selector after the pick.
* `SelectorKind`, `SelectorKind.ofName`: the choice of an algorithm.
* `SelectorFactory.build`: the selector of a kind over a list of nodes.
-/

namespace TrafficGateway

/-- The hash function with the given name. -/
def HashFunction.ofName : String → Except BackendError HashFunction
  | "crc32" => .ok .crc32
  | "murmur3" => .ok .murmur3
  | "fnv1a" => .ok .fnv1a
  | name => .error (.internal ("unknown hash function " ++ quoted name))

/-- What reports call a hash function. -/
def HashFunction.label : HashFunction → String
  | .crc32 => "Crc32"
  | .murmur3 => "Murmur3"
  | .fnv1a => "Fnv1a"

/-- The key that is hashed for a request without one, so that such requests stay together. -/
def noKeySentinel : String := "__switchyard_no_key__"

/-- Nodes among which the hash of a key decides. -/
structure HashSelector (α : Type) where
  nodes : List (Node α)
  function : HashFunction
  deriving Repr

namespace HashSelector

variable {α : Type}

/-- The place in the list that a key belongs to. -/
def place (s : HashSelector α) (key : Option String) : Nat :=
  (s.function.digestText (key.getD noKeySentinel)).toNat % s.nodes.length

/-- The node that a key belongs to. -/
def select (s : HashSelector α) (key : Option String) : Except BackendError (Node α) :=
  match s.nodes[s.place key]? with
  | some node => .ok node
  | none => .error .noNodes

end HashSelector

/-- A selector in one of its states. -/
inductive Selector (α : Type) where
  /-- There is nothing to choose from, for the given reason. -/
  | failing (error : BackendError)
  /-- There is no choice. -/
  | single (node : Node α)
  | roundRobin (s : RoundRobin α)
  | weighted (s : WeightedRoundRobin α)
  | hashed (s : HashSelector α)

namespace Selector

variable {α : Type}

/-- The nodes that a selector was built from. -/
def nodes : Selector α → List (Node α)
  | failing _ => []
  | single node => [node]
  | roundRobin s => s.nodes
  | weighted s => s.nodes
  | hashed s => s.nodes

/-- The node for a request, and the selector after the pick. Only a hash selector looks at the
key. -/
def select (s : Selector α) (key : Option String) : Except BackendError (Node α) × Selector α :=
  match s with
  | failing error => (.error error, s)
  | single node => (.ok node, s)
  | roundRobin r => (r.select.1, roundRobin r.select.2)
  | weighted w => (.ok w.select.1, weighted w.select.2)
  | hashed h => (h.select key, s)

/-- A selector of exactly one node. -/
def ofSingle (nodes : List (Node α)) : Except BackendError (Selector α) :=
  match nodes with
  | [node] => .ok (single node)
  | _ => .error (.internal ("single selector built with " ++ toString nodes.length ++ " nodes"))

end Selector

/-- The algorithms that a selector can follow. -/
inductive SelectorKind where
  | roundRobin
  | weightedRoundRobin
  | hash (function : HashFunction)
  deriving DecidableEq, Repr, Inhabited

/-- The kind of selector with the given name: an algorithm, of which round robin needs no name, or the
hash function that decides. -/
def SelectorKind.ofName : String → Except BackendError SelectorKind
  | "" | "round_robin" => .ok .roundRobin
  | "weighted_round_robin" => .ok .weightedRoundRobin
  | name => (HashFunction.ofName name).map .hash

/-- What is common to all selectors of a gateway: the hash function of hash policies, and the
counter that round robin starts from, which a process draws at random so that restarted processes
do not all begin with the same node. -/
structure SelectorFactory where
  hash : HashFunction := .crc32
  offset : UInt64 := 0
  deriving DecidableEq, Repr, Inhabited

namespace SelectorFactory

variable {α : Type}

/-- The selector of a kind over a list of nodes. Weighted round robin refuses nodes without weight.
No node makes a selector that always fails, one node makes one without a choice, whatever the
kind. -/
def build (f : SelectorFactory) (kind : SelectorKind) (nodes : List (Node α)) :
    Except BackendError (Selector α) :=
  match (if kind = .weightedRoundRobin then firstUnweighted nodes else none) with
  | some node => .error (.invalidWeight node.id node.weight)
  | none =>
    match nodes with
    | [] => .ok (.failing .noNodes)
    | [node] => .ok (.single node)
    | _ =>
      match kind with
      | .roundRobin =>
        .ok (.roundRobin ⟨nodes, UInt64.ofNat (f.offset.toNat % nodes.length)⟩)
      | .weightedRoundRobin => (WeightedRoundRobin.ofNodes nodes).map .weighted
      | .hash function => .ok (.hashed ⟨nodes, function⟩)

end SelectorFactory

end TrafficGateway
