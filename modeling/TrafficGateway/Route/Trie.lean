/-!
# Prefix tries

Payloads under texts, to be found by any longer text. Matching is by characters: what is stored
under `/api` is also found by `/apis`.

## Main definitions

* `Trie`: the tree, of which a node has a payload where a stored text ends.
* `Trie.get?`, `Trie.insert`: the payload of a text, and its change.
* `Trie.getThenInsert`: the change together with the payload that was there.
* `MatchPolicy`: which of several stored prefixes is wanted.
* `Trie.search`: the payload of a stored prefix of a text.
* `PrefixTrie`: a tree and how many texts are stored in it.
-/

namespace TrafficGateway

/-- A tree whose edges are characters. -/
inductive Trie (α : Type) where
  | node (payload : Option α) (children : List (Char × Trie α))

/-- Which of several stored prefixes of a text is wanted. -/
inductive MatchPolicy where
  | longest
  | shortest
  deriving DecidableEq, Repr, Inhabited

/-- The name of a policy. -/
def MatchPolicy.name : MatchPolicy → String
  | .longest => "longest"
  | .shortest => "shortest"

/-- What reports call a policy. -/
def MatchPolicy.label : MatchPolicy → String
  | .longest => "Longest"
  | .shortest => "Shortest"

/-- The policy with the given name. -/
def MatchPolicy.ofName? : String → Option MatchPolicy
  | "longest" => some .longest
  | "shortest" => some .shortest
  | _ => none

namespace Trie

variable {α : Type}

/-- The tree without payloads. -/
def empty : Trie α :=
  node none []

instance : Inhabited (Trie α) := ⟨empty⟩

/-- The payload of the root. -/
def payload : Trie α → Option α
  | node p _ => p

/-- The subtree behind an edge. -/
def child? : Trie α → Char → Option (Trie α)
  | node _ children, c => (children.find? fun e => e.1 == c).map (·.2)

/-- The tree with the subtree behind an edge replaced or added. -/
def setChild : Trie α → Char → Trie α → Trie α
  | node p children, c, t => node p ((c, t) :: children.filter fun e => e.1 != c)

/-- The payload that is stored under exactly this text. -/
def get? : Trie α → List Char → Option α
  | t, [] => t.payload
  | t, c :: cs =>
    match t.child? c with
    | some t => t.get? cs
    | none => none

/-- Stores a payload under a text, in place of the one that was there. -/
def insert (a : α) : Trie α → List Char → Trie α
  | node _ children, [] => node (some a) children
  | t, c :: cs => t.setChild c (((t.child? c).getD empty).insert a cs)

/-- Stores a payload under a text and answers with the one that was there, in one walk. -/
def getThenInsert (a : α) : Trie α → List Char → Option α × Trie α
  | node p children, [] => (p, node (some a) children)
  | t, c :: cs =>
    let (previous, s) := ((t.child? c).getD empty).getThenInsert a cs
    (previous, t.setChild c s)

/-- The payload of the longest or of the shortest stored prefix of a text. -/
def search (policy : MatchPolicy) : Trie α → List Char → Option α
  | t, [] => t.payload
  | t, c :: cs =>
    let deeper :=
      match t.child? c with
      | some t => t.search policy cs
      | none => none
    match policy with
    | .longest => deeper.or t.payload
    | .shortest => t.payload.or deeper

end Trie

/-- Payloads under texts, and the number of these texts. -/
structure PrefixTrie (α : Type) where
  root : Trie α := .empty
  size : Nat := 0

namespace PrefixTrie

variable {α : Type}

/-- The payload that is stored under exactly this text. -/
def get? (t : PrefixTrie α) (text : String) : Option α :=
  t.root.get? text.toList

/-- Is something stored under exactly this text? -/
def contains (t : PrefixTrie α) (text : String) : Bool :=
  (t.get? text).isSome

/-- Stores a payload under a text. -/
def insert (t : PrefixTrie α) (text : String) (a : α) : PrefixTrie α :=
  { root := t.root.insert a text.toList
    size := if t.contains text then t.size else t.size + 1 }

/-- Stores a payload under a text and answers with the one that was there. A text that had none is a
new one. -/
def getThenInsert (t : PrefixTrie α) (text : String) (a : α) : Option α × PrefixTrie α :=
  let (previous, root) := t.root.getThenInsert a text.toList
  (previous, { root, size := if previous.isNone then t.size + 1 else t.size })

/-- The payload of the longest or of the shortest stored prefix of a text. -/
def search (t : PrefixTrie α) (policy : MatchPolicy) (text : String) : Option α :=
  t.root.search policy text.toList

end PrefixTrie

end TrafficGateway
