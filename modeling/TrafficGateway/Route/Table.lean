import TrafficGateway.Dict
import TrafficGateway.Route.Condition
import TrafficGateway.Route.Trie

/-!
# Route tables

Payloads under whole paths, under prefixes of paths and under conditions. A whole path goes before
prefixes, and prefixes before conditions; conditions are tried by descending priority, and those of
equal priority in the order in which they were added.

## Main definitions

* `RouteTable`: the three kinds of entries.
* `RouteTable.insertExact`, `insertLeading`, `insertCondition`: a new entry.
* `RouteTable.find`: the payload for a request, and what was read to find it.
-/

namespace TrafficGateway

/-- A payload under a condition. -/
structure ConditionEntry (α : Type) where
  condition : Condition
  priority : Int32
  payload : α

/-- Payloads under whole paths, prefixes and conditions; the conditions in the order in which they
are tried. -/
structure RouteTable (α : Type) where
  policy : MatchPolicy
  exact : Dict String α := .empty
  leading : PrefixTrie α := {}
  conditions : List (ConditionEntry α) := []

/-- A payload that was found, or none, with the leaves that were read on the way and the cache of
patterns after it. -/
structure Found (α : Type) where
  payload : Option α
  visited : List Fetcher
  cache : RegexCache

namespace RouteTable

variable {α : Type}

/-- Adds a payload under a whole path, of which there must be none. -/
def insertExact (t : RouteTable α) (path : String) (a : α) : Except RouteError (RouteTable α) :=
  if t.exact.contains path then .error (.invalid (.duplicateExact path))
  else .ok { t with exact := t.exact.insert path a }

/-- Adds a payload under a prefix, of which there must be none. -/
def insertLeading (t : RouteTable α) (path : String) (a : α) : Except RouteError (RouteTable α) :=
  if t.leading.contains path then .error (.invalid (.duplicatePrefix path))
  else .ok { t with leading := t.leading.insert path a }

/-- Entries with one more, after all whose priority is not lower. -/
def insertByPriority (e : ConditionEntry α) : List (ConditionEntry α) → List (ConditionEntry α)
  | [] => [e]
  | f :: fs => if f.priority < e.priority then e :: f :: fs else f :: insertByPriority e fs

/-- Adds a payload under a condition. -/
def insertCondition (t : RouteTable α) (condition : Condition) (priority : Int32) (a : α) :
    RouteTable α :=
  { t with conditions := insertByPriority ⟨condition, priority, a⟩ t.conditions }

/-- The number of entries. -/
def size (t : RouteTable α) : Nat :=
  t.exact.size + t.leading.size + t.conditions.length

/-- The payload of the first condition that holds. -/
def findCondition (v : RequestView) : List (ConditionEntry α) → RegexCache → Found α
  | [], cache => ⟨none, [], cache⟩
  | e :: es, cache =>
    let first := e.condition.evaluate v cache
    if first.holds then ⟨some e.payload, first.visited, first.cache⟩
    else
      let rest := findCondition v es first.cache
      { rest with visited := first.visited ++ rest.visited }

/-- The payload for a request. -/
def find (t : RouteTable α) (v : RequestView) (cache : RegexCache) : Found α :=
  match (t.exact.get? v.path).or (t.leading.search t.policy v.path) with
  | some a => ⟨some a, [], cache⟩
  | none => findCondition v t.conditions cache

end RouteTable

end TrafficGateway
