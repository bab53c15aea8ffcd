import TrafficGateway.Regex.Cache
import TrafficGateway.Route.Error
import TrafficGateway.Text.Blank
import TrafficGateway.Text.Pieces

/-!
# Comparators

The comparison of a text that was read from a request with a configured one.

## Main definitions

* `Comparator`: the comparisons.
* `Comparator.ofOperator`: the comparison with an operator's name.
* `Comparator.test`: does a text pass?
-/

namespace TrafficGateway

/-- Does a list occur in another one, without gaps? -/
def hasInfix {α : Type} [BEq α] (needle : List α) : List α → Bool
  | [] => needle.isEmpty
  | a :: as => needle.isPrefixOf (a :: as) || hasInfix needle as

/-- A comparison with a configured text. -/
inductive Comparator where
  | equals (value : String)
  | differs (value : String)
  | oneOf (values : List String)
  | contains (value : String)
  | regex (pattern : String)
  | empty
  | notEmpty
  deriving DecidableEq, Repr, Inhabited

namespace Comparator

/-- The items of a list that is written with commas; blanks around an item do not count. -/
def splitItems (value : String) : List String :=
  (pieces ',' value).map trim

/-- The comparison with an operator's name and a configured text. -/
def ofOperator (operator value : String) : Except RouteError Comparator :=
  match operator with
  | "eq" => .ok (equals value)
  | "neq" => .ok (differs value)
  | "in" => .ok (oneOf (splitItems value))
  | "contains" => .ok (contains value)
  | "regex" => .ok (regex value)
  | "empty" => .ok empty
  | "notEmpty" => .ok notEmpty
  | name => .error (.unsupportedOperator name)

/-- Does a text pass the comparison? Patterns are taken from a cache, which is given back; a pattern
that is no regular expression matches nothing. -/
def test [RegexEngine] (c : Comparator) (actual : String) (cache : RegexCache) : Bool × RegexCache :=
  match c with
  | equals value => (actual == value, cache)
  | differs value => (actual != value, cache)
  | oneOf values => (values.contains actual, cache)
  | contains value => (hasInfix value.toList actual.toList, cache)
  | regex pattern =>
    let (slot, cache) := cache.get pattern
    match slot.regex with
    | some r => (RegexEngine.isMatch r actual, cache)
    | none => (false, cache)
  | empty => (actual.isEmpty, cache)
  | notEmpty => (!actual.isEmpty, cache)

end Comparator

end TrafficGateway
