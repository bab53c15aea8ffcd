import TrafficGateway.Http.Written

/-!
# Fields of scenarios

A scenario is a document with a start state and steps. Its fields are read leniently: a field that is
missing, or that holds another kind of value, counts as its default. A number may be written as a
text.

## Main definitions

* `Scenario.field`, `has`: whatever is under a name.
* `Scenario.str`, `optStr`, `nat`, `bool`, `items`: texts, numbers, flags and lists.
-/

namespace TrafficGateway

namespace Scenario

/-- What is under a name, `null` when nothing is. -/
def field (d : Document) (name : String) : Document :=
  (d.get? name).getD .null

/-- Is there something under a name? -/
def has (d : Document) (name : String) : Bool :=
  match field d name with
  | .null => false
  | _ => true

/-- The text of a document, empty when it is none. -/
def textOf : Document → String
  | .text s => s
  | _ => ""

/-- The text under a name, if there is one. -/
def optStr (d : Document) (name : String) : Option String :=
  textUnder? d name

/-- The text under a name. -/
def str (d : Document) (name : String) : String :=
  textOf (field d name)

/-- The number that a document gives or spells. -/
def natOf? : Document → Option Nat
  | .int n => if 0 ≤ n then some n.toNat else none
  | .text s => Numeral.read s.toList
  | _ => none

/-- The number under a name. -/
def nat (d : Document) (name : String) (default : Nat) : Nat :=
  (natOf? (field d name)).getD default

/-- The flag under a name. -/
def bool (d : Document) (name : String) (default : Bool) : Bool :=
  match field d name with
  | .bool b => b
  | _ => default

/-- The items of a list, none when it is no list. -/
def listOf : Document → List Document
  | .list ds => ds
  | _ => []

/-- The items of the list under a name. -/
def items (d : Document) (name : String) : List Document :=
  listOf (field d name)

end Scenario

end TrafficGateway
