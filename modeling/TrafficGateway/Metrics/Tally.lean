import TrafficGateway.Dict

/-!
# Tallies

How often each of some things has happened. `Tally.count_add` says what one more occurrence does to
every count.

## Main definitions

* `Tally`: the counts of what has happened at least once.
* `Tally.count`, `Tally.add`: a count, and one more occurrence.
-/

namespace TrafficGateway

/-- How often each of some things has happened. -/
abbrev Tally (κ : Type) := Dict κ Nat

namespace Tally

variable {κ : Type} [DecidableEq κ]

/-- How often something has happened. -/
def count (t : Tally κ) (k : κ) : Nat :=
  (t.get? k).getD 0

/-- Something has happened once more. -/
def add (t : Tally κ) (k : κ) : Tally κ :=
  t.insert k (count t k + 1)

@[simp]
theorem count_add (t : Tally κ) (k k' : κ) :
    count (add t k) k' = if k = k' then count t k' + 1 else count t k' := by
  by_cases h : k = k' <;> simp [count, add, h]

end Tally

end TrafficGateway
