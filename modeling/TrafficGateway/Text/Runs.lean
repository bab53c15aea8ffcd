/-!
# Run tables

A property of all code points is written as a text of runs: the label of the property's value, which
is a capital letter and small letters, and the number of code points in a row that have it, which is
left out when it is one. The runs start at code point zero and follow each other.

## Main definitions

* `Run`: a run of code points with the same value.
* `Run.table`: the runs of a text, in ascending order.
* `Run.lookup`: the value of a code point.
-/

namespace TrafficGateway

/-- A run of code points with the same value, by the first of them. -/
structure Run (α : Type) where
  start : Nat
  value : α
  deriving Repr, Inhabited

namespace Run

variable {α : Type}

/-- What has been read of a text: the runs so far, where the open run starts, its label in reverse
and its length as far as it has been read. -/
structure Reader (α : Type) where
  runs : Array (Run α)
  start : Nat
  label : List Char
  length : Nat

namespace Reader

/-- Closes the open run, if there is one. -/
def close (valueOf : String → α) (r : Reader α) : Reader α :=
  match r.label with
  | [] => r
  | label =>
    { runs := r.runs.push ⟨r.start, valueOf (String.ofList label.reverse)⟩
      start := r.start + (if r.length = 0 then 1 else r.length)
      label := []
      length := 0 }

/-- Reads one character: a capital opens a run, a small letter belongs to its label, a digit to its
length. -/
def step (valueOf : String → α) (r : Reader α) (c : Char) : Reader α :=
  if 'A' ≤ c ∧ c ≤ 'Z' then { r.close valueOf with label := [c] }
  else if 'a' ≤ c ∧ c ≤ 'z' then { r with label := c :: r.label }
  else { r with length := 10 * r.length + (c.toNat - '0'.toNat) }

end Reader

/-- The runs of a text, in ascending order. -/
def table (valueOf : String → α) (text : String) : Array (Run α) :=
  ((text.toList.foldl (Reader.step valueOf) ⟨#[], 0, [], 0⟩).close valueOf).runs

/-- The last run in positions `lo` to `hi - 1` that starts at or before `code`, found by halving;
`fuel` bounds the number of halvings. -/
def search (runs : Array (Run α)) (code : Nat) : Nat → Nat → Nat → Option (Run α)
  | 0, lo, _ => runs[lo]?
  | fuel + 1, lo, hi =>
    if hi ≤ lo + 1 then runs[lo]?
    else
      let mid := (lo + hi) / 2
      match runs[mid]? with
      | some run =>
        if run.start ≤ code then search runs code fuel mid hi else search runs code fuel lo mid
      | none => search runs code fuel lo mid

/-- The value of a code point. -/
def lookup (runs : Array (Run α)) (code : Nat) : Option α :=
  (search runs code runs.size 0 runs.size).map (·.value)

end Run

end TrafficGateway
