/-!
# Exposition of metrics

The text in which metrics are handed out. Every family begins with two lines of comment, which give
its purpose and its kind; a line for each set of labels follows. Families are sorted by name and lines
by the values of their labels, and families without lines are left out.

## Main definitions

* `MetricFamily`: a family of counts.
* `MetricFamily.lines`: its text.
* `MetricFamily.exposition`: the text of several families.
-/

namespace TrafficGateway

/-- What kind of numbers a family holds: counts, or the number of observations of a duration. -/
inductive MetricKind where
  | counter
  | histogram
  deriving DecidableEq, Repr

/-- What the exposition calls a kind. -/
def MetricKind.name : MetricKind → String
  | .counter => "counter"
  | .histogram => "histogram"

/-- What the name of a family gets in the lines of its counts. -/
def MetricKind.ending : MetricKind → String
  | .counter => ""
  | .histogram => "_count"

/-- Labels with their values, in the order of their names. -/
abbrev MetricLabels := List (String × String)

/-- Counts under labels. -/
structure MetricFamily where
  name : String
  purpose : String
  kind : MetricKind
  rows : List (MetricLabels × Nat)
  deriving Repr

namespace MetricFamily

/-- The value of a label inside quotes. -/
def escaped (value : String) : String :=
  String.join (value.toList.map fun c =>
    match c with
    | '\\' => "\\\\"
    | '"' => "\\\""
    | '\n' => "\\n"
    | c => String.singleton c)

/-- A label with its value. -/
def label (l : String × String) : String :=
  l.1 ++ "=\"" ++ escaped l.2 ++ "\""

/-- The line of a count. -/
def row (f : MetricFamily) (r : MetricLabels × Nat) : String :=
  f.name ++ f.kind.ending ++ "\x7b" ++ String.intercalate "," (r.1.map label) ++ "\x7d "
    ++ toString r.2

/-- Do the values of some labels come first? -/
def valuesLe (a b : MetricLabels) : Bool :=
  !(b.map (·.2)).lex (a.map (·.2)) fun x y => decide (x < y)

/-- The text of a family. -/
def lines (f : MetricFamily) : List String :=
  if f.rows.isEmpty then []
  else
    ["# HELP " ++ f.name ++ " " ++ f.purpose, "# TYPE " ++ f.name ++ " " ++ f.kind.name]
      ++ (f.rows.mergeSort fun a b => valuesLe a.1 b.1).map f.row

/-- The text of several families. -/
def exposition (fs : List MetricFamily) : List String :=
  (fs.mergeSort fun a b => decide (a.name ≤ b.name)).flatMap lines

end MetricFamily

end TrafficGateway
