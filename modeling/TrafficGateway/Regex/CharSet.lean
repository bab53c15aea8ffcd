import TrafficGateway.Text.Category
import TrafficGateway.Text.Fold
import TrafficGateway.Text.Property
import TrafficGateway.Text.Script

/-!
# Sets of characters

The sets that a pattern can ask the next character to be in, as terms over ranges and over the
properties of characters.

## Main definitions

* `CharSet`: the terms.
* `CharSet.mem`: is a code point in the set?
* `CharSet.word`, `digit`, `space`: the sets with an escape of their own.
* `CharSet.posix?`: the sets with a bracketed name.
* `CharSet.cost`: how much room the set takes in a compiled pattern.
-/

namespace TrafficGateway

/-- A set of code points. `fold a` holds what differs from a member of `a` in case only, and is
limited to the ASCII letters when `asciiOnly` is set. -/
inductive CharSet where
  | empty
  | range (lo hi : Nat)
  | category (cs : List Category)
  | script (code : String)
  | property (p : CharProperty)
  | union (a b : CharSet)
  | inter (a b : CharSet)
  | compl (a : CharSet)
  | fold (asciiOnly : Bool) (a : CharSet)
  deriving Repr, Inhabited

namespace CharSet

/-- The other case of an ASCII letter. -/
def asciiVariants (code : Nat) : List Nat :=
  if 0x41 ≤ code ∧ code ≤ 0x5a then [code + 0x20]
  else if 0x61 ≤ code ∧ code ≤ 0x7a then [code - 0x20]
  else []

/-- Is a code point in the set? -/
def mem : CharSet → Nat → Bool
  | empty, _ => false
  | range lo hi, code => lo ≤ code && code ≤ hi
  | category cs, code => cs.contains (Category.ofCodePoint code)
  | script s, code => Script.ofCodePoint code == s
  | property p, code => p.holds code
  | union a b, code => a.mem code || b.mem code
  | inter a b, code => a.mem code && b.mem code
  | compl a, code => !a.mem code
  | fold asciiOnly a, code =>
    a.mem code || (if asciiOnly then asciiVariants code else CaseFold.variants code).any a.mem

/-- The set of one code point. -/
def single (code : Nat) : CharSet :=
  range code code

/-- Every code point. -/
def all : CharSet :=
  range 0 0x10ffff

/-- The union of several sets. -/
def unionAll (sets : List CharSet) : CharSet :=
  sets.foldr union empty

/-- The union of ranges. -/
def ofRanges (ranges : List (Nat × Nat)) : CharSet :=
  unionAll (ranges.map fun r => range r.1 r.2)

/-- What is in the first set and not in the second. -/
def diff (a b : CharSet) : CharSet :=
  inter a (compl b)

/-- What is in exactly one of the sets. -/
def symmDiff (a b : CharSet) : CharSet :=
  union (diff a b) (diff b a)

/-- Does the set hold ASCII characters only? What lies beyond ASCII in a set of bytes is uniform,
so one probe decides it. -/
def isAsciiOnly (a : CharSet) : Bool :=
  !a.mem 0x80

/-- The characters of words. -/
def word : CharSet :=
  unionAll
    [property .alphabetic, category [.nonspacingMark, .spacingMark, .enclosingMark],
      category [.decimalNumber, .connectorPunctuation], range 0x200c 0x200d]

/-- The ASCII characters of words. -/
def asciiWord : CharSet :=
  ofRanges [(0x30, 0x39), (0x41, 0x5a), (0x5f, 0x5f), (0x61, 0x7a)]

/-- The decimal digits. -/
def digit : CharSet :=
  category [.decimalNumber]

/-- The white space. -/
def space : CharSet :=
  property .whiteSpace

/-- The ASCII white space. -/
def asciiSpace : CharSet :=
  ofRanges [(0x09, 0x0d), (0x20, 0x20)]

/-- The sets that are named between brackets and colons; all of them are within ASCII. -/
def posix? : String → Option CharSet
  | "alnum" => some (ofRanges [(0x30, 0x39), (0x41, 0x5a), (0x61, 0x7a)])
  | "alpha" => some (ofRanges [(0x41, 0x5a), (0x61, 0x7a)])
  | "ascii" => some (range 0x00 0x7f)
  | "blank" => some (ofRanges [(0x09, 0x09), (0x20, 0x20)])
  | "cntrl" => some (ofRanges [(0x00, 0x1f), (0x7f, 0x7f)])
  | "digit" => some (range 0x30 0x39)
  | "graph" => some (range 0x21 0x7e)
  | "lower" => some (range 0x61 0x7a)
  | "print" => some (range 0x20 0x7e)
  | "punct" => some (ofRanges [(0x21, 0x2f), (0x3a, 0x40), (0x5b, 0x60), (0x7b, 0x7e)])
  | "space" => some asciiSpace
  | "upper" => some (range 0x41 0x5a)
  | "word" => some asciiWord
  | "xdigit" => some (ofRanges [(0x30, 0x39), (0x41, 0x46), (0x61, 0x66)])
  | _ => none

/-- The number of runs of a table whose value is wanted. -/
def countRuns {α : Type} (wanted : α → Bool) (runs : Array (Run α)) : Nat :=
  runs.foldl (fun n r => if wanted r.value then n + 1 else n) 0

/-- How much room the set takes in a compiled pattern, in states: one for an ASCII range, a few for
any other, two for each run of a property. -/
def cost : CharSet → Nat
  | empty => 1
  | range lo hi =>
    if hi < 0x80 then 1
    else if lo = hi then (Char.ofNat lo).utf8Size
    else 4
  | category cs => 2 * countRuns cs.contains Category.runs
  | script s => 2 * countRuns (· == s) Script.runs
  | property p => 2 * countRuns id p.runs
  | union a b => a.cost + b.cost
  | inter a b => max a.cost b.cost
  | compl a => a.cost
  | fold _ a => a.cost

end CharSet

end TrafficGateway
