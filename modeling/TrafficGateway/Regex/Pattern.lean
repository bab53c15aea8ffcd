import TrafficGateway.Regex.CharSet

/-!
# Patterns

Regular expressions over characters and over assertions about places in a text. A pattern is run on
the set of places that it may start at and gives the set of places that it may end at; since the
places of a text are finitely many, repetition without bound settles after as many rounds as there
are places.

## Main definitions

* `Assertion`, `Pattern`: the terms.
* `Assertion.holds`: does an assertion hold between two characters?
* `Pattern.advance`: the places where a pattern may end.
* `Pattern.isMatch`: does a part of a text match?
* `Pattern.cost`: how much room a compiled pattern takes.
-/

namespace TrafficGateway

/-- Something that can be asked about a place in a text. Words are made of `CharSet.word`, or of
`CharSet.asciiWord` when `ascii` is set. -/
inductive Assertion where
  | textStart
  | textEnd
  | lineStart
  | lineEnd
  /-- The start of a line, where a carriage return, a line feed or both end a line. -/
  | lineStartAny
  /-- The end of a line, where a carriage return, a line feed or both end a line. -/
  | lineEndAny
  | wordBoundary (ascii : Bool)
  | noWordBoundary (ascii : Bool)
  | wordStart (ascii : Bool)
  | wordEnd (ascii : Bool)
  | wordStartHalf (ascii : Bool)
  | wordEndHalf (ascii : Bool)
  deriving DecidableEq, Repr, Inhabited

/-- A regular expression. -/
inductive Pattern where
  | empty
  | set (s : CharSet)
  | assertion (a : Assertion)
  | seq (p q : Pattern)
  | alt (p q : Pattern)
  /-- At least `min` times, and at most `max` times when there is a maximum. -/
  | rep (p : Pattern) (min : Nat) (max : Option Nat)
  /-- A part whose place in a match is kept. -/
  | capture (p : Pattern)
  deriving Repr, Inhabited

namespace Assertion

/-- Is there a character, and does it belong to a word? -/
def isWord (ascii : Bool) (c : Option Char) : Bool :=
  match c with
  | some c => if ascii then CharSet.asciiWord.mem c.toNat else CharSet.word.mem c.toNat
  | none => false

/-- Does the assertion hold between the character before a place and the one after it? -/
def holds (a : Assertion) (before after : Option Char) : Bool :=
  match a with
  | textStart => before.isNone
  | textEnd => after.isNone
  | lineStart => before.isNone || before == some '\n'
  | lineEnd => after.isNone || after == some '\n'
  | lineStartAny =>
    before.isNone || before == some '\n' || (before == some '\r' && after != some '\n')
  | lineEndAny =>
    after.isNone || after == some '\r' || (after == some '\n' && before != some '\r')
  | wordBoundary ascii => isWord ascii before != isWord ascii after
  | noWordBoundary ascii => isWord ascii before == isWord ascii after
  | wordStart ascii => !isWord ascii before && isWord ascii after
  | wordEnd ascii => isWord ascii before && !isWord ascii after
  | wordStartHalf ascii => !isWord ascii before
  | wordEndHalf ascii => !isWord ascii after

end Assertion

namespace Pattern

/-- A set of places in a text of `n` characters: for each of the `n + 1` places, is it in the
set? -/
abbrev Places := List Bool

namespace Places

/-- The places that are in either set. -/
def union : Places → Places → Places :=
  List.zipWith (· || ·)

/-- The places after those whose next character passes a test. -/
def shift (test : Char → Bool) (cs : List Char) (ps : Places) : Places :=
  false :: List.zipWith (fun p c => p && test c) ps cs

/-- The places where an assertion holds, given the character before the first of them. -/
def keep (a : Assertion) : Option Char → List Char → Places → Places
  | _, _, [] => []
  | before, [], p :: ps => (p && a.holds before none) :: ps.map fun _ => false
  | before, c :: cs, p :: ps => (p && a.holds before (some c)) :: keep a (some c) cs ps

end Places

/-- Takes a step `n` times. -/
def iterate (step : Places → Places) : Nat → Places → Places
  | 0, ps => ps
  | n + 1, ps => iterate step n (step ps)

/-- The places that can be reached by at most `n` steps; once a step adds none, no later one
does. -/
def reach (step : Places → Places) : Nat → Places → Places
  | 0, ps => ps
  | n + 1, ps =>
    let next := ps.union (step ps)
    if next = ps then ps else reach step n next

/-- The places where the pattern may end when it starts at one of the given places. -/
def advance (cs : List Char) : Pattern → Places → Places
  | empty, ps => ps
  | set s, ps => ps.shift (fun c => s.mem c.toNat) cs
  | assertion a, ps => ps.keep a none cs
  | seq p q, ps => q.advance cs (p.advance cs ps)
  | alt p q, ps => (p.advance cs ps).union (q.advance cs ps)
  | rep p min max, ps =>
    let rounds := match max with
      | some max => Nat.min (max - min) (cs.length + 1)
      | none => cs.length + 1
    reach (p.advance cs) rounds (iterate (p.advance cs) min ps)
  | capture p, ps => p.advance cs ps

/-- Does some part of the text match? -/
def isMatch (p : Pattern) (text : String) : Bool :=
  let cs := text.toList
  (p.advance cs (List.replicate (cs.length + 1) true)).any id

/-- How much room a compiled pattern takes, in states. -/
def cost : Pattern → Nat
  | empty => 1
  | set s => s.cost
  | assertion _ => 1
  | seq p q => p.cost + q.cost
  | alt p q => p.cost + q.cost + 1
  | rep p min max =>
    match max with
    | some max => min * p.cost + (max - min) * (p.cost + 1)
    | none => (min + 1) * p.cost + 1
  | capture p => p.cost + 2

end Pattern

end TrafficGateway
