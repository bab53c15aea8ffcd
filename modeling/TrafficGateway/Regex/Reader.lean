import TrafficGateway.Regex.Pattern
import TrafficGateway.Regex.PropertyName
import TrafficGateway.Text.Blank
import TrafficGateway.Text.Numeral

/-!
# Reading patterns

The concrete form of regular expressions. Reading either gives the pattern or refuses the text; a
text is refused when it is no regular expression, when it nests too deeply, or when the compiled
pattern would be too large.

## Main definitions

* `Regex.Flags`: how the characters that follow are to be read.
* `Regex.readEscape`: what follows a backslash.
* `Regex.readBracket`: a set between brackets.
* `Regex.readGroup`: alternatives up to a closing parenthesis.
* `Regex`, `Regex.read`: a regular expression with its text, and reading.
* `Regex.isMatch`: does a part of a text match?
-/

namespace TrafficGateway

namespace Regex

/-- How the characters that follow are to be read. -/
structure Flags where
  ignoreCase : Bool := false
  /-- Do `^` and `$` look for the ends of lines? -/
  multiLine : Bool := false
  /-- Does the dot stand for line ends too? -/
  dotAll : Bool := false
  /-- Swaps greedy and reluctant repetition, which find the same matches. -/
  swapGreed : Bool := false
  /-- Are sets made of all characters, or of ASCII only? -/
  unicode : Bool := true
  /-- Does a carriage return end a line too? -/
  anyLineEnd : Bool := false
  /-- Are white space and comments left out? -/
  verbose : Bool := false
  deriving DecidableEq, Repr, Inhabited

/-- The flags with the one of a letter set or cleared. -/
def Flags.set? (f : Flags) (letter : Char) (value : Bool) : Option Flags :=
  match letter with
  | 'i' => some { f with ignoreCase := value }
  | 'm' => some { f with multiLine := value }
  | 's' => some { f with dotAll := value }
  | 'U' => some { f with swapGreed := value }
  | 'u' => some { f with unicode := value }
  | 'R' => some { f with anyLineEnd := value }
  | 'x' => some { f with verbose := value }
  | _ => none

/-! ### Blanks -/

/-- Skips white space and comments, if they are left out. -/
def skip (f : Flags) (cs : List Char) : List Char :=
  if f.verbose then go cs.length cs else cs
where
  /-- Skips at most `fuel` blanks and comments. -/
  go : Nat → List Char → List Char
    | 0, cs => cs
    | _ + 1, [] => []
    | fuel + 1, c :: cs =>
      if isBlank c then go fuel cs
      else if c = '#' then go fuel ((cs.dropWhile (· != '\n')).drop 1)
      else c :: cs

/-! ### Sets -/

/-- A set as it is meant under the flags: closed under case, then negated. -/
def finishSet (f : Flags) (negated : Bool) (s : CharSet) : CharSet :=
  let s := if f.ignoreCase then s.fold (!f.unicode) else s
  if negated then s.compl else s

/-- A complete set. Without the Unicode flag sets are made of bytes, and one that holds a byte
beyond ASCII is refused since it could match a part of a character. -/
def closeSet (f : Flags) (s : CharSet) : Option CharSet :=
  if f.unicode then some s
  else if s.isAsciiOnly then some (s.inter (.range 0 0x7f))
  else none

/-! ### Escapes -/

/-- What a single character, an escape or an assertion stands for. -/
inductive Primitive where
  /-- A character; `isByte` tells a two digit code, which is a byte without the Unicode flag. -/
  | literal (c : Char) (isByte : Bool)
  | set (s : CharSet)
  | assertion (a : Assertion)

/-- Characters with a meaning of their own. -/
def isMeta (c : Char) : Bool :=
  "\\.+*?()|[]\x7b\x7d^$#&-~".toList.contains c

/-- Characters that may follow a backslash and stand for themselves: the meta characters, and the
ASCII characters that are neither letters nor digits nor angle brackets. -/
def isEscapable (c : Char) : Bool :=
  isMeta c || (c.toNat < 0x80 && !c.isAlphanum && c != '<' && c != '>')

/-- The character with a code point. -/
def charOf? (code : Nat) : Option Char :=
  if code < 0xd800 ∨ (0xdfff < code ∧ code < 0x110000) then some (Char.ofNat code) else none

/-- `count` hexadecimal digits. -/
def readHexDigits (f : Flags) : Nat → List Char → Option (List Char × List Char)
  | 0, cs => some ([], cs)
  | count + 1, cs =>
    match skip f cs with
    | c :: rest =>
      if (Numeral.hexValue c).isSome then
        (readHexDigits f count rest).map fun r => (c :: r.1, r.2)
      else none
    | [] => none

/-- The characters up to a closing brace, of which blanks do not count if they are left out. -/
def readBraced (f : Flags) : Nat → List Char → Option (List Char × List Char)
  | 0, _ => none
  | fuel + 1, cs =>
    match skip f cs with
    | '}' :: rest => some ([], rest)
    | c :: rest => (readBraced f fuel rest).map fun r => (c :: r.1, r.2)
    | [] => none

/-- The character of a code in hexadecimal digits: of the given number, or between braces. -/
def readCode (f : Flags) (digits : Nat) (cs : List Char) : Option (Primitive × List Char) :=
  match skip f cs with
  | '{' :: rest => do
    let (ds, rest) ← readBraced f (rest.length + 1) rest
    let code ← Numeral.readBase 16 ds
    return (.literal (← charOf? code) false, rest)
  | rest => do
    let (ds, rest) ← readHexDigits f digits rest
    let code ← Numeral.readBase 16 ds
    return (.literal (← charOf? code) (digits == 2), rest)

/-- Splits a text at the first place where one of two separators starts. -/
def splitAtValue (cs : List Char) : Option (List Char × List Char) :=
  let splitOn (c : Char) : Option (List Char × List Char) :=
    match cs.span (· != c) with
    | (name, _ :: value) => some (name, value)
    | _ => none
  let unequal : Option (List Char × List Char) :=
    (List.range cs.length).findSome? fun i =>
      match cs.drop i with
      | '!' :: '=' :: value => some (cs.take i, value)
      | _ => none
  (unequal.or (splitOn ':')).or (splitOn '=')

/-- The set of a property: one letter, or a name or a name and a value between braces. -/
def readProperty (f : Flags) (negated : Bool) (cs : List Char) : Option (Primitive × List Char) :=
  let finish (s : Option CharSet) (rest : List Char) : Option (Primitive × List Char) :=
    if f.unicode then s.map fun s => (.set (finishSet f negated s), rest) else none
  match skip f cs with
  | '{' :: rest => do
    let (name, rest) ← readBraced f (rest.length + 1) rest
    match splitAtValue name with
    | some (name, value) => finish (CharSet.valued? name value) rest
    | none => finish (CharSet.named? name) rest
  | '\\' :: _ => none
  | c :: rest => finish (CharSet.named? [c]) rest
  | [] => none

/-- A set with an escape of its own. -/
def perlSet (f : Flags) (negated : Bool) (unicode ascii : CharSet) : Primitive :=
  let s := if f.unicode then unicode else ascii
  .set (if negated then s.compl else s)

/-- What may follow the mark of a word boundary between braces. What does not start like a name is
left alone, since it may be a number of repetitions. -/
def readBoundary (f : Flags) (cs : List Char) : Option (Primitive × List Char) :=
  let isNameChar (c : Char) : Bool := c.isAlpha || c == '-'
  let plain : Option (Primitive × List Char) := some (.assertion (.wordBoundary (!f.unicode)), cs)
  match cs with
  | '{' :: rest =>
    match skip f rest with
    | [] => none
    | c :: _ =>
      if isNameChar c then do
        let (name, rest) ← readBraced f (rest.length + 1) rest
        let a ← match String.ofList name with
          | "start" => some (Assertion.wordStart (!f.unicode))
          | "end" => some (.wordEnd (!f.unicode))
          | "start-half" => some (.wordStartHalf (!f.unicode))
          | "end-half" => some (.wordEndHalf (!f.unicode))
          | _ => none
        return (.assertion a, rest)
      else plain
  | _ => plain

/-- What follows a backslash. There are no references to groups. -/
def readEscape (f : Flags) : List Char → Option (Primitive × List Char)
  | [] => none
  | 'x' :: rest => readCode f 2 rest
  | 'u' :: rest => readCode f 4 rest
  | 'U' :: rest => readCode f 8 rest
  | 'p' :: rest => readProperty f false rest
  | 'P' :: rest => readProperty f true rest
  | 'd' :: rest => some (perlSet f false .digit (.range 0x30 0x39), rest)
  | 'D' :: rest => some (perlSet f true .digit (.range 0x30 0x39), rest)
  | 's' :: rest => some (perlSet f false .space .asciiSpace, rest)
  | 'S' :: rest => some (perlSet f true .space .asciiSpace, rest)
  | 'w' :: rest => some (perlSet f false .word .asciiWord, rest)
  | 'W' :: rest => some (perlSet f true .word .asciiWord, rest)
  | 'a' :: rest => some (.literal '\x07' false, rest)
  | 'f' :: rest => some (.literal '\x0c' false, rest)
  | 't' :: rest => some (.literal '\t' false, rest)
  | 'n' :: rest => some (.literal '\n' false, rest)
  | 'r' :: rest => some (.literal '\r' false, rest)
  | 'v' :: rest => some (.literal '\x0b' false, rest)
  | 'A' :: rest => some (.assertion .textStart, rest)
  | 'z' :: rest => some (.assertion .textEnd, rest)
  | 'b' :: rest => readBoundary f rest
  | 'B' :: rest => some (.assertion (.noWordBoundary (!f.unicode)), rest)
  | '<' :: rest => some (.assertion (.wordStart (!f.unicode)), rest)
  | '>' :: rest => some (.assertion (.wordEnd (!f.unicode)), rest)
  | c :: rest => if isEscapable c then some (.literal c false, rest) else none

/-! ### Sets between brackets -/

/-- The ways to combine two sets between brackets. -/
inductive SetOperation where
  | intersection
  | difference
  | symmetricDifference

/-- The combination of two sets, each closed under case first. -/
def SetOperation.apply (f : Flags) (op : SetOperation) (a b : CharSet) : CharSet :=
  let a := finishSet f false a
  let b := finishSet f false b
  match op with
  | intersection => a.inter b
  | difference => a.diff b
  | symmetricDifference => a.symmDiff b

/-- A set and how deep it nests. -/
structure DeepSet where
  set : CharSet
  depth : Nat

/-- What has been read of a set between brackets: the operand before the last operation and that
operation, and the items since, in reverse. -/
structure OpenSet where
  left : Option (DeepSet × SetOperation)
  items : List DeepSet

namespace OpenSet

/-- The items since the last operation as one set. -/
def union (o : OpenSet) : DeepSet :=
  match o.items with
  | [] => ⟨.empty, 0⟩
  | [item] => item
  | items => ⟨.unionAll (items.map (·.set)), (items.map (·.depth)).foldl max 0 + 1⟩

/-- All of it as one set. -/
def close (f : Flags) (o : OpenSet) : DeepSet :=
  match o.left with
  | none => o.union
  | some (left, op) =>
    ⟨op.apply f left.set o.union.set, max left.depth o.union.depth + 1⟩

/-- With one more item. -/
def push (o : OpenSet) (s : DeepSet) : OpenSet :=
  { o with items := s :: o.items }

/-- With an operation on what has been read so far. -/
def operate (f : Flags) (o : OpenSet) (op : SetOperation) : OpenSet :=
  ⟨some (o.close f, op), []⟩

end OpenSet

/-- The code point of a character between brackets; sets of bytes take ASCII characters only. -/
def setLiteral (f : Flags) (c : Char) : Option Nat :=
  if f.unicode || c.toNat < 0x80 then some c.toNat else none

/-- A character or an escape between brackets. -/
def readSetItem (f : Flags) : List Char → Option (Primitive × List Char)
  | '\\' :: rest => readEscape f rest
  | c :: rest => some (.literal c false, rest)
  | [] => none

/-- An item or a range of characters between brackets. A hyphen before the closing bracket is a
character, and two hyphens are an operation. -/
def readSetRange (f : Flags) (cs : List Char) : Option (CharSet × List Char) := do
  let (first, rest) ← readSetItem f cs
  let rest := skip f rest
  let alone : Option (CharSet × List Char) :=
    match first with
    | .literal c _ => (setLiteral f c).map fun code => (.single code, rest)
    | .set s => some (s, rest)
    | .assertion _ => none
  match rest with
  | [] => none
  | '-' :: after =>
    match skip f after with
    | ']' :: _ => alone
    | '-' :: _ => alone
    | [] => none
    | after => do
      let (last, rest) ← readSetItem f after
      match first, last with
      | .literal a _, .literal b _ =>
        let lo ← setLiteral f a
        let hi ← setLiteral f b
        if lo ≤ hi then some (.range lo hi, rest) else none
      | _, _ => none
  | _ => alone

/-- A set with a name between bracket and colon, of which the bracket has been read. -/
def readPosix (f : Flags) : List Char → Option (CharSet × List Char)
  | ':' :: rest =>
    let (negated, rest) := match rest with
      | '^' :: rest => (true, rest)
      | _ => (false, rest)
    match rest.span (· != ':') with
    | (name, ':' :: ']' :: rest) =>
      (CharSet.posix? (String.ofList name)).map fun s => (finishSet f negated s, rest)
    | _ => none
  | _ => none

/-- The hyphens at the start of a set, which are characters. -/
def readHyphens (f : Flags) : Nat → OpenSet → List Char → OpenSet × List Char
  | 0, o, cs => (o, cs)
  | fuel + 1, o, cs =>
    match cs with
    | '-' :: rest => readHyphens f fuel (o.push ⟨.single 0x2d, 0⟩) (skip f rest)
    | _ => (o, cs)

mutual

/-- A set between brackets, of which the first has been read. Every call consumes a character before
it calls on, so the length of the text bounds the calls. -/
def readBracket (f : Flags) : Nat → List Char → Option (DeepSet × List Char)
  | 0, _ => none
  | fuel + 1, cs => do
    let (negated, rest) := match skip f cs with
      | '^' :: rest => (true, skip f rest)
      | rest => (false, rest)
    let (o, rest) := readHyphens f rest.length ⟨none, []⟩ rest
    let (o, rest) := match o.items, rest with
      | [], ']' :: rest => (o.push ⟨.single 0x5d, 0⟩, skip f rest)
      | _, _ => (o, rest)
    let (s, rest) ← readSet f fuel o rest
    return (⟨finishSet f negated s.set, s.depth + 1⟩, rest)

/-- The rest of a set up to and including its closing bracket. -/
def readSet (f : Flags) : Nat → OpenSet → List Char → Option (DeepSet × List Char)
  | 0, _, _ => none
  | fuel + 1, o, cs =>
    match skip f cs with
    | [] => none
    | ']' :: rest => some (o.close f, rest)
    | '&' :: '&' :: rest => readSet f fuel (o.operate f .intersection) rest
    | '-' :: '-' :: rest => readSet f fuel (o.operate f .difference) rest
    | '~' :: '~' :: rest => readSet f fuel (o.operate f .symmetricDifference) rest
    | '[' :: rest =>
      match readPosix f rest with
      | some (s, rest) => readSet f fuel (o.push ⟨s, 0⟩) rest
      | none => do
        let (s, rest) ← readBracket f fuel rest
        readSet f fuel (o.push s) rest
    | rest => do
      let (s, rest) ← readSetRange f rest
      readSet f fuel (o.push ⟨s, 0⟩) rest

end

/-! ### Repetition -/

/-- The largest number of repetitions that can be written, and one. -/
def countBound : Nat := UInt32.size

/-- A decimal number with blanks around it; `none` inside for no digits at all. -/
def readCount (f : Flags) (cs : List Char) : Option (Option Nat × List Char) :=
  let (digits, rest) := go (cs.length + 1) (cs.dropWhile isBlank)
  let rest := skip f (rest.dropWhile isBlank)
  match digits with
  | [] => some (none, rest)
  | ds =>
    match Numeral.read ds with
    | some n => if n < countBound then some (some n, rest) else none
    | none => none
where
  /-- The digits, of which there are at most `fuel`. -/
  go : Nat → List Char → List Char × List Char
    | 0, cs => ([], cs)
    | fuel + 1, c :: cs =>
      if (Numeral.digitValue c).isSome then
        let (ds, rest) := go fuel (skip f cs)
        (c :: ds, rest)
      else ([], c :: cs)
    | _ + 1, [] => ([], [])

/-- A question mark, which asks for the shortest match first. -/
def skipReluctant : List Char → List Char
  | '?' :: rest => rest
  | cs => cs

/-- The bounds of a counted repetition, of which the opening brace has been read. -/
def readBounds (f : Flags) (cs : List Char) : Option ((Nat × Option Nat) × List Char) := do
  let (min, rest) ← readCount f (skip f cs)
  let min ← min
  match rest with
  | '}' :: rest => return ((min, some min), skipReluctant (skip f rest))
  | ',' :: rest =>
    match skip f rest with
    | '}' :: rest => return ((min, none), skipReluctant (skip f rest))
    | rest => do
      let (max, rest) ← readCount f rest
      let max ← max
      match rest with
      | '}' :: rest =>
        if min ≤ max then some ((min, some max), skipReluctant (skip f rest)) else none
      | _ => none
  | _ => none

/-! ### Groups -/

/-- May the character occur in the name of a group? -/
def isNameChar (first : Bool) (c : Char) : Bool :=
  c == '_' || CharProperty.holds .alphabetic c.toNat ||
    (!first && (c == '.' || c == '[' || c == ']' ||
      (CharSet.category [.decimalNumber, .letterNumber, .otherNumber]).mem c.toNat))

/-- The name of a group, up to and including the closing angle bracket. -/
def readName (cs : List Char) : Option (List Char × List Char) :=
  match cs.span (· != '>') with
  | (c :: name, _ :: rest) =>
    if isNameChar true c && name.all (isNameChar false) then some (c :: name, rest) else none
  | _ => none

/-- The letters of flags up to a colon or a closing parenthesis, which is left. Each letter and the
sign of negation occur once at most, and negation negates something. -/
def readFlags (f : Flags) (seen : List Char) (negated : Bool) :
    List Char → Option (Flags × List Char)
  | [] => none
  | c :: rest =>
    if c = ':' ∨ c = ')' then
      if seen.head? = some '-' then none else some (f, c :: rest)
    else if seen.contains c then none
    else if c = '-' then readFlags f (c :: seen) true rest
    else
      match f.set? c (!negated) with
      | some f => readFlags f (c :: seen) negated rest
      | none => none

/-- How a parenthesis opens. -/
inductive Opening where
  /-- A group whose inside is read under the flags: is its place in a match kept, and its name. -/
  | group (flags : Flags) (captures : Bool) (name : Option (List Char))
  /-- No group, but flags for the rest of the group that is open. -/
  | settings (flags : Flags)

/-- What follows an opening parenthesis. -/
def readOpening (f : Flags) (cs : List Char) : Option (Opening × List Char) :=
  match skip f cs with
  | '?' :: 'P' :: '<' :: rest => do
    let (name, rest) ← readName rest
    return (.group f true (some name), rest)
  | '?' :: '<' :: '=' :: _ => none
  | '?' :: '<' :: '!' :: _ => none
  | '?' :: '<' :: rest => do
    let (name, rest) ← readName rest
    return (.group f true (some name), rest)
  | '?' :: ')' :: _ => none
  | '?' :: rest => do
    let (flags, rest) ← readFlags f [] false rest
    match rest with
    | ':' :: rest => return (.group flags false none, rest)
    | _ :: rest => return (.settings flags, rest)
    | [] => none
  | rest => some (.group f true none, rest)

/-- A part of a pattern, how deep it nests, and whether it may be repeated. -/
structure Item where
  pattern : Pattern
  depth : Nat
  repeatable : Bool := true

/-- What has been read of a group: the flags at this place, the names of groups so far, the earlier
alternatives and the items of the last one, both in reverse. -/
structure OpenGroup where
  flags : Flags
  names : List (List Char)
  branches : List Item
  items : List Item

namespace OpenGroup

/-- The items of the last alternative as one. -/
def branch (g : OpenGroup) : Item :=
  match g.items with
  | [] => ⟨.empty, 0, false⟩
  | [item] => item
  | last :: items =>
    { pattern := items.foldl (fun p i => .seq i.pattern p) last.pattern
      depth := (g.items.map (·.depth)).foldl max 0 + 1 }

/-- The alternatives as one. -/
def close (g : OpenGroup) : Item :=
  match g.branches with
  | [] => g.branch
  | branches =>
    { pattern := branches.foldl (fun p b => .alt b.pattern p) g.branch.pattern
      depth := ((g.branch :: branches).map (·.depth)).foldl max 0 + 1 }

/-- With one more item. -/
def push (g : OpenGroup) (item : Item) : OpenGroup :=
  { g with items := item :: g.items }

/-- With the last item repeated. There must be one, and it must be more than a change of flags. -/
def repeatLast (g : OpenGroup) (min : Nat) (max : Option Nat) : Option OpenGroup :=
  match g.items with
  | item :: items =>
    if item.repeatable then
      some { g with items := ⟨.rep item.pattern min max, item.depth + 1, true⟩ :: items }
    else none
  | [] => none

end OpenGroup

/-- The pattern of a character. -/
def literalPattern (f : Flags) (c : Char) (isByte : Bool) : Option Pattern :=
  if !f.unicode && isByte && 0x80 ≤ c.toNat then none
  else if f.ignoreCase && (f.unicode || c.toNat < 0x80) then
    some (.set (.fold (!f.unicode) (.single c.toNat)))
  else some (.set (.single c.toNat))

/-- The pattern of the dot: every character but a line end, or every character. -/
def dotPattern (f : Flags) : Option Pattern :=
  if !f.unicode then none
  else if f.dotAll then some (.set .all)
  else if f.anyLineEnd then some (.set (.compl (.union (.single 0x0a) (.single 0x0d))))
  else some (.set (.compl (.single 0x0a)))

/-- The pattern of a primitive outside of brackets. -/
def Primitive.pattern (f : Flags) : Primitive → Option Pattern
  | .literal c isByte => literalPattern f c isByte
  | .set s => (closeSet f s).map .set
  | .assertion a => some (.assertion a)

/-- The assertion at the start of lines. -/
def startAssertion (f : Flags) : Assertion :=
  if !f.multiLine then .textStart else if f.anyLineEnd then .lineStartAny else .lineStart

/-- The assertion at the end of lines. -/
def endAssertion (f : Flags) : Assertion :=
  if !f.multiLine then .textEnd else if f.anyLineEnd then .lineEndAny else .lineEnd

/-- The alternatives of a group up to its closing parenthesis, which is left, or to the end of the
text; with the names of groups so far. Every call consumes a character before it calls on, so the
length of the text bounds the calls. -/
def readGroup : Nat → OpenGroup → List Char → Option (Item × List (List Char) × List Char)
  | 0, _, _ => none
  | fuel + 1, g, cs =>
    let add (p : Option Pattern) (depth : Nat) (rest : List Char) :=
      match p with
      | some p => readGroup fuel (g.push ⟨p, depth, true⟩) rest
      | none => none
    let again (min : Nat) (max : Option Nat) (rest : List Char) :=
      match g.repeatLast min max with
      | some g => readGroup fuel g rest
      | none => none
    match skip g.flags cs with
    | [] => some (g.close, g.names, [])
    | ')' :: rest => some (g.close, g.names, ')' :: rest)
    | '|' :: rest =>
      readGroup fuel { g with branches := g.branch :: g.branches, items := [] } rest
    | '(' :: rest =>
      match readOpening g.flags rest with
      | none => none
      | some (.settings flags, rest) =>
        readGroup fuel ({ g with flags }.push ⟨.empty, 0, false⟩) rest
      | some (.group flags captures name, rest) =>
        match name with
        | none => nested fuel g flags captures g.names rest
        | some name =>
          if g.names.contains name then none
          else nested fuel g flags captures (name :: g.names) rest
    | '[' :: rest =>
      match readBracket g.flags (rest.length + 1) rest with
      | some (s, rest) => add ((closeSet g.flags s.set).map .set) s.depth rest
      | none => none
    | '?' :: rest => again 0 (some 1) (skipReluctant rest)
    | '*' :: rest => again 0 none (skipReluctant rest)
    | '+' :: rest => again 1 none (skipReluctant rest)
    | '{' :: rest =>
      match readBounds g.flags rest with
      | some ((min, max), rest) => again min max rest
      | none => none
    | '\\' :: rest =>
      match readEscape g.flags rest with
      | some (p, rest) => add (p.pattern g.flags) 0 rest
      | none => none
    | '.' :: rest => add (dotPattern g.flags) 0 rest
    | '^' :: rest => add (some (.assertion (startAssertion g.flags))) 0 rest
    | '$' :: rest => add (some (.assertion (endAssertion g.flags))) 0 rest
    | c :: rest => add (literalPattern g.flags c false) 0 rest
where
  /-- The inside of a group and its closing parenthesis, then the rest of the group around it. -/
  nested (fuel : Nat) (g : OpenGroup) (flags : Flags) (captures : Bool)
      (names : List (List Char)) (cs : List Char) :
      Option (Item × List (List Char) × List Char) :=
    match readGroup fuel ⟨flags, names, [], []⟩ cs with
    | some (inner, names, ')' :: rest) =>
      let pattern := if captures then .capture inner.pattern else inner.pattern
      readGroup fuel ({ g with names }.push ⟨pattern, inner.depth + 1, true⟩) rest
    | _ => none

/-- How deep a pattern may nest. -/
def depthLimit : Nat := 250

/-- How much room a compiled pattern may take, in states. -/
def costLimit : Nat := 327680

/-- The pattern that a text denotes, unless it nests too deeply or is too large. -/
def readPattern (text : String) : Option Pattern :=
  let cs := text.toList
  match readGroup (cs.length + 1) ⟨{}, [], [], []⟩ cs with
  | some (item, _, []) =>
    if item.depth ≤ depthLimit ∧ item.pattern.cost ≤ costLimit then some item.pattern else none
  | _ => none

end Regex

/-- A regular expression: its text and the pattern that the text denotes. -/
structure Regex where
  text : String
  pattern : Pattern
  readPattern_text : Regex.readPattern text = some pattern

namespace Regex

/-- The regular expression of a text. -/
def read (text : String) : Option Regex :=
  match h : readPattern text with
  | some pattern => some ⟨text, pattern, h⟩
  | none => none

/-- Does some part of the text match? -/
def isMatch (r : Regex) (text : String) : Bool :=
  r.pattern.isMatch text

end Regex

end TrafficGateway
