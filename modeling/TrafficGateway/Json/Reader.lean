import TrafficGateway.Document
import TrafficGateway.Text.Numeral

/-!
# Reading JSON

A strict reader: one value between optional blanks, no trailing commas, no repeated signs, strings
without raw controls. A number without fraction and exponent that fits 64 bits is an integer, every
other number is kept by its digits.

Some values keep to the grammar and cannot be taken all the same: a number that rounds beyond the
largest double, a string with half of a surrogate pair, a table with such a string for a key, a list or
a table at the 128th level. `Json.scan` marks their places, so that whoever asks for a field of a record
passes over the values of all others; `Json.read` is for those who take the whole document.

## Main definitions

* `Json.Error`: why a text is no JSON.
* `Json.scan`: the document that a text holds, with marks for what cannot be taken.
* `Json.read`: the document that a text holds, if all of it can be taken.
-/

namespace TrafficGateway.Json

/-- Why a text is no JSON. -/
inductive Error where
  | unexpectedEnd
  | unexpected (c : Char)
  | badEscape
  | badNumber
  | trailing (c : Char)
  /-- A part of the document cannot be taken. -/
  | unreadable
  deriving DecidableEq, Repr, Inhabited

/-- How many lists and tables may be open at once, plus one. -/
def depthLimit : Nat := 128

/-- A list with one more at its front, if all of it is there. -/
def push {α : Type} : Option α → Option (List α) → Option (List α)
  | some a, some as => some (a :: as)
  | _, _ => none

/-- The four blanks between tokens. -/
def isSpace (c : Char) : Bool :=
  c == ' ' || c == '\n' || c == '\t' || c == '\r'

/-- The text after its leading blanks. -/
def skipSpace (cs : List Char) : List Char :=
  cs.dropWhile isSpace

/-- The error at the start of the given rest. -/
def unexpectedAt : List Char → Error
  | [] => .unexpectedEnd
  | c :: _ => .unexpected c

/-- Four hexadecimal digits and the rest. -/
def readHex4 : List Char → Except Error (Nat × List Char)
  | a :: b :: c :: d :: rest =>
    match Numeral.readBase 16 [a, b, c, d] with
    | some n => .ok (n, rest)
    | none => .error .badEscape
  | _ => .error .unexpectedEnd

/-- The character of a unicode escape, of which the mark `\u` has been read: one unit, or two that
form a surrogate pair. Half of a pair is no character. -/
def readUnicode (cs : List Char) : Except Error (Option Char × List Char) := do
  let (unit, rest) ← readHex4 cs
  if 0xDC00 ≤ unit ∧ unit ≤ 0xDFFF then return (none, rest)
  else if 0xD800 ≤ unit ∧ unit ≤ 0xDBFF then
    match rest with
    | '\\' :: 'u' :: tail =>
      let (low, rest) ← readHex4 tail
      if 0xDC00 ≤ low ∧ low ≤ 0xDFFF then
        return (some (Char.ofNat (0x10000 + (unit - 0xD800) * 0x400 + (low - 0xDC00))), rest)
      else return (none, rest)
    | _ => return (none, rest)
  else return (some (Char.ofNat unit), rest)

/-- The character of an escape, of which the backslash has been read. -/
def readEscape : List Char → Except Error (Option Char × List Char)
  | '"' :: rest => .ok (some '"', rest)
  | '\\' :: rest => .ok (some '\\', rest)
  | '/' :: rest => .ok (some '/', rest)
  | 'b' :: rest => .ok (some '\x08', rest)
  | 'f' :: rest => .ok (some '\x0c', rest)
  | 'n' :: rest => .ok (some '\n', rest)
  | 'r' :: rest => .ok (some '\r', rest)
  | 't' :: rest => .ok (some '\t', rest)
  | 'u' :: rest => readUnicode rest
  | [] => .error .unexpectedEnd
  | _ => .error .badEscape

/-- The rest of a string whose opening quote has been read, onto the characters read so far in
reverse, if all of them are there. Every step consumes a character, so the length of the text bounds the
steps. -/
def readString : Nat → Option (List Char) → List Char → Except Error (Option String × List Char)
  | 0, _, _ => .error .unexpectedEnd
  | _ + 1, _, [] => .error .unexpectedEnd
  | fuel + 1, acc, c :: rest =>
    if c = '"' then .ok (acc.map fun cs => String.ofList cs.reverse, rest)
    else if c = '\\' then do
      let (e, rest) ← readEscape rest
      readString fuel (push e acc) rest
    else if c.toNat < 0x20 then .error (.unexpected c)
    else readString fuel (push (some c) acc) rest

/-- Splits off the leading decimal digits. -/
def spanDigits (cs : List Char) : List Char × List Char :=
  cs.span fun c => (Numeral.digitValue c).isSome

/-- The number that a list of digits denotes, zero for none. -/
def digitsValue (cs : List Char) : Nat :=
  (Numeral.read cs).getD 0

/-- The parts of a written number. -/
structure NumberText where
  negative : Bool
  whole : List Char
  fraction : Option (List Char)
  exponent : Option (Bool × List Char)
  deriving DecidableEq, Repr

namespace NumberText

/-- The magnitude below which a number rounds to a finite double: half a unit past the largest. -/
def overflowBound : Nat := Nat.pow 2 1024 - Nat.pow 2 970

/-- The power of ten of the last written digit. -/
def scale (t : NumberText) : Int :=
  let e : Int := match t.exponent with
    | none => 0
    | some (negative, digits) =>
      if negative then -(digitsValue digits : Int) else digitsValue digits
  e - ((t.fraction.getD []).length : Int)

/-- Does the number round beyond the largest double? A zero never does, and neither does a number
with fewer digits before the point than the bound has. -/
def overflows (t : NumberText) : Bool :=
  let digits := (t.whole ++ t.fraction.getD []).dropWhile (· == '0')
  if digits.isEmpty then false
  else
    let size : Int := digits.length + t.scale
    if size < 300 then false
    else if 310 < size then true
    else
      let value := digitsValue digits
      if 0 ≤ t.scale then decide (overflowBound ≤ value * Nat.pow 10 t.scale.toNat)
      else decide (overflowBound * Nat.pow 10 (-t.scale).toNat ≤ value)

/-- The written form. -/
def render (t : NumberText) : List Char :=
  (if t.negative then ['-'] else []) ++ t.whole ++
    (match t.fraction with | some ds => '.' :: ds | none => []) ++
    (match t.exponent with
      | some (negative, ds) => 'e' :: (if negative then ['-'] else []) ++ ds
      | none => [])

/-- The document of a number: an integer when it is written as one and fits 64 bits, unsigned or
negative and signed; the negative zero is no integer. -/
def toDocument (t : NumberText) : Document :=
  let real : Document := if t.overflows then .unreadable else .real (String.ofList t.render)
  match t.fraction, t.exponent with
  | none, none =>
    let n := digitsValue t.whole
    if t.negative then
      if 0 < n ∧ n ≤ UInt64.size / 2 then .int (-(n : Int)) else real
    else if n < UInt64.size then .int n else real
  | _, _ => real

end NumberText

/-- The digits after a point, of which there must be one. -/
def readFraction : List Char → Except Error (Option (List Char) × List Char)
  | '.' :: rest =>
    match spanDigits rest with
    | ([], _) => .error .badNumber
    | (ds, rest) => .ok (some ds, rest)
  | cs => .ok (none, cs)

/-- The digits of an exponent, of which there must be one. -/
def readExponentDigits (negative : Bool) (cs : List Char) :
    Except Error (Option (Bool × List Char) × List Char) :=
  match spanDigits cs with
  | ([], _) => .error .badNumber
  | (ds, rest) => .ok (some (negative, ds), rest)

/-- The exponent of a number. -/
def readExponent : List Char → Except Error (Option (Bool × List Char) × List Char)
  | c :: rest =>
    if c = 'e' ∨ c = 'E' then
      match rest with
      | '+' :: tail => readExponentDigits false tail
      | '-' :: tail => readExponentDigits true tail
      | _ => readExponentDigits false rest
    else .ok (none, c :: rest)
  | [] => .ok (none, [])

/-- A number: digits without a superfluous leading zero, then a fraction, then an exponent. -/
def readNumber (cs : List Char) : Except Error (Document × List Char) := do
  let (negative, cs) := match cs with
    | '-' :: rest => (true, rest)
    | _ => (false, cs)
  let (whole, rest) := spanDigits cs
  match whole with
  | [] => .error .badNumber
  | '0' :: _ :: _ => .error .badNumber
  | _ =>
    let (fraction, rest) ← readFraction rest
    let (exponent, rest) ← readExponent rest
    return ((NumberText.mk negative whole fraction exponent).toDocument, rest)

/-- The rest after a word that must come next. -/
def expectWord (word : List Char) (cs : List Char) : Except Error (List Char) :=
  match word, cs with
  | [], cs => .ok cs
  | _ :: _, [] => .error .unexpectedEnd
  | w :: ws, c :: cs => if w = c then expectWord ws cs else .error (.unexpected c)

/-- A list or a table, if as many may still be open. -/
def nested (depth : Nat) (d : Document) : Document :=
  if depth ≤ 1 then .unreadable else d

mutual

/-- A value at the start of the text. Every call consumes a character before it calls on, so the
length of the text bounds the calls. -/
def readValue : Nat → Nat → List Char → Except Error (Document × List Char)
  | 0, _, _ => .error .unexpectedEnd
  | fuel + 1, depth, cs =>
    match cs with
    | [] => .error .unexpectedEnd
    | 'n' :: rest => do return (.null, ← expectWord ['u', 'l', 'l'] rest)
    | 't' :: rest => do return (.bool true, ← expectWord ['r', 'u', 'e'] rest)
    | 'f' :: rest => do return (.bool false, ← expectWord ['a', 'l', 's', 'e'] rest)
    | '"' :: rest => do
      let (s, rest) ← readString (rest.length + 1) (some []) rest
      return (s.elim .unreadable .text, rest)
    | '[' :: rest =>
      match skipSpace rest with
      | ']' :: rest => .ok (nested depth (.list []), rest)
      | rest => do
        let (items, rest) ← readItems fuel (depth - 1) rest
        return (nested depth (.list items), rest)
    | '{' :: rest =>
      match skipSpace rest with
      | '}' :: rest => .ok (nested depth (.table []), rest)
      | rest => do
        let (entries, rest) ← readEntries fuel (depth - 1) rest
        return (nested depth (entries.elim .unreadable .table), rest)
    | c :: _ =>
      if c = '-' ∨ (Numeral.digitValue c).isSome then readNumber cs else .error (.unexpected c)

/-- The items of a list up to and including its closing bracket. -/
def readItems : Nat → Nat → List Char → Except Error (List Document × List Char)
  | 0, _, _ => .error .unexpectedEnd
  | fuel + 1, depth, cs => do
    let (item, rest) ← readValue fuel depth (skipSpace cs)
    match skipSpace rest with
    | ',' :: rest =>
      let (items, rest) ← readItems fuel depth rest
      return (item :: items, rest)
    | ']' :: rest => return ([item], rest)
    | rest => .error (unexpectedAt rest)

/-- The entries of a table up to and including its closing brace, if all of their keys are there. -/
def readEntries :
    Nat → Nat → List Char → Except Error (Option (List (String × Document)) × List Char)
  | 0, _, _ => .error .unexpectedEnd
  | fuel + 1, depth, cs =>
    match skipSpace cs with
    | '"' :: rest => do
      let (key, rest) ← readString (rest.length + 1) (some []) rest
      match skipSpace rest with
      | ':' :: rest =>
        let (value, rest) ← readValue fuel depth (skipSpace rest)
        match skipSpace rest with
        | ',' :: rest =>
          let (entries, rest) ← readEntries fuel depth rest
          return (push (key.map (·, value)) entries, rest)
        | '}' :: rest => return (push (key.map (·, value)) (some []), rest)
        | rest => .error (unexpectedAt rest)
      | rest => .error (unexpectedAt rest)
    | rest => .error (unexpectedAt rest)

end

/-- The document that a text holds, with `unreadable` in the places of what cannot be taken. -/
def scan (s : String) : Except Error Document := do
  let cs := s.toList
  let (d, rest) ← readValue (2 * cs.length + 2) depthLimit (skipSpace cs)
  match skipSpace rest with
  | [] => return d
  | c :: _ => .error (.trailing c)

/-- The document that a text holds, if all of it can be taken. -/
def read (s : String) : Except Error Document := do
  let d ← scan s
  if d.isReadable then return d else .error .unreadable

end TrafficGateway.Json
