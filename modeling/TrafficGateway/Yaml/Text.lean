import TrafficGateway.Text.Numeral
import TrafficGateway.Yaml.Cursor

/-!
# Texts in YAML

The five ways to write a text: without quotes, in single quotes, in double quotes with escapes, and
as a block of lines that are kept or joined. Line breaks in the first three are folded.

## Main definitions

* `Plain.read`: a text without quotes.
* `QuotedText.read`: a text in quotes.
* `Block.read`: a block of lines.
-/

namespace TrafficGateway.Yaml

/-- The marks that lists and tables in brackets are made of. -/
def isBracketMark (c : Char) : Bool :=
  c == ',' || c == '[' || c == ']' || c == '{' || c == '}'

/-! ### Without quotes -/

namespace Plain

/-- The characters of one word and the rest of the text. A colon ends a word if a blank follows; in
brackets the marks of brackets end it too, and may not follow a colon. -/
def word (inBrackets : Bool) : List Char → Except Error (List Char × List Char)
  | [] => .ok ([], [])
  | a :: as =>
    if atWhite (a :: as) then .ok ([], a :: as)
    else if a == ':' && atWhite as then .ok ([], a :: as)
    else if inBrackets && a == ':' && (as.head?.map fun b => b == '?' || isBracketMark b).getD false
    then .error (.unexpected "colon")
    else if inBrackets && isBracketMark a then .ok ([], a :: as)
    else do
      let (text, rest) ← word inBrackets as
      return (a :: text, rest)

/-- A text without quotes, the cursor behind it and the white space that follows, and whether a line
ends there. -/
structure Result where
  text : List Char
  after : Cursor
  endsLine : Bool

/-- Reads words and the white space between them. Outside of brackets every line must begin at or
behind the given column. Every round consumes a word, so the length of the text bounds them. -/
def words (inBrackets : Bool) (column : Nat) : Nat → Cursor → Except Error Result
  | 0, c => .ok ⟨[], c, false⟩
  | left + 1, c => do
    let (text, rest) ← word inBrackets c.rest
    let c := c.skipTo rest
    let w := c.white column
    if w.hasEarlyTab then throw .badIndentation
    let stop : Result := ⟨text, w.after, !w.breaks.isEmpty⟩
    if w.after.index == c.index then return ⟨text, c, false⟩
    else if !inBrackets && w.after.column < column then return stop
    else if w.after.isAtDocumentMark || w.after.rest.head? == some '#' then return stop
    else
      match ← word inBrackets w.after.rest with
      | ([], _) => return stop
      | _ =>
        let more ← words inBrackets column left w.after
        return { more with text := text ++ w.folded ++ more.text }

/-- Reads a text without quotes. -/
def read (inBrackets : Bool) (column : Nat) (c : Cursor) : Except Error Result :=
  words inBrackets column (c.rest.length + 1) c

end Plain

/-! ### In quotes -/

namespace QuotedText

/-- The character of an escape that is a single letter. -/
def simpleEscape : Char → Option Char
  | '0' => some '\x00'
  | 'a' => some '\x07'
  | 'b' => some '\x08'
  | 't' => some '\t'
  | '\t' => some '\t'
  | 'n' => some '\n'
  | 'v' => some '\x0b'
  | 'f' => some '\x0c'
  | 'r' => some '\r'
  | 'e' => some '\x1b'
  | ' ' => some ' '
  | '"' => some '"'
  | '/' => some '/'
  | '\\' => some '\\'
  | 'N' => some '\u0085'
  | '_' => some '\u00a0'
  | 'L' => some '\u2028'
  | 'P' => some '\u2029'
  | _ => none

/-- How many hexadecimal digits an escape has. -/
def escapeWidth : Char → Nat
  | 'x' => 2
  | 'u' => 4
  | 'U' => 8
  | _ => 0

/-- The character with a number. -/
def charOf? (n : Nat) : Option Char :=
  if h : n.isValidChar then some (Char.ofNatAux n h) else none

/-- The character of an escape, of which the backslash has been read, and the rest. -/
def escape : List Char → Except Error (Char × List Char)
  | [] => .error .unexpectedEnd
  | a :: as =>
    match simpleEscape a, escapeWidth a with
    | some c, _ => .ok (c, as)
    | none, 0 => .error .badEscape
    | none, width =>
      let digits := as.take width
      match if digits.length = width then Numeral.readBase 16 digits else none with
      | none => .error .badEscape
      | some n =>
        match charOf? n with
        | some c => .ok (c, as.drop width)
        | none => .error .badEscape

/-- Where a run of characters without white space ends: at the quote, at white space, or behind the
backslash at the end of a line. -/
inductive Stop where
  | quote
  | white
  | joined
  deriving DecidableEq

/-- Characters up to white space or the quote; every step consumes one. -/
def run (isSingle : Bool) : Nat → List Char → Except Error (List Char × Stop × List Char)
  | 0, _ => .error .unexpectedEnd
  | _ + 1, [] => .error .unexpectedEnd
  | left + 1, a :: as =>
    if atWhite (a :: as) then .ok ([], .white, a :: as)
    else if isSingle then
      if a == '\'' then
        match as with
        | '\'' :: rest => more '\'' left rest
        | _ => .ok ([], .quote, as)
      else more a left as
    else if a == '"' then .ok ([], .quote, as)
    else if a == '\\' then
      if (lineBreak? as).isSome then .ok ([], .joined, as)
      else do
        let (c, rest) ← escape as
        more c left rest
    else more a left as
where
  /-- Goes on behind a character. -/
  more (c : Char) (left : Nat) (rest : List Char) :
      Except Error (List Char × Stop × List Char) := do
    let (text, stop, rest) ← run isSingle left rest
    return (c :: text, stop, rest)

/-- Reads runs and the white space between them, up to the quote; every round consumes something. -/
def runs (isSingle : Bool) : Nat → Cursor → Except Error (List Char × Cursor)
  | 0, _ => .error .unexpectedEnd
  | left + 1, c => do
    if c.isAtDocumentMark then throw (.unexpected "document mark")
    let (text, stop, rest) ← run isSingle (c.rest.length + 1) c.rest
    let c := c.skipTo rest
    match stop with
    | .quote => return (text, c)
    | .white =>
      if c.isAtEnd then throw .unexpectedEnd
      let w := c.white 0
      let (more, c) ← runs isSingle left w.after
      return (text ++ w.folded ++ more, c)
    | .joined =>
      let w := c.white 0
      let (more, c) ← runs isSingle left w.after
      return (text ++ w.breaks.drop 1 ++ more, c)

/-- Reads a text in quotes, of which the opening one stands at the cursor. -/
def read (isSingle : Bool) (c : Cursor) : Except Error (List Char × Cursor) :=
  runs isSingle (c.rest.length + 1) (c.skip 1)

end QuotedText

/-! ### Blocks of lines -/

namespace Block

/-- What becomes of the line breaks at the end of a block: all go, one stays, or all stay. -/
inductive Chomp where
  | strip
  | clip
  | keep
  deriving DecidableEq, Repr

/-- What the first line of a block says: what becomes of the last breaks, and by how much the block is
indented, if that is said. -/
structure Header where
  chomp : Chomp := .clip
  indent : Option Nat := none

/-- The chomping of a mark. -/
def chompOf? : Char → Option Chomp
  | '+' => some .keep
  | '-' => some .strip
  | _ => none

/-- A digit other than zero. -/
def indentOf? (c : Char) : Option Nat :=
  (Numeral.digitValue c).filter (0 < ·)

/-- Reads the marks of a header, in either order. -/
def header : List Char → Except Error (Header × List Char)
  | a :: as =>
    match chompOf? a, Numeral.digitValue a with
    | some chomp, _ =>
      match as with
      | b :: bs =>
        match Numeral.digitValue b, indentOf? b with
        | some _, none => .error .badIndentation
        | some _, some n => .ok ({ chomp, indent := some n }, bs)
        | none, _ => .ok ({ chomp }, as)
      | [] => .ok ({ chomp }, as)
    | none, some 0 => .error .badIndentation
    | none, some n =>
      match as with
      | b :: bs =>
        match chompOf? b with
        | some chomp => .ok ({ chomp, indent := some n }, bs)
        | none => .ok ({ indent := some n }, as)
      | [] => .ok ({ indent := some n }, as)
    | none, none => .ok ({}, a :: as)
  | [] => .ok ({}, [])

/-- Reads to the end of the header's line: blanks and a comment may follow. -/
def headerEnd (c : Cursor) : Except Error Cursor :=
  let c := c.skipWhile isBlank
  let c := if c.rest.head? == some '#' then c.restOfLine.2 else c
  match c.skipBreak with
  | some (_, c) => .ok c
  | none => if c.isAtEnd then .ok c else .error (.unexpected "block header")

/-- The empty lines in front of the lines of a block: their breaks, the widest indentation among them
and the line behind them, and the cursor at its indentation. If the column of the block is known,
spaces count only up to it. -/
structure Gap where
  breaks : List Char
  widest : Nat
  after : Cursor

/-- Reads empty lines; every round consumes a line. -/
def gap (column : Option Nat) : Nat → Cursor → Except Error Gap
  | 0, c => .ok ⟨[], 0, c⟩
  | left + 1, c =>
    let spaces := (c.rest.takeWhile (· == ' ')).length
    let c := c.skip (match column with
      | some n => min spaces (n - c.column)
      | none => spaces)
    let isEarly := match column with
      | some n => decide (c.column < n)
      | none => true
    if isEarly && c.rest.head? == some '\t' then .error .badIndentation
    else
      match c.skipBreak with
      | none => .ok ⟨[], c.column, c⟩
      | some (b, next) => do
        let g ← gap column left next
        return { g with breaks := b :: g.breaks, widest := max c.column g.widest }

/-- What has been read of a block: the text, the break behind the last line, the breaks of the empty
lines behind it, whether that line began with a blank, and the cursor. -/
structure Part where
  text : List Char := []
  lastBreak : List Char := []
  breaks : List Char
  isLastBlank : Bool := false
  after : Cursor

/-- The breaks between two lines. A single break between lines that are to be joined, neither of which
begins with a blank, is a space; of several the first is dropped. -/
def Part.joint (isFolded : Bool) (p : Part) (isBlankNext : Bool) : List Char :=
  if isFolded && p.lastBreak == ['\n'] && !p.isLastBlank && !isBlankNext then
    if p.breaks.isEmpty then [' '] else p.breaks
  else p.lastBreak ++ p.breaks

/-- Reads the lines that stand at the column of the block; every round consumes a line. -/
def lines (isFolded : Bool) (column : Nat) : Nat → Part → Except Error Part
  | 0, p => .ok p
  | left + 1, p => do
    if p.after.column != column || p.after.isAtEnd then return p
    let isBlankNext := (p.after.rest.head?.map isBlank).getD false
    let (line, c) := p.after.restOfLine
    let text := p.text ++ p.joint isFolded isBlankNext ++ line
    let (lastBreak, c) := match c.skipBreak with
      | some (b, c) => ([b], c)
      | none => ([], c)
    let g ← gap (some column) (c.rest.length + 1) c
    lines isFolded column left
      { text, lastBreak, breaks := g.breaks, isLastBlank := isBlankNext, after := g.after }

/-- What is left of the breaks at the end. -/
def Part.chomped (p : Part) : Chomp → List Char
  | .strip => p.text
  | .clip => p.text ++ p.lastBreak
  | .keep => p.text ++ p.lastBreak ++ p.breaks

/-- Reads a block, whose mark stands at the cursor, inside a collection at a column or at the top. -/
def read (isFolded : Bool) (outer : Option Nat) (c : Cursor) :
    Except Error (List Char × Cursor) := do
  let c := c.skip 1
  let (h, rest) ← header c.rest
  let c ← headerEnd (c.skipTo rest)
  let least := (outer.map (· + 1)).getD 0
  let known := h.indent.map fun n => outer.getD 0 + n
  let g ← gap known (c.rest.length + 1) c
  let column := known.getD (max (max g.widest least) 1)
  let p ← lines isFolded column (c.rest.length + 1) { breaks := g.breaks, after := g.after }
  return (p.chomped h.chomp, p.after)

end Block

end TrafficGateway.Yaml
