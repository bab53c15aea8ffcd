/-!
# Places in a text of lines

A reader that heeds indentation must know in which column it stands. A cursor is the rest of a text
with the place where it begins.

## Main definitions

* `isBlank`, `lineBreak?`: blanks and line breaks.
* `Cursor`: the rest of a text and its place.
* `Cursor.skip`, `Cursor.skipBreak`: steps within a line, and to the next one.
* `Cursor.whiteRun`: blanks and line breaks in a row, and what they stand for in a text.
-/

namespace TrafficGateway.Yaml

/-- Why a text is no YAML. -/
inductive Error where
  | control (c : Char)
  | unexpected (place : String)
  | unexpectedEnd
  | noKey
  | badIndentation
  | badEscape
  | badTag
  | badDirective
  | unknownAnchor (name : String)
  | tooDeep
  | severalDocuments
  deriving DecidableEq, Repr, Inhabited

/-- A space or a tab. -/
def isBlank (c : Char) : Bool :=
  c == ' ' || c == '\t'

/-- The line break that a text begins with: what it is read as, and the rest of the text. -/
def lineBreak? : List Char → Option (Char × List Char)
  | '\r' :: '\n' :: rest => some ('\n', rest)
  | c :: rest =>
    if c == '\r' || c == '\n' || c == '\u0085' then some ('\n', rest)
    else if c == '\u2028' || c == '\u2029' then some (c, rest)
    else none
  | [] => none

/-- Does a text begin with a blank or a line break, or is it at its end? -/
def atWhite (cs : List Char) : Bool :=
  match cs with
  | [] => true
  | c :: _ => isBlank c || (lineBreak? cs).isSome

/-- The rest of a text, how much of it lies before, and the line and the column where it begins. -/
structure Cursor where
  rest : List Char
  index : Nat := 0
  line : Nat := 0
  column : Nat := 0
  deriving Repr, Inhabited

namespace Cursor

/-- Is nothing left? -/
def isAtEnd (c : Cursor) : Bool :=
  c.rest.isEmpty

/-- The cursor after some characters of the same line. -/
def skip (c : Cursor) (n : Nat) : Cursor :=
  { rest := c.rest.drop n, index := c.index + n, line := c.line, column := c.column + n }

/-- The cursor at a rest of the text that begins on the same line. -/
def skipTo (c : Cursor) (rest : List Char) : Cursor :=
  c.skip (c.rest.length - rest.length)

/-- The cursor after the characters in front that have a property, none of which is a line break. -/
def skipWhile (c : Cursor) (p : Char → Bool) : Cursor :=
  c.skip (c.rest.takeWhile p).length

/-- The line break in front and the cursor on the next line. -/
def skipBreak (c : Cursor) : Option (Char × Cursor) :=
  (lineBreak? c.rest).map fun (b, rest) =>
    (b, { rest, index := c.index + (c.rest.length - rest.length), line := c.line + 1, column := 0 })

/-- The characters up to the end of the line, and the cursor there. -/
def restOfLine (c : Cursor) : List Char × Cursor :=
  let rec line : List Char → List Char
    | [] => []
    | a :: as => if (lineBreak? (a :: as)).isSome then [] else a :: line as
  let text := line c.rest
  (text, c.skip text.length)

/-- Does a line begin here with one of the marks between documents? -/
def isAtDocumentMark (c : Cursor) : Bool :=
  c.column == 0 &&
    (match c.rest with
      | '-' :: '-' :: '-' :: rest => atWhite rest
      | '.' :: '.' :: '.' :: rest => atWhite rest
      | _ => false)

/-- Blanks and line breaks in a row: the blanks before the first break, the breaks, whether a tab
stands before a column on a later line, and the cursor behind them. -/
structure White where
  blanks : List Char
  breaks : List Char
  hasEarlyTab : Bool
  after : Cursor

/-- Reads blanks and line breaks, of which some may have been read on earlier lines; every step
consumes one. -/
def whiteRun (column : Nat) : (left : Nat) → (isLater : Bool) → Cursor → White
  | 0, _, c => ⟨[], [], false, c⟩
  | left + 1, isLater, c =>
    match c.rest with
    | [] => ⟨[], [], false, c⟩
    | a :: _ =>
      if isBlank a then
        let w := whiteRun column left isLater (c.skip 1)
        { w with
          blanks := a :: w.blanks
          hasEarlyTab := w.hasEarlyTab || (isLater && a == '\t' && c.column < column) }
      else
        match c.skipBreak with
        | none => ⟨[], [], false, c⟩
        | some (b, c) =>
          let w := whiteRun column left true c
          { w with blanks := [], breaks := b :: w.breaks }

/-- All blanks and line breaks in front of a cursor. -/
def white (c : Cursor) (column : Nat) : White :=
  whiteRun column c.rest.length false c

/-- What blanks and line breaks between words stand for: one line break is a space, of several the
first is dropped, and blanks around them do not count. -/
def White.folded (w : White) : List Char :=
  match w.breaks with
  | [] => w.blanks
  | ['\n'] => [' ']
  | '\n' :: breaks => breaks
  | breaks => breaks

end Cursor

end TrafficGateway.Yaml
