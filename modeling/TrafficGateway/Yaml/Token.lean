import TrafficGateway.Yaml.Text

/-!
# Tokens of YAML

The marks, names and texts that a document is made of, with the ends of blocks that indentation alone
shows. A text becomes the key of a table when a colon follows it on the same line; its place in the
list of tokens is kept until then.

## Main definitions

* `Token`: the tokens.
* `Layout`: what has been read, the open blocks, and where a key may stand.
* `Layout.step`: the next token.
* `Token.ofText`: all tokens of a text.
-/

namespace TrafficGateway.Yaml

/-- The tokens. A tag is the short name of a space of tags and a name in it. -/
inductive Token where
  | versionMark (major minor : Nat)
  | tagSpace (short full : String)
  | documentStart
  | documentEnd
  | blockList
  | blockTable
  | blockEnd
  | listOpen
  | listClose
  | tableOpen
  | tableClose
  | entry
  | comma
  | key
  | value
  | alias (name : String)
  | anchor (name : String)
  | tag (short name : String)
  | scalar (text : String) (plain : Bool)
  deriving DecidableEq, Repr, Inhabited

/-- A text that may turn out to be a key: where it begins, and the number of its first token. A needed
one must turn out so. -/
structure KeyCandidate where
  place : Cursor
  number : Nat
  isNeeded : Bool

/-- What has been read: the cursor, the tokens, the columns of the open blocks from the innermost, the
candidates for keys of the open brackets from the innermost and of the block around them, and whether
a key may begin here. -/
structure Layout where
  cursor : Cursor
  tokens : Array Token := #[]
  columns : List Nat := []
  brackets : List (Option KeyCandidate) := []
  candidate : Option KeyCandidate := none
  mayBeginKey : Bool := true

namespace Layout

/-- Are any brackets open? -/
def inBrackets (l : Layout) : Bool :=
  !l.brackets.isEmpty

/-- Does a column lie behind that of the innermost block? -/
def isDeeper (l : Layout) (column : Nat) : Bool :=
  match l.columns with
  | [] => true
  | c :: _ => c < column

/-- Adds a token. -/
def push (l : Layout) (t : Token) : Layout :=
  { l with tokens := l.tokens.push t }

/-- Goes on behind some characters. -/
def skip (l : Layout) (n : Nat) : Layout :=
  { l with cursor := l.cursor.skip n }

/-- Puts tokens in front of the token with a number. -/
def insertAt (l : Layout) (number : Nat) (ts : List Token) : Layout :=
  { l with
    tokens :=
      l.tokens.extract 0 number ++ ts.toArray ++ l.tokens.extract number l.tokens.size }

/-! ### Blocks -/

/-- Closes the blocks that do not reach to a column; `none` stands for the end of the document. -/
def closeBlocks (l : Layout) (column : Option Nat) : Layout :=
  if l.inBrackets then l
  else
    let stays (c : Nat) : Bool := (column.map fun n => decide (c ≤ n)).getD false
    let closed := l.columns.takeWhile fun c => !stays c
    { l with
      columns := l.columns.drop closed.length
      tokens := l.tokens ++ (closed.map fun _ => Token.blockEnd).toArray }

/-- Opens a block at a column, if none is open there, in front of the token with a number. -/
def openBlock (l : Layout) (column : Nat) (start : Token) (number : Nat) : Layout :=
  if !l.inBrackets && l.isDeeper column then
    { l.insertAt number [start] with columns := column :: l.columns }
  else l

/-! ### Candidates for keys -/

/-- Gives the candidate up; a needed one cannot be. -/
def dropCandidate (l : Layout) : Except Error Layout :=
  match l.candidate with
  | some k => if k.isNeeded then .error .noKey else .ok { l with candidate := none }
  | none => .ok l

/-- How long a key may be. -/
def maxKeyLength : Nat := 1024

/-- Is a candidate on an earlier line, or too long ago? -/
def isStale (l : Layout) (k : KeyCandidate) : Bool :=
  k.place.line < l.cursor.line || k.place.index + maxKeyLength < l.cursor.index

/-- Gives up candidates that can be no key any more. -/
def dropStale (l : Layout) : Except Error Layout := do
  let check (k : Option KeyCandidate) : Except Error (Option KeyCandidate) :=
    match k with
    | some k =>
      if !l.isStale k then .ok (some k) else if k.isNeeded then .error .noKey else .ok none
    | none => .ok none
  return { l with candidate := ← check l.candidate, brackets := ← l.brackets.mapM check }

/-- Notes that a text begins here, which may turn out to be a key. It must be one if it stands in the
column of the block. -/
def noteCandidate (l : Layout) : Except Error Layout :=
  if l.mayBeginKey then do
    let l ← l.dropCandidate
    let isNeeded := !l.inBrackets && l.columns.head? == some l.cursor.column
    return { l with candidate := some { place := l.cursor, number := l.tokens.size, isNeeded } }
  else .ok l

/-! ### Tokens of a single mark -/

/-- A bracket that opens. -/
def openBracket (l : Layout) (t : Token) : Except Error Layout := do
  let l ← l.noteCandidate
  return { (l.skip 1).push t with
    brackets := l.candidate :: l.brackets, candidate := none, mayBeginKey := true }

/-- A bracket that closes. Without an open one nothing changes but the tokens. -/
def closeBracket (l : Layout) (t : Token) : Except Error Layout := do
  let l ← l.dropCandidate
  let l := (l.skip 1).push t
  match l.brackets with
  | candidate :: brackets => return { l with brackets, candidate, mayBeginKey := false }
  | [] => return { l with mayBeginKey := false }

/-- A comma. -/
def comma (l : Layout) : Except Error Layout := do
  let l ← l.dropCandidate
  return { (l.skip 1).push .comma with mayBeginKey := true }

/-- Opens a block here, in which an entry or a key with a mark of its own stands. -/
def beginBlock (l : Layout) (start : Token) : Except Error Layout :=
  if l.inBrackets then .ok l
  else if l.mayBeginKey then .ok (l.openBlock l.cursor.column start l.tokens.size)
  else .error (.unexpected "mark")

/-- The mark of an entry of a list. -/
def entry (l : Layout) : Except Error Layout := do
  let l ← l.beginBlock .blockList
  let l ← l.dropCandidate
  return { (l.skip 1).push .entry with mayBeginKey := true }

/-- The mark of a key. -/
def key (l : Layout) : Except Error Layout := do
  let l ← l.beginBlock .blockTable
  let l ← l.dropCandidate
  return { (l.skip 1).push .key with mayBeginKey := !l.inBrackets }

/-- The mark of a value. It makes the candidate a key, if there is one. -/
def value (l : Layout) : Except Error Layout := do
  match l.candidate with
  | some k =>
    let l := (l.insertAt k.number [.key]).openBlock k.place.column .blockTable k.number
    return { (l.skip 1).push .value with candidate := none, mayBeginKey := false }
  | none =>
    let l ← l.beginBlock .blockTable
    return { (l.skip 1).push .value with mayBeginKey := !l.inBrackets }

/-! ### Names -/

/-- The characters of names. -/
def isNameChar (c : Char) : Bool :=
  c.isAlphanum || c == '_' || c == '-'

/-- The name of an anchor, of which the mark stands at the cursor. -/
def name (l : Layout) (make : String → Token) : Except Error Layout := do
  let l ← l.noteCandidate
  let c := l.cursor.skip 1
  let text := c.rest.takeWhile isNameChar
  let c := c.skip text.length
  let ends := atWhite c.rest ||
    (c.rest.head?.map fun a => "?:,]\x7d%@".toList.contains a || a.toNat == 0x60).getD false
  if text.isEmpty || !ends then throw (.unexpected "name")
  return { l.push (make (String.ofList text)) with cursor := c, mayBeginKey := false }

/-- The characters of tags. -/
def isTagChar (inAngles : Bool) (c : Char) : Bool :=
  isNameChar c || ";/?:@&=+$.%!~*'()".toList.contains c ||
    (inAngles && ",[]".toList.contains c)

/-- The bytes of escapes in a tag. -/
def tagBytes : List Char → Option (List UInt8)
  | [] => some []
  | '%' :: a :: b :: rest => do
    let n ← Numeral.readBase 16 [a, b]
    return UInt8.ofNat n :: (← tagBytes rest)
  | c :: rest =>
    if c == '%' then none else (tagBytes rest).map ((String.singleton c).toUTF8.toList ++ ·)

/-- The text of a tag with its escapes resolved. -/
def tagText (cs : List Char) : Except Error String :=
  match (tagBytes cs).bind fun bs => String.fromUTF8? ⟨bs.toArray⟩ with
  | some s => .ok s
  | none => .error .badTag

/-- Reads a tag: a whole one in angles, or one in a space that has a short name. -/
def tagAt (c : Cursor) : Except Error (Token × Cursor) := do
  match c.rest with
  | '!' :: '<' :: rest =>
    let text := rest.takeWhile (isTagChar true)
    let c := c.skip (2 + text.length)
    if text.isEmpty || c.rest.head? != some '>' then throw .badTag
    return (.tag "" (← tagText text), c.skip 1)
  | _ =>
    let first := (c.rest.drop 1).takeWhile isNameChar
    let c' := c.skip (1 + first.length)
    if c'.rest.head? == some '!' then
      let c := c'.skip 1
      let text := c.rest.takeWhile (isTagChar false)
      if text.isEmpty then throw .badTag
      return (.tag ("!" ++ String.ofList first ++ "!") (← tagText text), c.skip text.length)
    else
      let text := (c.rest.drop 1).takeWhile (isTagChar false)
      let name ← tagText text
      return (if text.isEmpty then .tag "" "!" else .tag "!" name, c.skip (1 + text.length))

/-- A tag. -/
def tag (l : Layout) : Except Error Layout := do
  let l ← l.noteCandidate
  let (t, c) ← tagAt l.cursor
  if !atWhite c.rest && !(l.inBrackets && c.rest.head? == some ',') then throw .badTag
  return { l.push t with cursor := c, mayBeginKey := false }

/-! ### Directives and marks between documents -/

/-- Ends a line: blanks and a comment may follow. -/
def lineEnd (c : Cursor) : Except Error Cursor :=
  let c := c.skipWhile isBlank
  let c := if c.rest.head? == some '#' then c.restOfLine.2 else c
  match c.skipBreak with
  | some (_, c) => .ok c
  | none => if c.isAtEnd then .ok c else .error .badDirective

/-- A decimal number. -/
def number (c : Cursor) : Except Error (Nat × Cursor) :=
  let digits := c.rest.takeWhile Char.isDigit
  match if digits.length ≤ 9 then Numeral.read digits else none with
  | some n => .ok (n, c.skip digits.length)
  | none => .error .badDirective

/-- The directive that names the version. -/
def versionDirective (c : Cursor) : Except Error (Token × Cursor) := do
  let (major, c) ← number (c.skipWhile isBlank)
  if c.rest.head? != some '.' then throw .badDirective
  let (minor, c) ← number (c.skip 1)
  return (.versionMark major minor, c)

/-- The short name of a space of tags. -/
def shortName (c : Cursor) : Except Error (String × Cursor) :=
  match c.rest with
  | '!' :: rest =>
    let name := rest.takeWhile isNameChar
    match rest.drop name.length with
    | '!' :: _ => .ok ("!" ++ String.ofList name ++ "!", c.skip (name.length + 2))
    | _ => if name.isEmpty then .ok ("!", c.skip 1) else .error .badDirective
  | _ => .error .badDirective

/-- The directive that gives a space of tags a short name. -/
def tagDirective (c : Cursor) : Except Error (Token × Cursor) := do
  let (short, c) ← shortName (c.skipWhile isBlank)
  if !((c.rest.head?.map isBlank).getD false) then throw .badDirective
  let c := c.skipWhile isBlank
  let text := c.rest.takeWhile (isTagChar true)
  if text.isEmpty || !atWhite (c.rest.drop text.length) then throw .badDirective
  return (.tagSpace short (← tagText text), c.skip text.length)

/-- A directive. -/
def directive (l : Layout) : Except Error Layout := do
  let l ← (l.closeBlocks none).dropCandidate
  let c := l.cursor.skip 1
  let name := c.rest.takeWhile isNameChar
  let c := c.skip name.length
  if !atWhite c.rest then throw .badDirective
  let (t, c) ← match String.ofList name with
    | "YAML" => versionDirective c
    | "TAG" => tagDirective c
    | _ => throw .badDirective
  return { l.push t with cursor := ← lineEnd c, mayBeginKey := false }

/-- A mark between documents. -/
def documentMark (l : Layout) (t : Token) : Except Error Layout := do
  let l ← (l.closeBlocks none).dropCandidate
  return { (l.skip 3).push t with mayBeginKey := false }

/-! ### Texts -/

/-- A text in quotes. -/
def quotedText (l : Layout) (isSingle : Bool) : Except Error Layout := do
  let l ← l.noteCandidate
  let (text, cursor) ← QuotedText.read isSingle l.cursor
  return { l.push (.scalar (String.ofList text) false) with cursor, mayBeginKey := false }

/-- A text without quotes. -/
def plain (l : Layout) : Except Error Layout := do
  let l ← l.noteCandidate
  let column := (l.columns.head?.map (· + 1)).getD 0
  let r ← Plain.read l.inBrackets column l.cursor
  return { l.push (.scalar (String.ofList r.text) true) with
    cursor := r.after, mayBeginKey := r.endsLine }

/-- A block of lines. -/
def block (l : Layout) (isFolded : Bool) : Except Error Layout := do
  let l ← l.dropCandidate
  let (text, cursor) ← Block.read isFolded l.columns.head? l.cursor
  return { l.push (.scalar (String.ofList text) false) with cursor, mayBeginKey := true }

/-! ### All tokens -/

/-- Skips what stands between tokens: blanks, comments and line breaks. A tab may stand only where no
key can begin. Every round but the last consumes a line. -/
def gap : Nat → Layout → Layout
  | 0, l => l
  | left + 1, l =>
    let c := l.cursor.skipWhile fun a => a == ' ' || (a == '\t' && (l.inBrackets || !l.mayBeginKey))
    let c := if c.rest.head? == some '#' then c.restOfLine.2 else c
    match c.skipBreak with
    | some (_, cursor) =>
      gap left { l with cursor, mayBeginKey := l.mayBeginKey || !l.inBrackets }
    | none => { l with cursor := c }

/-- May a text without quotes begin with these characters? -/
def beginsPlain (inBrackets : Bool) : List Char → Bool
  | [] => false
  | a :: as =>
    if atWhite (a :: as) then false
    else if a == '-' then !((as.head?.map isBlank).getD false)
    else if a == '?' || a == ':' then !inBrackets && !atWhite as
    else !(",[]\x7b\x7d#&*!|>'\"%@".toList.contains a || a.toNat == 0x60)

/-- The token that begins at the cursor. -/
def token (l : Layout) : Except Error Layout :=
  let isAlone (rest : List Char) : Bool := atWhite rest
  match l.cursor.rest with
  | [] => .ok l
  | a :: as =>
    if l.cursor.column == 0 && a == '%' then l.directive
    else if l.cursor.isAtDocumentMark then
      l.documentMark (if a == '-' then .documentStart else .documentEnd)
    else if a == '[' then l.openBracket .listOpen
    else if a == '{' then l.openBracket .tableOpen
    else if a == ']' then l.closeBracket .listClose
    else if a == '}' then l.closeBracket .tableClose
    else if a == ',' then l.comma
    else if a == '-' && isAlone as then l.entry
    else if a == '?' && (l.inBrackets || isAlone as) then l.key
    else if a == ':' && (l.inBrackets || isAlone as) then l.value
    else if a == '*' then l.name .alias
    else if a == '&' then l.name .anchor
    else if a == '!' then l.tag
    else if a == '|' && !l.inBrackets then l.block false
    else if a == '>' && !l.inBrackets then l.block true
    else if a == '\'' then l.quotedText true
    else if a == '"' then l.quotedText false
    else if beginsPlain l.inBrackets l.cursor.rest then l.plain
    else .error (.unexpected "character")

/-- The next token, with the ends of the blocks before it. -/
def step (l : Layout) : Except Error Layout := do
  let l ← (gap (l.cursor.rest.length + 1) l).dropStale
  (l.closeBlocks (some l.cursor.column)).token

/-- Reads tokens to the end; every round but the last consumes a character. -/
def run : Nat → Layout → Except Error Layout
  | 0, l => .ok l
  | left + 1, l => do
    let l ← l.step
    if l.cursor.isAtEnd then (l.closeBlocks none).dropCandidate else run left l

end Layout

namespace Token

/-- May a character stand in a text at all? -/
def isAllowed (c : Char) : Bool :=
  c == '\t' || c == '\n' || c == '\r' || (0x20 ≤ c.toNat && c.toNat ≤ 0x7e) || c == '\u0085' ||
    (0xa0 ≤ c.toNat && c.toNat ≤ 0xfffd) || 0x10000 ≤ c.toNat

/-- All tokens of a text. A byte order mark in front does not count. -/
def ofText (s : String) : Except Error (List Token) := do
  match s.toList.find? fun c => !isAllowed c with
  | some c => throw (.control c)
  | none =>
    let rest := match s.toList with
      | '\ufeff' :: rest => rest
      | cs => cs
    let l ← Layout.run (rest.length + 1) { cursor := { rest } }
    return l.tokens.toList

end Token

end TrafficGateway.Yaml
