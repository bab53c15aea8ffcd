import TrafficGateway.Document

/-!
# Writing JSON

Documents as JSON text, on one line or indented by two spaces.

## Main definitions

* `Json.escape`: the written form of a character inside a string.
* `Json.render`: a document on one line.
* `Json.renderIndented`: a document with an item or entry per line.
-/

namespace TrafficGateway.Json

/-- The hexadecimal digit of a number below sixteen, in lower case. -/
def hexDigit (n : Nat) : Char :=
  Nat.digitChar (n % 16)

/-- The written form of a character inside a string: short escapes where there are some, numbers
for the other controls. -/
def escape (c : Char) : List Char :=
  if c = '"' then ['\\', '"']
  else if c = '\\' then ['\\', '\\']
  else if c = '\n' then ['\\', 'n']
  else if c = '\r' then ['\\', 'r']
  else if c = '\t' then ['\\', 't']
  else if c = '\x08' then ['\\', 'b']
  else if c = '\x0c' then ['\\', 'f']
  else if c.toNat < 0x20 then ['\\', 'u', '0', '0', hexDigit (c.toNat / 16), hexDigit c.toNat]
  else [c]

/-- A text as a JSON string. -/
def string (s : String) : String :=
  String.ofList ('"' :: s.toList.flatMap escape ++ ['"'])

mutual

/-- A document on one line. What nobody can take is absent. -/
def render : Document → String
  | .null | .unreadable => "null"
  | .bool true => "true"
  | .bool false => "false"
  | .int n => toString n
  | .real digits => digits
  | .text s => string s
  | .scalar s => string s.text
  | .list [] => "[]"
  | .list (d :: ds) => "[" ++ render d ++ renderItems ds
  | .table [] => "\x7b\x7d"
  | .table ((k, d) :: ds) => "\x7b" ++ string k ++ ":" ++ render d ++ renderEntries ds

/-- The items of a list after its first, and the closing bracket. -/
def renderItems : List Document → String
  | [] => "]"
  | d :: ds => "," ++ render d ++ renderItems ds

/-- The entries of a table after its first, and the closing brace. -/
def renderEntries : List (String × Document) → String
  | [] => "\x7d"
  | (k, d) :: ds => "," ++ string k ++ ":" ++ render d ++ renderEntries ds

end

/-- A line break and the indentation of a level. -/
def newline (level : Nat) : String :=
  String.ofList ('\n' :: List.replicate (2 * level) ' ')

mutual

/-- A document with an item or entry per line, at the given level of indentation. -/
def renderAt (level : Nat) : Document → String
  | .list (d :: ds) => "[" ++ newline (level + 1) ++ renderAt (level + 1) d ++ renderItemsAt level ds
  | .table ((k, d) :: ds) =>
    "\x7b" ++ newline (level + 1) ++ string k ++ ": " ++ renderAt (level + 1) d ++
      renderEntriesAt level ds
  | d => render d

/-- The items of a list after its first, and the closing bracket. -/
def renderItemsAt (level : Nat) : List Document → String
  | [] => newline level ++ "]"
  | d :: ds => "," ++ newline (level + 1) ++ renderAt (level + 1) d ++ renderItemsAt level ds

/-- The entries of a table after its first, and the closing brace. -/
def renderEntriesAt (level : Nat) : List (String × Document) → String
  | [] => newline level ++ "\x7d"
  | (k, d) :: ds =>
    "," ++ newline (level + 1) ++ string k ++ ": " ++ renderAt (level + 1) d ++
      renderEntriesAt level ds

end

/-- A document with an item or entry per line. -/
def renderIndented (d : Document) : String :=
  renderAt 0 d

end TrafficGateway.Json
