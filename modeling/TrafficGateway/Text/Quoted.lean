import TrafficGateway.Text.Category
import TrafficGateway.Text.Numeral

/-!
# Quoted text

Messages show a configured text between double quotes, with every character escaped that would not
show as itself: the quote and the backslash, the controls, and whatever has no printed form of its
own or would combine with the character before it.

## Main definitions

* `Quoted.isShown`: the characters that stand for themselves.
* `Quoted.encodeChar`, `quoted`: the written form of a character and of a text.
-/

namespace TrafficGateway

namespace Quoted

/-- Spacing marks and controls that extend the character before them although they are neither
nonspacing nor enclosing marks, as closed ranges. -/
def extendingRanges : List (Nat × Nat) :=
  [(0x9be, 0x9be), (0x9d7, 0x9d7), (0xb3e, 0xb3e), (0xb57, 0xb57), (0xbbe, 0xbbe), (0xbd7, 0xbd7),
   (0xcc0, 0xcc0), (0xcc2, 0xcc2), (0xcc7, 0xcc8), (0xcca, 0xccb), (0xcd5, 0xcd6), (0xd3e, 0xd3e),
   (0xd57, 0xd57), (0xdcf, 0xdcf), (0xddf, 0xddf), (0x1715, 0x1715), (0x1734, 0x1734),
   (0x1b35, 0x1b35), (0x1b3b, 0x1b3b), (0x1b3d, 0x1b3d), (0x1b43, 0x1b44), (0x1baa, 0x1baa),
   (0x1bf2, 0x1bf3), (0x200c, 0x200c), (0x302e, 0x302f), (0xa953, 0xa953), (0xa9c0, 0xa9c0),
   (0xff9e, 0xff9f), (0x111c0, 0x111c0), (0x11235, 0x11235), (0x1133e, 0x1133e),
   (0x1134d, 0x1134d), (0x11357, 0x11357), (0x113b8, 0x113b8), (0x113c2, 0x113c2),
   (0x113c5, 0x113c5), (0x113c7, 0x113c9), (0x113cf, 0x113cf), (0x114b0, 0x114b0),
   (0x114bd, 0x114bd), (0x115af, 0x115af), (0x116b6, 0x116b6), (0x11930, 0x11930),
   (0x1193d, 0x1193d), (0x11f41, 0x11f41), (0x16ff0, 0x16ff1), (0x1d165, 0x1d166),
   (0x1d16d, 0x1d172), (0xe0020, 0xe007f)]

/-- Does the character attach to the one before it? -/
def isExtending (c : Char) : Bool :=
  match charCategory c with
  | .nonspacingMark | .enclosingMark => true
  | _ => extendingRanges.any fun r => r.1 ≤ c.toNat && c.toNat ≤ r.2

/-- Has the character a printed form? Of the separators only the space has one. -/
def isPrintable (c : Char) : Bool :=
  match charCategory c with
  | .control | .format | .surrogate | .privateUse | .unassigned => false
  | .lineSeparator | .paragraphSeparator => false
  | .spaceSeparator => c == ' '
  | _ => true

/-- The characters that a quoted text shows as they are. -/
def isShown (c : Char) : Bool :=
  if c.toNat < 0x7f then 0x20 ≤ c.toNat && c != '"' && c != '\\'
  else isPrintable c && !isExtending c

/-- The written form of one character of a quoted text: short escapes for the quote, the backslash
and four controls, the code point in braces for whatever else is not shown. -/
def encodeChar (c : Char) : List Char :=
  if c = '"' then ['\\', '"']
  else if c = '\\' then ['\\', '\\']
  else if c = '\n' then ['\\', 'n']
  else if c = '\r' then ['\\', 'r']
  else if c = '\t' then ['\\', 't']
  else if c = '\x00' then ['\\', '0']
  else if isShown c then [c]
  else ['\\', 'u', '{'] ++ Nat.toDigits 16 c.toNat ++ ['}']

end Quoted

/-- The text between double quotes, with every character in its written form. -/
def quoted (s : String) : String :=
  String.ofList ('"' :: s.toList.flatMap Quoted.encodeChar ++ ['"'])

end TrafficGateway
