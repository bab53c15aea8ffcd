/-!
# Blank characters

The characters that count as white space in a text, and trimming a text of them.

## Main definitions

* `isBlank`: the characters with the white space property.
* `trim`: a text without the blank characters at its two ends.
-/

namespace TrafficGateway

/-- The characters with the white space property: the controls from tab to carriage return, the
space, the next line control, and the blank characters outside the first 128. -/
def isBlank (c : Char) : Bool :=
  let n := c.toNat
  (0x09 ≤ n && n ≤ 0x0d) || n == 0x20 || n == 0x85 || n == 0xa0 || n == 0x1680 ||
    (0x2000 ≤ n && n ≤ 0x200a) || n == 0x2028 || n == 0x2029 || n == 0x202f || n == 0x205f ||
    n == 0x3000

/-- A list without the leading items that satisfy `p` and without the trailing ones. -/
def trimBy {α : Type} (p : α → Bool) (cs : List α) : List α :=
  ((cs.dropWhile p).reverse.dropWhile p).reverse

/-- The text without the blanks at its two ends. -/
def trim (s : String) : String :=
  String.ofList (trimBy isBlank s.toList)

end TrafficGateway
