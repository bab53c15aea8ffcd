/-!
# Decimal and hexadecimal numerals

Reading of unsigned decimal numerals below a bound, and the digits of a number.

## Main definitions

* `Numeral.digitValue`: the value of a decimal digit.
* `Numeral.read`: the number that a non-empty sequence of decimal digits denotes.
* `Numeral.readBounded`: the same with an optional plus sign and below a bound.
* `Numeral.hex`: the lower case hexadecimal digits of a number.
-/

namespace TrafficGateway.Numeral

/-- The value of an ASCII decimal digit. -/
def digitValue (c : Char) : Option Nat :=
  if '0' ≤ c ∧ c ≤ '9' then some (c.toNat - '0'.toNat) else none

/-- The value of an ASCII hexadecimal digit, in either case. -/
def hexValue (c : Char) : Option Nat :=
  if '0' ≤ c ∧ c ≤ '9' then some (c.toNat - '0'.toNat)
  else if 'a' ≤ c ∧ c ≤ 'f' then some (c.toNat - 'a'.toNat + 10)
  else if 'A' ≤ c ∧ c ≤ 'F' then some (c.toNat - 'A'.toNat + 10)
  else none

/-- Reads digits of the given base onto a number already read; `none` at the first character that
is no such digit. -/
def readOnto (base : Nat) (value : Char → Option Nat) : Nat → List Char → Option Nat
  | n, [] => some n
  | n, c :: cs =>
    match value c with
    | some d => if d < base then readOnto base value (base * n + d) cs else none
    | none => none

/-- The number that a non-empty sequence of decimal digits denotes. -/
def read : List Char → Option Nat
  | [] => none
  | cs => readOnto 10 digitValue 0 cs

/-- The number that a non-empty sequence of digits of base two to sixteen denotes. -/
def readBase (base : Nat) : List Char → Option Nat
  | [] => none
  | cs => readOnto base hexValue 0 cs

/-- Reads an unsigned decimal numeral, which may start with one plus sign and must denote a number
below `bound`. -/
def readBounded (bound : Nat) (cs : List Char) : Option Nat :=
  let digits := match cs with
    | '+' :: rest => rest
    | _ => cs
  match read digits with
  | some n => if n < bound then some n else none
  | none => none

/-- The lower case hexadecimal digits of a number, without leading zeros. -/
def hex (n : Nat) : String :=
  String.ofList (Nat.toDigits 16 n)

/-- Two lower case hexadecimal digits for a byte. -/
def hexByte (b : UInt8) : String :=
  String.ofList [Nat.digitChar (b.toNat / 16), Nat.digitChar (b.toNat % 16)]

end TrafficGateway.Numeral
