import TrafficGateway.Text.Numeral

/-!
# Socket addresses

Addresses of hosts, of the fourth and of the sixth version, and the ports there. The longest of the
first rows of at least two zero groups is left out of an address of the sixth version, and an address
of the fourth version inside one is written as such.

## Main definitions

* `IpAddress`: the address of a host.
* `SocketAddress`: a host and a port.
* `SocketAddress.read`, `SocketAddress.render`: its text.
-/

namespace TrafficGateway

/-- The address of a host: four bytes, or eight groups of sixteen bits. -/
inductive IpAddress where
  | v4 (bytes : List Nat)
  | v6 (groups : List Nat)
  deriving DecidableEq, Repr, Inhabited

namespace IpAddress

/-! ### Reading -/

/-- Reads a numeral of at least one digit and, if there is a limit, not more digits than that. -/
def readDigits (base limit : Nat) (cs : List Char) : Option (List Char × Nat × List Char) :=
  let (digits, rest) := cs.span fun c => ((Numeral.hexValue c).map (decide <| · < base)).getD false
  if limit < digits.length then none
  else (Numeral.readBase base digits).map fun n => (digits, n, rest)

/-- Reads a byte; only zero itself starts with a zero. -/
def readByte (cs : List Char) : Option (Nat × List Char) := do
  let (digits, n, rest) ← readDigits 10 3 cs
  if n < 256 ∧ (digits.head? ≠ some '0' ∨ digits.length = 1) then some (n, rest) else none

/-- Reads a character. -/
def readChar (c : Char) : List Char → Option (List Char)
  | d :: rest => if d = c then some rest else none
  | [] => none

/-- Reads bytes with points between them. -/
def readBytes : Nat → List Char → Option (List Nat × List Char)
  | 0, cs => some ([], cs)
  | 1, cs => do
    let (b, rest) ← readByte cs
    return ([b], rest)
  | n + 2, cs => do
    let (b, rest) ← readByte cs
    let (bs, rest) ← readBytes (n + 1) (← readChar '.' rest)
    return (b :: bs, rest)

/-- The two groups of four bytes. -/
def groupsOfBytes : List Nat → List Nat
  | a :: b :: rest => (256 * a + b) :: groupsOfBytes rest
  | _ => []

/-- Reads up to `limit` groups with colons between them; the last two may be written as four bytes.
Were they? -/
def readGroups : (limit : Nat) → (isFirst : Bool) → List Char → List Nat × Bool × List Char
  | 0, _, cs => ([], false, cs)
  | limit + 1, isFirst, cs =>
    let start := if isFirst then some cs else readChar ':' cs
    match start.bind (if 0 < limit then readBytes 4 else fun _ => none) with
    | some (bytes, rest) => (groupsOfBytes bytes, true, rest)
    | none =>
      match start.bind (readDigits 16 4) with
      | some (_, n, rest) =>
        let (groups, embedded, rest) := readGroups limit false rest
        (n :: groups, embedded, rest)
      | none => ([], false, cs)

/-- Reads an address of the sixth version: eight groups, or fewer with two colons for the rest of
them, which are zero. -/
def readV6 (cs : List Char) : Option (List Nat × List Char) :=
  let (front, embedded, rest) := readGroups 8 true cs
  if front.length = 8 then some (front, rest)
  else if embedded then none
  else do
    let rest ← readChar ':' (← readChar ':' rest)
    let (back, _, rest) := readGroups (7 - front.length) true rest
    return (front ++ List.replicate (8 - front.length - back.length) 0 ++ back, rest)

/-! ### Writing -/

/-- Four bytes with points between them. -/
def renderBytes (bytes : List Nat) : String :=
  String.intercalate "." (bytes.map toString)

/-- Groups with colons between them. -/
def renderGroups (groups : List Nat) : String :=
  String.intercalate ":" (groups.map Numeral.hex)

/-- How many zero groups there are in front. -/
def zerosInFront (groups : List Nat) : Nat :=
  (groups.takeWhile (· == 0)).length

/-- Where the first of the longest rows of zero groups begins, counted from `place`, and its
length. -/
def longestZeros : Nat → List Nat → Nat × Nat
  | place, [] => (place, 0)
  | place, g :: gs =>
    let here := zerosInFront (g :: gs)
    let later := longestZeros (place + 1) gs
    if later.2 ≤ here then (place, here) else later

/-- The text of an address. -/
def render : IpAddress → String
  | v4 bytes => renderBytes bytes
  | v6 groups =>
    match groups with
    | [0, 0, 0, 0, 0, 0xffff, a, b] =>
      "::ffff:" ++ renderBytes [a / 256, a % 256, b / 256, b % 256]
    | _ =>
      let (place, zeros) := longestZeros 0 groups
      if 1 < zeros then
        renderGroups (groups.take place) ++ "::" ++ renderGroups (groups.drop (place + zeros))
      else renderGroups groups

end IpAddress

/-- A host and a port; a scope tells the links of an address of the sixth version apart. -/
structure SocketAddress where
  host : IpAddress
  port : Nat
  scope : Nat := 0
  deriving DecidableEq, Repr, Inhabited

namespace SocketAddress

/-- Reads a number below a bound. -/
def readBelow (bound : Nat) (cs : List Char) : Option (Nat × List Char) := do
  let (_, n, rest) ← IpAddress.readDigits 10 cs.length cs
  if n < bound then some (n, rest) else none

/-- Reads a port after a colon, with which the text ends. -/
def readPort (cs : List Char) : Option Nat := do
  match ← readBelow UInt16.size (← IpAddress.readChar ':' cs) with
  | (port, []) => some port
  | _ => none

/-- Reads a scope after a percent sign; without one it is zero. -/
def readScope (cs : List Char) : Nat × List Char :=
  ((IpAddress.readChar '%' cs).bind (readBelow UInt32.size)).getD (0, cs)

/-- Reads an address of the sixth version in brackets and a port. -/
def readBracketed (cs : List Char) : Option SocketAddress := do
  let (groups, rest) ← IpAddress.readV6 cs
  let (scope, rest) := readScope rest
  return { host := .v6 groups, port := ← readPort (← IpAddress.readChar ']' rest), scope }

/-- Reads a host and a port. -/
def read (s : String) : Option SocketAddress :=
  match s.toList with
  | '[' :: cs => readBracketed cs
  | cs => do
    let (bytes, rest) ← IpAddress.readBytes 4 cs
    return { host := .v4 bytes, port := ← readPort rest }

/-- The text of a host and a port. -/
def render (a : SocketAddress) : String :=
  match a.host with
  | .v4 _ => a.host.render ++ ":" ++ toString a.port
  | .v6 _ =>
    let scope := if a.scope = 0 then "" else "%" ++ toString a.scope
    "[" ++ a.host.render ++ scope ++ "]:" ++ toString a.port

end SocketAddress

end TrafficGateway
