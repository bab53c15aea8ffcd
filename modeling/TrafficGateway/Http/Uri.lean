/-!
# Addresses

The addresses that a request is sent to: a scheme and an authority, which a request of its own
connection leaves out, then a path and a query. Fragments are dropped.

## Main definitions

* `PathAndQuery.read`: a path and an optional query.
* `Authority.read`: a host with optional user and port.
* `Scheme.split`: the scheme that an address starts with.
* `Uri`, `Uri.read`, `Uri.render`: whole addresses.
-/

namespace TrafficGateway

/-! ### Path and query -/

/-- A path and an optional query. The path is empty only if nothing was written. -/
structure PathAndQuery where
  path : String
  query : Option String := none
  deriving DecidableEq, Repr, Inhabited

namespace PathAndQuery

/-- The characters that may stand in a path: those that need no escape, a few more that clients
send as they are, and everything beyond ASCII. -/
def isPathChar (c : Char) : Bool :=
  let n := c.toNat
  n == 0x21 || (0x24 ≤ n && n ≤ 0x3b) || n == 0x3d || (0x40 ≤ n && n ≤ 0x5f) ||
    (0x61 ≤ n && n ≤ 0x7a) || n == 0x7c || n == 0x7e || 0x7f ≤ n || c == '"' || c == '{' || c == '}'

/-- The characters that may stand in a query. -/
def isQueryChar (c : Char) : Bool :=
  let n := c.toNat
  n == 0x21 || (0x24 ≤ n && n ≤ 0x3b) || n == 0x3d || 0x3f ≤ n

/-- Reads a path, then a query after a question mark; a number sign ends either. -/
def read (cs : List Char) : Option PathAndQuery :=
  let (path, rest) := cs.span fun c => c != '?' && c != '#'
  if !path.all isPathChar then none
  else
    match rest with
    | '?' :: rest =>
      let query := rest.takeWhile (· != '#')
      if query.all isQueryChar then some ⟨String.ofList path, some (String.ofList query)⟩ else none
    | _ => some ⟨String.ofList path, none⟩

/-- Reads a path and a query to be put after an authority: a path that is not empty starts at the
root, or is the asterisk. -/
def readAbsolute (cs : List Char) : Option PathAndQuery :=
  match cs with
  | [] => read cs
  | c :: _ => if c = '/' ∨ c = '?' ∨ c = '#' ∨ c = '*' then read cs else none

/-- The path, which is the root when nothing was written. -/
def rooted (p : PathAndQuery) : String :=
  if p.path.isEmpty then "/" else p.path

end PathAndQuery

/-! ### Authority -/

namespace Authority

/-- What has been seen of an authority: the colons since the last bracket or at sign, the brackets,
whether there is a percent sign since then, and whether the last character was an at sign. -/
structure Seen where
  colons : Nat := 0
  opened : Bool := false
  closed : Bool := false
  percent : Bool := false
  afterAt : Bool := false

/-- How many colons may stand in a row of parts of a host. -/
def maxColons : Nat := 8

/-- The characters that may stand in an authority and mean nothing by themselves. -/
def isPlain (c : Char) : Bool :=
  c.isAlphanum || "!$&'()*+,-.;=_~".toList.contains c

/-- Looks at one more character. The colons of a user and of an address between brackets are no
port, and a percent sign is allowed only in those. -/
def Seen.step (s : Seen) (c : Char) : Option Seen :=
  let s' := { s with afterAt := false }
  if isPlain c then some s'
  else if c = ':' then
    if maxColons ≤ s.colons then none else some { s' with colons := s.colons + 1 }
  else if c = '[' then
    if s.percent || s.opened then none else some { s' with opened := true }
  else if c = ']' then
    if !s.opened || s.closed then none
    else some { s' with closed := true, colons := 0, percent := false }
  else if c = '@' then some { s with colons := 0, percent := false, afterAt := true }
  else if c = '%' then some { s' with percent := true }
  else none

/-- Looks at all characters. -/
def Seen.run : Seen → List Char → Option Seen
  | s, [] => some s
  | s, c :: cs => (s.step c).bind fun s => s.run cs

/-- May the text stand as an authority? Brackets come in a pair, at most one colon is left for the
port, and a user is followed by a host. -/
def isValid (cs : List Char) : Bool :=
  match Seen.run {} cs with
  | some s => s.opened == s.closed && s.colons ≤ 1 && !s.afterAt && !s.percent
  | none => false

/-- Splits off the part of an address that its authority can reach to. -/
def split (cs : List Char) : List Char × List Char :=
  cs.span fun c => c != '/' && c != '?' && c != '#'

/-- An authority that stands by itself, which must not be empty. -/
def read (s : String) : Option String :=
  if !s.isEmpty && isValid s.toList then some s else none

end Authority

/-! ### Scheme -/

namespace Scheme

/-- How long a scheme may be. -/
def maxLength : Nat := 64

/-- The characters of schemes. -/
def isSchemeChar (c : Char) : Bool :=
  c.isAlphanum || c == '+' || c == '-' || c == '.'

/-- What an address starts with. -/
inductive Start where
  /-- A scheme, and the rest after the two slashes. -/
  | scheme (name : String) (rest : List Char)
  /-- No scheme. -/
  | none
  /-- A scheme that is too long. -/
  | tooLong
  deriving DecidableEq, Repr

/-- Splits off the scheme of an address. The two common ones are known in either case and written
in lower case. -/
def split (cs : List Char) : Start :=
  match cs.span isSchemeChar with
  | (name, ':' :: '/' :: '/' :: rest) =>
    let name := String.ofList name
    let lower := name.map Char.toLower
    if lower = "http" ∨ lower = "https" then .scheme lower rest
    else if maxLength < name.length then .tooLong
    else .scheme name rest
  | _ => .none

end Scheme

/-! ### Whole addresses -/

/-- An address. An address with a scheme has an authority. -/
structure Uri where
  scheme : Option String := none
  authority : Option String := none
  target : PathAndQuery := ⟨"", none⟩
  deriving DecidableEq, Repr, Inhabited

namespace Uri

/-- How many bytes an address may have. -/
def maxLength : Nat := 65534

/-- Reads an address: a path with an optional query, an asterisk, an authority by itself, or a
scheme with an authority and then a path and a query. -/
def read (s : String) : Option Uri :=
  if maxLength < s.utf8ByteSize then none
  else
    match s.toList with
    | [] => none
    | ['*'] => some { target := ⟨"*", none⟩ }
    | '/' :: rest => (PathAndQuery.read ('/' :: rest)).map fun target => { target }
    | cs =>
      match Scheme.split cs with
      | .tooLong => none
      | .none => (Authority.read s).map fun authority => { authority }
      | .scheme scheme rest =>
        let (authority, rest) := Authority.split rest
        match Authority.read (String.ofList authority), PathAndQuery.read rest with
        | some authority, some target => some { scheme, authority, target }
        | _, _ => none

/-- The path. Only an address that is an authority by itself has none. -/
def path (u : Uri) : String :=
  if u.scheme.isNone && u.target.path.isEmpty && u.target.query.isNone then ""
  else u.target.rooted

/-- The query. -/
def query (u : Uri) : Option String :=
  u.target.query

/-- The text of an address. -/
def render (u : Uri) : String :=
  (match u.scheme with
    | some scheme => scheme ++ "://"
    | none => "") ++
  u.authority.getD "" ++ u.path ++
  (match u.query with
    | some query => "?" ++ query
    | none => "")

end Uri

end TrafficGateway
