import TrafficGateway.Document
import TrafficGateway.Yaml.Token

/-!
# Reading YAML

The one document that a text holds. Its scalars are left untyped, with their tags; keys of tables must
be scalars. An alias stands for the last node with its anchor that is complete.

## Main definitions

* `Nodes`: the tokens that are left, and the names that are known.
* `Nodes.node`: the next node.
* `Nodes.document`: the document.
* `Yaml.read`: the document of a text.
-/

namespace TrafficGateway.Yaml

/-- The tokens that are left, the nodes with anchors from the last, and the spaces of tags by their
short names. -/
structure Nodes where
  tokens : List Token
  anchors : List (String × Document) := []
  spaces : List (String × String) := []

/-- A reader of nodes. -/
abbrev Parse (α : Type) := StateT Nodes (Except Error) α

/-- How many lists and tables may be open at once. -/
def depthLimit : Nat := 128

/-- The scalar that stands where nothing is written. -/
def nothing (tag : Option String) : Document :=
  .scalar { text := "", plain := true, tag }

namespace Nodes

/-! ### Tokens -/

/-- The next token. -/
def peek : Parse (Option Token) := do
  return (← get).tokens.head?

/-- Goes on behind the next token. -/
def advance : Parse Unit :=
  modify fun s => { s with tokens := s.tokens.drop 1 }

/-- Is the next token one of these, or is there none? -/
def isNext (ts : List Token) : Parse Bool := do
  match ← peek with
  | some t => return ts.contains t
  | none => return true

/-- Goes on behind the next token if it is the given one: was it? -/
def accept (t : Token) : Parse Bool := do
  if (← peek) == some t then
    advance
    return true
  else return false

/-- Refuses the next token. -/
def refuse {α : Type} (place : String) : Parse α :=
  throw (.unexpected place)

/-! ### Anchors and tags -/

/-- The full name of a tag. A tag that says nothing is none. -/
def fullTag (short name : String) : Parse (Option String) := do
  let known := (← get).spaces ++ [("!", "!"), ("!!", "tag:yaml.org,2002:")]
  let tag ← if short.isEmpty then pure name else
    match known.find? fun e => e.1 == short with
    | some e => pure (e.2 ++ name)
    | none => throw .badTag
  return if tag == "!" then none else some tag

/-- What stands in front of a node: its anchor, its tag, and whether either is there. -/
structure Properties where
  anchor : Option String := none
  tag : Option String := none
  isThere : Bool := false

/-- Reads an anchor and a tag, in either order. -/
def properties : Parse Properties := do
  match ← peek with
  | some (.anchor a) =>
    advance
    match ← peek with
    | some (.tag short name) =>
      advance
      return { anchor := some a, tag := ← fullTag short name, isThere := true }
    | _ => return { anchor := some a, isThere := true }
  | some (.tag short name) =>
    advance
    match ← peek with
    | some (.anchor a) =>
      advance
      return { anchor := some a, tag := ← fullTag short name, isThere := true }
    | _ => return { tag := ← fullTag short name, isThere := true }
  | _ => return {}

/-- The node that an alias stands for. -/
def aliased (name : String) : Parse Document := do
  match (← get).anchors.find? fun e => e.1 == name with
  | some e => return e.2
  | none => throw (.unknownAnchor name)

/-- Remembers a node with an anchor. -/
def remember (anchor : Option String) (d : Document) : Parse Document := do
  match anchor with
  | some name =>
    modify fun s => { s with anchors := (name, d) :: s.anchors }
    return d
  | none => return d

/-- The key that a node can be. -/
def keyOf : Document → Parse String
  | .scalar s => return s.text
  | _ => refuse "key"

/-! ### Nodes -/

mutual

/-- The next node. In a block a list or a table may begin here by indentation, and as the value of a
key also a list whose entries stand in the column of the key. -/
def node : (fuel depth : Nat) → (inBlock asValue : Bool) → Parse Document
  | 0, _, _, _ => throw .tooDeep
  | fuel + 1, depth, inBlock, asValue => do
    if let some (.alias name) ← peek then
      advance
      return ← aliased name
    let p ← properties
    let d ← content fuel depth inBlock asValue p
    remember p.anchor d

/-- A node behind its properties. -/
def content : (fuel depth : Nat) → (inBlock asValue : Bool) → Properties → Parse Document
  | 0, _, _, _, _ => throw .tooDeep
  | fuel + 1, depth, inBlock, asValue, p => do
    match ← peek, depth with
    | some (.scalar text plain), _ =>
      advance
      return .scalar { text, plain, tag := p.tag }
    | some .entry, depth + 1 =>
      if asValue then return .list (← blockItems fuel depth true)
      else if p.isThere then return nothing p.tag
      else refuse "entry"
    | some .listOpen, depth + 1 =>
      advance
      return .list (← listItems fuel depth true)
    | some .tableOpen, depth + 1 =>
      advance
      return .table (← tableEntries fuel depth true)
    | some .blockList, depth + 1 =>
      if inBlock then
        advance
        return .list (← blockItems fuel depth false)
      else if p.isThere then return nothing p.tag
      else refuse "block"
    | some .blockTable, depth + 1 =>
      if inBlock then
        advance
        return .table (← blockEntries fuel depth)
      else if p.isThere then return nothing p.tag
      else refuse "block"
    | some t, depth =>
      if depth == 0 && [.entry, .listOpen, .tableOpen, .blockList, .blockTable].contains t then
        throw .tooDeep
      else if p.isThere then return nothing p.tag
      else refuse "node"
    | none, _ => if p.isThere then return nothing p.tag else throw .unexpectedEnd

/-- A node, unless one of the given tokens comes next. -/
def nodeUnless : (fuel depth : Nat) → (inBlock asValue : Bool) → List Token → Parse Document
  | 0, _, _, _, _ => throw .tooDeep
  | fuel + 1, depth, inBlock, asValue, stops => do
    if ← isNext stops then return nothing none else node fuel depth inBlock asValue

/-- The entries of a list in a block. One that stands in the column of a key ends with the last
entry, any other with its block. -/
def blockItems : (fuel depth : Nat) → (isIndentless : Bool) → Parse (List Document)
  | 0, _, _ => throw .tooDeep
  | fuel + 1, depth, isIndentless => do
    if ← accept .entry then
      let stops := if isIndentless then [.entry, .key, .value, .blockEnd] else [.entry, .blockEnd]
      let d ← nodeUnless fuel depth true false stops
      return d :: (← blockItems fuel depth isIndentless)
    else if isIndentless then return []
    else if ← accept .blockEnd then return []
    else refuse "list"

/-- The entries of a table in a block. -/
def blockEntries : (fuel depth : Nat) → Parse (List (String × Document))
  | 0, _ => throw .tooDeep
  | fuel + 1, depth => do
    if ← accept .key then
      let stops := [.key, .value, .blockEnd]
      let key ← keyOf (← nodeUnless fuel depth true true stops)
      let d ← if ← accept .value then nodeUnless fuel depth true true stops
        else pure (nothing none)
      return (key, d) :: (← blockEntries fuel depth)
    else if ← accept .blockEnd then return []
    else refuse "table"

/-- The items of a list in brackets. An item with a key is a table of one entry. -/
def listItems : (fuel depth : Nat) → (isFirst : Bool) → Parse (List Document)
  | 0, _, _ => throw .tooDeep
  | fuel + 1, depth, isFirst => do
    if ← accept .listClose then return []
    if !isFirst then
      if !(← accept .comma) then refuse "list"
      if ← accept .listClose then return []
    let d ← if ← accept .key then do
        if depth == 0 then throw .tooDeep
        let key ← keyOf (← nodeUnless fuel depth false false [.value, .comma, .listClose])
        let d ← if ← accept .value then nodeUnless fuel depth false false [.comma, .listClose]
          else pure (nothing none)
        pure (.table [(key, d)])
      else node fuel depth false false
    return d :: (← listItems fuel depth false)

/-- The entries of a table in brackets. -/
def tableEntries : (fuel depth : Nat) → (isFirst : Bool) → Parse (List (String × Document))
  | 0, _, _ => throw .tooDeep
  | fuel + 1, depth, isFirst => do
    if ← accept .tableClose then return []
    if !isFirst then
      if !(← accept .comma) then refuse "table"
      if ← accept .tableClose then return []
    let entry ← if ← accept .key then do
        let key ← keyOf (← nodeUnless fuel depth false false [.value, .comma, .tableClose])
        let d ← if ← accept .value then nodeUnless fuel depth false false [.comma, .tableClose]
          else pure (nothing none)
        pure (key, d)
      else do
        let key ← keyOf (← node fuel depth false false)
        pure (key, nothing none)
    return entry :: (← tableEntries fuel depth false)

end

/-! ### Documents -/

/-- The directives in front of a document: at most one version, and distinct short names. -/
def directives : Nat → (hasVersion : Bool) → Parse Unit
  | 0, _ => return ()
  | left + 1, hasVersion => do
    match ← peek with
    | some (.versionMark major minor) =>
      if hasVersion || major != 1 || (minor != 1 && minor != 2) then throw .badDirective
      advance
      directives left true
    | some (.tagSpace short full) =>
      if (← get).spaces.any fun e => e.1 == short then throw .badDirective
      advance
      modify fun s => { s with spaces := (short, full) :: s.spaces }
      directives left hasVersion
    | _ => return ()

/-- Does a token belong to the marks around documents? -/
def isAround : Token → Bool
  | .versionMark .. => true
  | .tagSpace .. => true
  | .documentStart => true
  | .documentEnd => true
  | _ => false

/-- The start of a document: the directives and the mark after them, if one of these is there. Was
it? -/
def start (fuel : Nat) : Parse Bool := do
  match ← peek with
  | some t =>
    if isAround t && t != .documentEnd then
      directives fuel false
      if ← accept .documentStart then return true else refuse "document"
    else return false
  | none => return false

/-- What stands in a document. Behind a mark nothing need be written. -/
def inside (fuel : Nat) (isMarked : Bool) : Parse Document := do
  match ← peek with
  | some t =>
    if isMarked && isAround t then return nothing none else node fuel depthLimit true false
  | none => return nothing none

/-- The document. Where nothing is written it is empty. -/
def document : Parse Document := do
  let fuel := 4 * (← get).tokens.length + 4
  let d ← inside fuel (← start fuel)
  modify fun s => { s with tokens := s.tokens.dropWhile (· == .documentEnd) }
  if (← peek).isSome then throw .severalDocuments else return d

end Nodes

/-- The document of a text. -/
def read (s : String) : Except Error Document := do
  let tokens ← Token.ofText s
  (Nodes.document.run { tokens }).map (·.1)

end TrafficGateway.Yaml
