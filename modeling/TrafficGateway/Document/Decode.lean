import TrafficGateway.Document
import TrafficGateway.Text.Numeral

/-!
# Decoding documents

What a reader may ask of a document: a text, a number of a given range, a list, an optional value,
one of several names, or a record of named fields. A record may be written as a table or as the
list of its fields in the order of their declaration.

## Main definitions

* `DecodeError`: why a document does not fit.
* `Document.asText`, `asNat`, `asInt`, `asList`, `asEntries`, `asOptional`, `asName`: the requests.
* `Document.asRecord`: the fields of a record.
* `Record.required`, `Record.withDefault`: the value of one field.
-/

namespace TrafficGateway

/-- Why a document does not fit what was asked for. -/
inductive DecodeError where
  | mismatch (expected : String)
  | outOfRange (expected : String)
  | missing (field : String)
  | repeated (field : String)
  | excess (expected : Nat)
  | unknownName (name : String)
  deriving DecidableEq, Repr, Inhabited

/-- One sentence for the person who wrote the document. -/
def DecodeError.message : DecodeError → String
  | .mismatch expected => "expected " ++ expected
  | .outOfRange expected => "value out of range for " ++ expected
  | .missing field => "missing field " ++ field
  | .repeated field => "duplicate field " ++ field
  | .excess expected => "expected at most " ++ toString expected ++ " fields"
  | .unknownName name => "unknown variant " ++ name

namespace Scalar

/-- The spellings of the absent value. -/
def isNullText (text : String) : Bool :=
  text == "null" || text == "Null" || text == "NULL" || text == "~"

/-- The tag of the absent value. -/
def nullTag : String := "tag:yaml.org,2002:null"

/-- A scalar that is absent altogether: nothing is written where a value could stand. -/
def isEmpty (s : Scalar) : Bool :=
  s.plain && s.text.isEmpty

/-- More than one digit of which the first is zero, with or without a sign: not a number. -/
def hasLeadingZero (cs : List Char) : Bool :=
  let digits := match cs with
    | '-' :: rest => rest
    | '+' :: rest => rest
    | _ => cs
  match digits with
  | '0' :: rest => !rest.isEmpty && rest.all fun c => (Numeral.digitValue c).isSome
  | _ => false

/-- The magnitude that digits with an optional base mark (`0x`, `0o`, `0b`) denote. -/
def magnitude (cs : List Char) : Option Nat :=
  match cs with
  | '0' :: 'x' :: rest => Numeral.readBase 16 rest
  | '0' :: 'o' :: rest => Numeral.readBase 8 rest
  | '0' :: 'b' :: rest => Numeral.readBase 2 rest
  | _ => Numeral.read cs

/-- The integer that a plain scalar denotes. -/
def int? (s : Scalar) : Option Int :=
  if !s.plain || hasLeadingZero s.text.toList then none
  else
    match s.text.toList with
    | '+' :: rest => (magnitude rest).map Int.ofNat
    | '-' :: rest => (magnitude rest).map fun n => -Int.ofNat n
    | cs => (magnitude cs).map Int.ofNat

/-- The unsigned number that a plain scalar denotes, which has no minus sign. -/
def nat? (s : Scalar) : Option Nat :=
  if s.text.toList.head? = some '-' then none else s.int?.map Int.toNat

end Scalar

/-- The fields of a record that are present, each once. -/
abbrev Record := List (String × Document)

namespace Document

/-- The text of a document. -/
def asText : Document → Except DecodeError String
  | .text s => .ok s
  | .scalar s => .ok s.text
  | _ => .error (.mismatch "a string")

/-- The integer of a document. -/
def asAnyInt : Document → Except DecodeError Int
  | .int n => .ok n
  | .scalar s =>
    match s.int? with
    | some n => .ok n
    | none => .error (.mismatch "an integer")
  | _ => .error (.mismatch "an integer")

/-- The unsigned number of a document. -/
def asAnyNat : Document → Except DecodeError Nat
  | .int n => if 0 ≤ n then .ok n.toNat else .error (.outOfRange "an unsigned integer")
  | .scalar s =>
    match s.nat? with
    | some n => .ok n
    | none => .error (.mismatch "an unsigned integer")
  | _ => .error (.mismatch "an integer")

/-- The number of a document, which must be below `bound`. -/
def asNat (bound : Nat) (d : Document) : Except DecodeError Nat := do
  let n ← d.asAnyNat
  if n < bound then .ok n else .error (.outOfRange "an unsigned integer")

/-- The integer of a document, which must be at least `-bound` and below `bound`. -/
def asInt (bound : Nat) (d : Document) : Except DecodeError Int := do
  let n ← d.asAnyInt
  if -(bound : Int) ≤ n ∧ n < bound then .ok n else .error (.outOfRange "a signed integer")

/-- The items of a list; where nothing is written the list is empty. -/
def asList : Document → Except DecodeError (List Document)
  | .list items => .ok items
  | .scalar s => if s.isEmpty then .ok [] else .error (.mismatch "a sequence")
  | _ => .error (.mismatch "a sequence")

/-- The entries of a table; where nothing is written the table is empty. -/
def asEntries : Document → Except DecodeError (List (String × Document))
  | .table entries => .ok entries
  | .scalar s => if s.isEmpty then .ok [] else .error (.mismatch "a map")
  | _ => .error (.mismatch "a map")

/-- Is the document the absent value? A scalar with a tag of its own is present. -/
def isNull : Document → Bool
  | .null => true
  | .scalar s =>
    s.plain && (s.tag == none || s.tag == some Scalar.nullTag)
      && (s.text.isEmpty || Scalar.isNullText s.text)
  | _ => false

/-- An optional value: absent, or whatever `decode` makes of the document. -/
def asOptional {α : Type} (decode : Document → Except DecodeError α) (d : Document) :
    Except DecodeError (Option α) :=
  if d.isNull then .ok none else (decode d).map some

/-- One of several names: written as a text, as the only key of a table whose value is absent, or
as a tag. -/
def asName : Document → Except DecodeError String
  | .text s => .ok s
  | .table [(name, .null)] => .ok name
  | .scalar s =>
    match s.tag.map String.toList with
    | some ('!' :: name) =>
      if s.plain && (s.text.isEmpty || Scalar.isNullText s.text) then .ok (String.ofList name)
      else .error (.mismatch "a name")
    | _ => .ok s.text
  | _ => .error (.mismatch "a name")

/-- Decodes every item of a list, up to the first that does not fit. -/
def decodeAll {α : Type} (decode : Document → Except DecodeError α) :
    List Document → Except DecodeError (List α)
  | [] => .ok []
  | d :: ds => do
    let a ← decode d
    let rest ← decodeAll decode ds
    return a :: rest

/-- The entries whose key is declared, each at most once; entries with other keys are skipped. -/
def declaredEntries (names : List String) :
    List (String × Document) → Except DecodeError Record
  | [] => .ok []
  | (name, d) :: rest => do
    let fields ← declaredEntries names rest
    if names.contains name then
      if fields.any (·.1 == name) then .error (.repeated name) else .ok ((name, d) :: fields)
    else .ok fields

/-- The fields of a record with the declared names: the entries of a table, or the items of a list
in the order of declaration. -/
def asRecord (names : List String) : Document → Except DecodeError Record
  | .table entries => declaredEntries names entries
  | .list items =>
    if items.length ≤ names.length then .ok (names.zip items) else .error (.excess names.length)
  | .scalar s => if s.isEmpty then .ok [] else .error (.mismatch "a record")
  | _ => .error (.mismatch "a record")

end Document

namespace Record

/-- The value of a field. -/
def find? (r : Record) (name : String) : Option Document :=
  (List.find? (fun f => f.1 == name) r).map (·.2)

/-- The value of a field that must be present. -/
def required {α : Type} (r : Record) (name : String)
    (decode : Document → Except DecodeError α) : Except DecodeError α :=
  match r.find? name with
  | some d => decode d
  | none => .error (.missing name)

/-- The value of a field, or its default when the field is missing. -/
def withDefault {α : Type} (r : Record) (name : String) (default : α)
    (decode : Document → Except DecodeError α) : Except DecodeError α :=
  match r.find? name with
  | some d => decode d
  | none => .ok default

end Record

end TrafficGateway
