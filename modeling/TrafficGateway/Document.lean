/-!
# Documents

Configuration and interchange texts are read into one kind of value, whatever format they are
written in. A format that types its scalars gives them as `null`, `bool`, `int`, `real` or `text`;
a format that leaves the type to the reader gives a `scalar`, which becomes what is asked for. A value
that keeps to its format and that still nobody can take, such as a number beyond the largest double, is
`unreadable`: a reader that does not ask for it passes over it.

## Main definitions

* `Scalar`: a scalar whose type is left to the reader.
* `Document`: a document.
* `Document.isReadable`: is there nothing in it that cannot be taken?
* `Document.ofFields`: the table of some named fields, without those that are absent.
* `Document.failure`: the report of a failure.
-/

namespace TrafficGateway

/-- A scalar whose type is left to the reader: its text, whether it was written without quotes, and
the tag in front of it. -/
structure Scalar where
  text : String
  plain : Bool
  tag : Option String
  deriving DecidableEq, Repr, Inhabited

/-- A scalar, a list or a table, or the place of a value that nobody can take. Tables keep their
entries in the order of the text, repeated keys included. -/
inductive Document where
  | null
  | bool (b : Bool)
  | int (n : Int)
  | real (digits : String)
  | text (s : String)
  | scalar (s : Scalar)
  | list (items : List Document)
  | table (entries : List (String × Document))
  | unreadable
  deriving Repr, Inhabited, BEq

namespace Document

/-- The table of the fields that are present. -/
def ofFields (fields : List (String × Option Document)) : Document :=
  .table (fields.filterMap fun f => f.2.map fun d => (f.1, d))

/-- A number of any width as a document. -/
def nat (n : Nat) : Document :=
  .int n

/-- The report of a failure: its kind and, where there is more to say, a message. -/
def failure (kind : String) (message : Option String := none) : Document :=
  ofFields [("error", some (.text kind)), ("message", message.map .text)]

/-- A list of texts. -/
def texts (ss : List String) : Document :=
  .list (ss.map .text)

/-- The document of an optional value, `null` when there is none. -/
def ofOption {α : Type} (f : α → Document) : Option α → Document
  | some a => f a
  | none => .null

/-- The value of the first entry with that key, when the document is a table that has one. -/
def get? (d : Document) (key : String) : Option Document :=
  match d with
  | .table entries => (entries.find? (·.1 == key)).map (·.2)
  | _ => none

/-- Can every part of the document be taken? -/
def isReadable : Document → Bool
  | .unreadable => false
  | .list items => allItems items
  | .table entries => allEntries entries
  | _ => true
where
  /-- Can every item be taken? -/
  allItems : List Document → Bool
    | [] => true
    | d :: ds => d.isReadable && allItems ds
  /-- Can the value of every entry be taken? -/
  allEntries : List (String × Document) → Bool
    | [] => true
    | (_, d) :: ds => d.isReadable && allEntries ds

end Document

end TrafficGateway
