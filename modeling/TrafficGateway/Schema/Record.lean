import TrafficGateway.Document

/-!
# Schemas of records

What a record may hold, said in the JSON Schema language for editors and checkers. A field without a
default is required, unless it is optional.

## Main definitions

* `FieldType`, `FieldSchema`, `RecordSchema`: fields and records.
* `RecordSchema.toDocument`: a record in the schema language.
* `RecordSchema.root`: a whole schema, with the records that it refers to.
-/

namespace TrafficGateway

/-- What a field may hold: a text, an integer of a format that may be negative or not, a list of
records, or a record or nothing. Records are given by their names. -/
inductive FieldType where
  | text
  | integer (format : String) (isSigned : Bool)
  | listOf (name : String)
  | optional (name : String)
  deriving Repr

/-- A field. -/
structure FieldSchema where
  name : String
  type : FieldType
  default : Option Document := none
  description : Option String := none
  deriving Repr

/-- A record. -/
structure RecordSchema where
  name : String
  description : String
  fields : List FieldSchema
  deriving Repr

/-- A reference to a record. -/
def FieldType.reference (name : String) : Document :=
  .table [("$ref", .text ("#/definitions/" ++ name))]

/-- What is said of the values of a type. -/
def FieldType.entries : FieldType → List (String × Document)
  | text => [("type", .text "string")]
  | integer format isSigned =>
    [("type", .text "integer"), ("format", .text format)] ++
      if isSigned then [] else [("minimum", .real "0.0")]
  | listOf name => [("type", .text "array"), ("items", reference name)]
  | optional name =>
    [("anyOf", .list [reference name, .table [("type", .text "null")]])]

namespace FieldSchema

/-- May the field be left out? -/
def mayBeMissing (f : FieldSchema) : Bool :=
  match f.type with
  | .optional _ => true
  | _ => f.default.isSome

/-- The field in the schema language. -/
def toDocument (f : FieldSchema) : Document :=
  .table (
    (f.description.map fun s => ("description", Document.text s)).toList ++
    (f.default.map fun d => ("default", d)).toList ++
    f.type.entries)

end FieldSchema

namespace RecordSchema

/-- What is said of a record. -/
def entries (r : RecordSchema) : List (String × Document) :=
  let required := (r.fields.filter fun f => !f.mayBeMissing).map (·.name)
  let sorted := r.fields.mergeSort fun a b => decide (a.name ≤ b.name)
  [("description", .text r.description), ("type", .text "object")] ++
    (if required.isEmpty then [] else [("required", .texts required)]) ++
    [("properties", .table (sorted.map fun f => (f.name, f.toDocument)))]

/-- The record in the schema language. -/
def toDocument (r : RecordSchema) : Document :=
  .table r.entries

/-- The version of the schema language. -/
def language : String := "http://json-schema.org/draft-07/schema#"

/-- A whole schema: a record, and those that it refers to. -/
def root (r : RecordSchema) (definitions : List RecordSchema) : Document :=
  let sorted := definitions.mergeSort fun a b => decide (a.name ≤ b.name)
  .table
    ([("$schema", .text language), ("title", .text r.name)] ++ r.entries ++
      [("definitions", .table (sorted.map fun d => (d.name, d.toDocument)))])

end RecordSchema

end TrafficGateway
