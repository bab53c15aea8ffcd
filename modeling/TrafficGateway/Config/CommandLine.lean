/-!
# The command line

The arguments of the program: the file with the configuration, and flags. An option takes its value
from the rest of its own argument or from the next one. Every option may be given once, and
arguments that belong to none are refused. Help and version are shown as soon as they are asked for.

## Main definitions

* `Arguments`: what the arguments say.
* `Arguments.Refusal`: why there are none.
* `Arguments.read`: what some arguments say.
-/

namespace TrafficGateway

/-- What the arguments say: the file with the configuration, and whether to show the schema of
routes. -/
structure Arguments where
  config : Option String := none
  printSchema : Bool := false
  deriving DecidableEq, Repr, Inhabited

namespace Arguments

/-- Why there are no arguments: something else is asked for, or they are wrong. -/
inductive Refusal where
  | help
  | version
  | wrong
  deriving DecidableEq, Repr, Inhabited

/-- An option that waits for its value, or has it but has not been looked at. -/
inductive Pending where
  | nothing
  | waiting
  | given (value : String)
  deriving DecidableEq, Repr

/-- How far the arguments have been read: what they say, the last option, and whether options may
still come. -/
structure Progress where
  arguments : Arguments := {}
  pending : Pending := .nothing
  isOpen : Bool := true
  deriving DecidableEq, Repr

namespace Progress

/-- Looks at the last option: it has a value, which is not empty, and has not been given before. -/
def settle (p : Progress) : Except Refusal Progress :=
  match p.pending with
  | .nothing => .ok p
  | .waiting => .error .wrong
  | .given value =>
    if value.isEmpty || p.arguments.config.isSome then .error .wrong
    else
      .ok { p with arguments := { p.arguments with config := some value }, pending := .nothing }

/-- The option that names the file, with its value or without it. -/
def config (p : Progress) (value : Option String) : Except Refusal Progress := do
  let p ← p.settle
  match value with
  | some value => Progress.settle { p with pending := .given value }
  | none => return { p with pending := .waiting }

/-- The flag that asks for the schema. -/
def printSchema (p : Progress) : Except Refusal Progress := do
  let p ← p.settle
  if p.arguments.printSchema then throw .wrong
  else return { p with arguments := { p.arguments with printSchema := true } }

/-- A flag that asks for something else. -/
def ask (p : Progress) (refusal : Refusal) : Except Refusal Progress := do
  let _ ← p.settle
  throw refusal

/-- An option with a long name. -/
def long (p : Progress) (name : String) (value : Option String) : Except Refusal Progress :=
  match name, value with
  | "config", _ => p.config value
  | "print-schema", none => p.printSchema
  | "help", none => p.ask .help
  | "version", none => p.ask .version
  | _, _ => .error .wrong

/-- The value in the rest of an argument. An equals sign in front does not count. -/
def attached : List Char → Option String
  | [] => none
  | '=' :: rest => some (String.ofList rest)
  | rest => some (String.ofList rest)

/-- Options with short names in one argument. Every one of them ends the argument. -/
def short (p : Progress) : List Char → Except Refusal Progress
  | 'c' :: rest => p.config (attached rest)
  | 'h' :: _ => p.ask .help
  | 'V' :: _ => p.ask .version
  | _ => .error .wrong

/-- An argument that is no option: the value of the last one. -/
def value (p : Progress) (text : String) : Except Refusal Progress :=
  match p.pending, p.isOpen with
  | .waiting, true => .ok { p with pending := .given text }
  | _, _ => .error .wrong

/-- One more argument. -/
def step (p : Progress) (argument : String) : Except Refusal Progress :=
  if !p.isOpen then p.value argument
  else
    match argument.toList with
    | '-' :: '-' :: [] => .ok { p with isOpen := false }
    | '-' :: '-' :: rest =>
      let name := rest.takeWhile (· != '=')
      p.long (String.ofList name) <|
        match rest.drop name.length with
        | _ :: value => some (String.ofList value)
        | [] => none
    | '-' :: c :: rest => p.short (c :: rest)
    | _ => p.value argument

end Progress

/-- What some arguments say. -/
def read (arguments : List String) : Except Refusal Arguments := do
  let p ← arguments.foldlM Progress.step {}
  return (← p.settle).arguments

end Arguments

end TrafficGateway
