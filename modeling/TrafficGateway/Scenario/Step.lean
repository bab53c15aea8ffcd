import TrafficGateway.Document.Decode
import TrafficGateway.Route.Error
import TrafficGateway.Scenario.Field

/-!
# Steps of scenarios

A step changes a state and gives an answer. A failure is an answer as well, and the next step still
runs.

## Main definitions

* `Scenario.Op`, `answer`: operations whose failures are answers.
* `Scenario.runSteps`: the answers of all steps.
* `Scenario.Pick`, `pickStep`, `tallyStep`: picks of something that has a name.
* `Scenario.zoom`: a step on a part of the state.
-/

namespace TrafficGateway

namespace Scenario

/-! ### Answers -/

/-- The answer with the given fields. -/
def obj (fields : List (String × Document)) : Document := .table fields

/-- A step asks for something that there is not. -/
def badInput (what : String) : Document := .failure "BadInput" (some what)

/-- A value does not fit its type. -/
def deserialize : Document := .failure "Deserialize"

/-- No request can be read. -/
def invalidRequest : Document := .failure "InvalidRequest"

/-- A number is no status. -/
def invalidStatus : Document := .failure "InvalidStatus"

/-- The answer of a step that has nothing to say. -/
def ok : Document := .text "ok"

/-- A text, or `null`. -/
def optText : Option String → Document := .ofOption .text

/-- A number of any width, as a text. -/
def bigNat (n : Nat) : Document := .text (toString n)

/-- An operation whose failure is an answer as well. -/
abbrev Op := Except Document Document

/-- The answer of an operation. -/
def answer : Op → Document
  | .ok d => d
  | .error d => d

instance : MonadLift (Except BackendError) (Except Document) := ⟨Except.mapError (·.toDocument)⟩

instance : MonadLift (Except RouteError) (Except Document) := ⟨Except.mapError (·.toDocument)⟩

instance : MonadLift (Except DecodeError) (Except Document) := ⟨Except.mapError fun _ => deserialize⟩

/-- A value, or the answer that stands for its absence. -/
def orElse {α : Type} (e : Document) : Option α → Except Document α
  | some a => .ok a
  | none => .error e

/-- The answer of a check. -/
def isOk {ε : Type} (toDoc : ε → Document) : Except ε Unit → Document
  | .ok _ => ok
  | .error e => toDoc e

/-! ### Runs -/

variable {σ α : Type}

/-- The answers of the steps in a list, one after the other. -/
def runSteps (run : Document → StateM σ Document) (d : Document) (name : String) (s : σ) :
    Document :=
  .list ((items d name).mapM run |>.run s).1

/-- The results of `n` runs. -/
def times (n : Nat) (run : StateM σ α) : StateM σ (List α) :=
  (List.replicate n ()).mapM fun _ => run

/-- Lets a step work on a part of the state. -/
def zoom {τ : Type} (get : σ → τ) (set : σ → τ → σ) (run : StateM τ α) : StateM σ α := fun s =>
  let (a, t) := run (get s)
  (a, set s t)

/-! ### Picks -/

/-- A pick of which the name is shown. -/
abbrev Pick (σ : Type) := StateM σ (Except BackendError String)

/-- A pick that shows the name of what was picked. -/
def via (name : α → String) (pick : σ → Except BackendError α × σ) : Pick σ := fun s =>
  let (r, s) := pick s
  (r.map name, s)

/-- The answer of a pick. -/
def pickAnswer : Except BackendError String → Document
  | .ok id => .text id
  | .error e => e.toDocument

/-- The list of `n` picks. -/
def pickList (step : Document) (pick : Pick σ) (n : Nat) : StateM σ Document := do
  return .list ((← times (nat step "n" n) pick).map pickAnswer)

/-- One pick when the step gives no `n`, the list of `n` picks when it does. -/
def pickStep (step : Document) (pick : Pick σ) : StateM σ Document := do
  if (natOf? (field step "n")).isSome then pickList step pick 1 else return pickAnswer (← pick)

/-- How often each name occurs, in the order of the names. -/
def countNames (names : List String) : Document :=
  .list ((names.eraseDups.mergeSort fun a b => decide (a ≤ b)).map fun name =>
    .list [.text name, .nat (names.count name)])

/-- Counts the names of `n` picks; the first failure is the answer instead. -/
def tallyStep (step : Document) (pick : Pick σ) : StateM σ Document := do
  match (← times (nat step "n" 1) pick).mapM id with
  | .error e => return e.toDocument
  | .ok names => return countNames names

end Scenario

end TrafficGateway
