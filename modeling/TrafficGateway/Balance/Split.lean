import TrafficGateway.Balance.Selector

/-!
# Read and write traffic

Some nodes take writes, the masters; the others take reads. Each side has a selector of its own.
When there is no node for reads the masters take them too.

## Main definitions

* `ReadWriteSplit`: the two sides.
* `ReadWriteSplit.build`: the sides of a list of nodes.
* `ReadWriteSplit.selectWrite`, `ReadWriteSplit.selectRead`: a pick for either traffic.
-/

namespace TrafficGateway

/-- A selector for writes and a selector for reads. -/
structure ReadWriteSplit (α : Type) where
  masters : Selector α
  replicas : Selector α

namespace ReadWriteSplit

variable {α : Type}

/-- Splits the nodes by what takes writes and builds a selector for each side. -/
def build (f : SelectorFactory) (kind : SelectorKind) (nodes : List (Node α))
    (isMaster : Node α → Bool) : Except BackendError (ReadWriteSplit α) := do
  let masters ← f.build kind (nodes.filter isMaster)
  let replicas ← f.build kind (nodes.filter fun n => !isMaster n)
  return ⟨masters, replicas⟩

/-- A master. -/
def selectWrite (s : ReadWriteSplit α) (key : Option String) :
    Except BackendError (Node α) × ReadWriteSplit α :=
  let (pick, masters) := s.masters.select key
  (pick, { s with masters })

/-- A node for reads, or a master when there is none. -/
def selectRead (s : ReadWriteSplit α) (key : Option String) :
    Except BackendError (Node α) × ReadWriteSplit α :=
  let (pick, replicas) := s.replicas.select key
  match pick with
  | .error .noNodes => { s with replicas }.selectWrite key
  | _ => (pick, { s with replicas })

end ReadWriteSplit

end TrafficGateway
