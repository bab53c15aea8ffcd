import TrafficGateway.Dict

/-!
# Shared executions

Callers that ask for the same key at the same time share one execution. The first one leads: it
registers a flight under the key and executes; those who come later wait for the flight that is
registered. A leader may be cancelled, and then one of those who wait leads the next flight.

The machine here has a step for every moment at which another caller can come in between. A leader
that has a value hands it to its flight first, then takes the registration away. A leader that is
cancelled takes the registration away first, then gives its flight up, which wakes those who wait.

## Main definitions

* `Flight`: an execution for a key, and what became of it.
* `CallPhase`: how far a caller has come.
* `Flights`: the registrations, the flights and the callers.
* `Flights.Step`, `Flights.step`: the steps.
-/

namespace TrafficGateway

/-- What became of an execution. -/
inductive FlightOutcome (ν : Type) where
  | pending
  | finished (value : ν)
  | abandoned
  deriving DecidableEq, Repr

/-- An execution for a key. -/
structure Flight (κ ν : Type) where
  key : κ
  outcome : FlightOutcome ν := .pending
  deriving DecidableEq, Repr

/-- How far a caller has come. -/
inductive CallPhase (ν : Type) where
  /-- It waits for a flight. -/
  | waiting (flight : Nat)
  /-- It executes a flight. -/
  | leading (flight : Nat)
  /-- Its flight has the value, the registration is still there. -/
  | finishing (flight : Nat) (value : ν)
  /-- It was cancelled as a leader, its registration is gone, its flight is not given up yet. -/
  | dropping (flight : Nat)
  /-- It has its value. -/
  | returned (value : ν)
  /-- It was cancelled. -/
  | cancelled
  deriving DecidableEq, Repr

/-- A caller that asks for a key. -/
structure Caller (κ ν : Type) where
  key : κ
  phase : CallPhase ν
  deriving DecidableEq, Repr

/-- The flights that are registered for keys, all flights and all callers, oldest first. Flights and
callers are known by their places. -/
structure Flights (κ ν : Type) where
  registered : Dict κ Nat := .empty
  flights : List (Flight κ ν) := []
  callers : List (Caller κ ν) := []

namespace Flights

variable {κ ν : Type}

instance : Inhabited (Flights κ ν) := ⟨{}⟩

/-- The number of keys that are being executed for. -/
def inFlight (s : Flights κ ν) : Nat :=
  s.registered.size

/-- The number that the next caller gets. -/
def nextCaller (s : Flights κ ν) : Nat :=
  s.callers.length

/-- How far a caller has come. -/
def phase? (s : Flights κ ν) (caller : Nat) : Option (CallPhase ν) :=
  (s.callers[caller]?).map (·.phase)

/-- What became of a flight. -/
def outcome? (s : Flights κ ν) (flight : Nat) : Option (FlightOutcome ν) :=
  (s.flights[flight]?).map (·.outcome)

/-- The value that a caller returned with. -/
def value? (s : Flights κ ν) (caller : Nat) : Option ν :=
  match s.phase? caller with
  | some (.returned value) => some value
  | _ => none

/-- Puts a caller into a phase. -/
def setPhase (s : Flights κ ν) (caller : Nat) (phase : CallPhase ν) : Flights κ ν :=
  { s with callers := s.callers.modify caller fun c => { c with phase } }

/-- Says what became of a flight. -/
def setOutcome (s : Flights κ ν) (flight : Nat) (outcome : FlightOutcome ν) : Flights κ ν :=
  { s with flights := s.flights.modify flight fun f => { f with outcome } }

variable [DecidableEq κ]

/-- What a caller does that looks for a flight of a key: it waits for the one that is registered, or
registers one and leads it. -/
def join (s : Flights κ ν) (key : κ) : CallPhase ν × Flights κ ν :=
  match s.registered.get? key with
  | some flight => (.waiting flight, s)
  | none =>
    (.leading s.flights.length,
      { s with
        registered := s.registered.insert key s.flights.length
        flights := s.flights ++ [⟨key, .pending⟩] })

/-- A new caller, whose number is `s.nextCaller`. -/
def arrive (s : Flights κ ν) (key : κ) : Flights κ ν :=
  let (phase, s) := s.join key
  { s with callers := s.callers ++ [⟨key, phase⟩] }

/-- A caller that waits looks at its flight. If the flight was given up it looks for another. -/
def wake (s : Flights κ ν) (caller : Nat) : Flights κ ν :=
  match s.callers[caller]? with
  | some ⟨key, .waiting flight⟩ =>
    match s.outcome? flight with
    | some (.finished value) => s.setPhase caller (.returned value)
    | some .abandoned =>
      let (phase, s) := s.join key
      s.setPhase caller phase
    | _ => s
  | _ => s

/-- A leader hands the value of its execution to its flight. -/
def finish (s : Flights κ ν) (caller : Nat) (value : ν) : Flights κ ν :=
  match s.phase? caller with
  | some (.leading flight) =>
    (s.setOutcome flight (.finished value)).setPhase caller (.finishing flight value)
  | _ => s

/-- A leader that has handed over its value takes its registration away and returns. -/
def leave (s : Flights κ ν) (caller : Nat) : Flights κ ν :=
  match s.callers[caller]? with
  | some ⟨key, .finishing _ value⟩ =>
    { s with registered := s.registered.erase key }.setPhase caller (.returned value)
  | _ => s

/-- A caller is cancelled. One that waits just goes, a leader takes its registration away. -/
def cancel (s : Flights κ ν) (caller : Nat) : Flights κ ν :=
  match s.callers[caller]? with
  | some ⟨_, .waiting _⟩ => s.setPhase caller .cancelled
  | some ⟨key, .leading flight⟩ =>
    { s with registered := s.registered.erase key }.setPhase caller (.dropping flight)
  | _ => s

/-- A leader that was cancelled gives its flight up. -/
def giveUp (s : Flights κ ν) (caller : Nat) : Flights κ ν :=
  match s.phase? caller with
  | some (.dropping flight) => (s.setOutcome flight .abandoned).setPhase caller .cancelled
  | _ => s

/-- The steps of the machine. Those that name a caller which is not ready for them change nothing. -/
inductive Step (κ ν : Type) where
  | arrive (key : κ)
  | wake (caller : Nat)
  | finish (caller : Nat) (value : ν)
  | leave (caller : Nat)
  | cancel (caller : Nat)
  | giveUp (caller : Nat)
  deriving DecidableEq, Repr

/-- The machine after a step. -/
def step (s : Flights κ ν) : Step κ ν → Flights κ ν
  | .arrive key => s.arrive key
  | .wake caller => s.wake caller
  | .finish caller value => s.finish caller value
  | .leave caller => s.leave caller
  | .cancel caller => s.cancel caller
  | .giveUp caller => s.giveUp caller

end Flights

end TrafficGateway
