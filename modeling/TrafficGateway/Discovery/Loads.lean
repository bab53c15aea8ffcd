import TrafficGateway.Discovery.Cache
import TrafficGateway.Discovery.Flight

/-!
# Loads at the same time

Many loads of tables at the same time. A load first looks for a fresh table. If there is none it
joins a flight for its service, and whoever leads the flight looks again before it asks the
registry. Between any two of its steps other loads may take steps, instances may be pushed and
entries may be taken away.

## Main definitions

* `LoadStage`, `RefreshStage`: how far a load and the refresh that it leads have come.
* `Loads`: a cache, the flights and the loads.
* `Loads.Step`, `Loads.step`: the steps.
* `Loads.together`: what becomes of loads that all begin before the registry answers.
-/

namespace TrafficGateway

/-- How far the refresh has come that a load leads. -/
inductive RefreshStage where
  /-- Nothing has been done for the flight by this load. -/
  | idle
  /-- The registry was asked. -/
  | asked
  /-- The registry has answered. -/
  | answered (answer : FetchAnswer)
  /-- The cache knows the outcome. -/
  | settled (table : Except BackendError Nat)

/-- How far a load has come. -/
inductive LoadStage where
  /-- It has not looked for a fresh table. -/
  | arrived
  /-- It found no fresh table. -/
  | missed
  /-- It is a caller of the flights. -/
  | joined (caller : Nat) (work : RefreshStage)
  /-- It has a table or knows why there is none. -/
  | returned (table : Except BackendError Nat)
  /-- It was cancelled before it joined a flight. -/
  | cancelled

/-- A load of the table of a service. -/
structure Load where
  service : String
  stage : LoadStage := .arrived

/-- A cache, the flights of its refreshes and the loads, which are known by their places; the time,
and the outcomes of the refreshes so far. -/
structure Loads where
  now : Nat := 0
  cache : TableCache := {}
  flights : Flights String (Except BackendError Nat) := {}
  loads : List Load := []
  outcomes : List (String × RefreshOutcome) := []

namespace Loads

instance : Inhabited Loads := ⟨{}⟩

/-- Puts a load into a stage. -/
def setStage (s : Loads) (load : Nat) (stage : LoadStage) : Loads :=
  { s with loads := s.loads.modify load fun l => { l with stage } }

/-- Does a caller lead its flight? -/
def leads (s : Loads) (caller : Nat) : Bool :=
  match s.flights.phase? caller with
  | some (.leading _) => true
  | _ => false

/-- A load begins. -/
def arrive (s : Loads) (service : String) : Loads :=
  { s with loads := s.loads ++ [{ service }] }

/-- A load looks for a fresh table. -/
def look (s : Loads) (load : Nat) : Loads :=
  match s.loads[load]? with
  | some ⟨service, .arrived⟩ =>
    match s.cache.fresh? s.now service with
    | some table => s.setStage load (.returned (.ok table))
    | none => s.setStage load .missed
  | _ => s

/-- A load without a fresh table joins a flight. -/
def join (s : Loads) (load : Nat) : Loads :=
  match s.loads[load]? with
  | some ⟨service, .missed⟩ =>
    { s with flights := s.flights.arrive service }.setStage load
      (.joined s.flights.nextCaller .idle)
  | _ => s

/-- A load that leads a flight looks again, and asks the registry if there still is no fresh table. -/
def ask (s : Loads) (load : Nat) : Loads :=
  match s.loads[load]? with
  | some ⟨service, .joined caller .idle⟩ =>
    if s.leads caller then
      match s.cache.fresh? s.now service with
      | some table => s.setStage load (.joined caller (.settled (.ok table)))
      | none => s.setStage load (.joined caller .asked)
    else s
  | _ => s

/-- The registry answers a load. -/
def answer (s : Loads) (load : Nat) (answer : FetchAnswer) : Loads :=
  match s.loads[load]? with
  | some ⟨_, .joined caller .asked⟩ =>
    if s.leads caller then s.setStage load (.joined caller (.answered answer)) else s
  | _ => s

/-- A load hands the answer of the registry to the cache. -/
def settle (s : Loads) (load : Nat) : Loads :=
  match s.loads[load]? with
  | some ⟨service, .joined caller (.answered answer)⟩ =>
    if s.leads caller then
      let (table, outcome, cache) := s.cache.settle s.now service answer
      { s with cache, outcomes := s.outcomes ++ [(service, outcome)] }.setStage load
        (.joined caller (.settled table))
    else s
  | _ => s

/-- A load hands its table to those who wait for it. -/
def finish (s : Loads) (load : Nat) : Loads :=
  match s.loads[load]? with
  | some ⟨_, .joined caller (.settled table)⟩ =>
    { s with flights := s.flights.finish caller table }
  | _ => s

/-- Lets the caller of a load take a step among the flights, with which it may return. -/
def fly (s : Loads) (load : Nat)
    (step : Flights String (Except BackendError Nat) → Nat →
      Flights String (Except BackendError Nat)) : Loads :=
  match s.loads[load]? with
  | some ⟨_, .joined caller _⟩ =>
    let s := { s with flights := step s.flights caller }
    match s.flights.value? caller with
    | some table => s.setStage load (.returned table)
    | none => s
  | _ => s

/-- A load is cancelled. One that has handed its answer to the cache no longer can be. -/
def cancel (s : Loads) (load : Nat) : Loads :=
  match s.loads[load]? with
  | some ⟨_, .arrived⟩ => s.setStage load .cancelled
  | some ⟨_, .missed⟩ => s.setStage load .cancelled
  | some ⟨_, .joined _ (.settled _)⟩ => s
  | _ => s.fly load Flights.cancel

/-- Instances of a service are pushed. -/
def push (s : Loads) (service : String) (instances : List Instance) : Loads :=
  match s.cache.update s.now service instances with
  | .ok cache => { s with cache }
  | .error _ => s

/-- The steps. Those that name a load which is not ready for them change nothing. -/
inductive Step where
  | arrive (service : String)
  | look (load : Nat)
  | join (load : Nat)
  | ask (load : Nat)
  | answer (load : Nat) (answer : FetchAnswer)
  | settle (load : Nat)
  | finish (load : Nat)
  | leave (load : Nat)
  | wake (load : Nat)
  | cancel (load : Nat)
  | giveUp (load : Nat)
  | push (service : String) (instances : List Instance)
  | invalidate (service : String)
  | wait (ms : Nat)

/-- The state after a step. -/
def step (s : Loads) : Step → Loads
  | .arrive service => s.arrive service
  | .look load => s.look load
  | .join load => s.join load
  | .ask load => s.ask load
  | .answer load answer => s.answer load answer
  | .settle load => s.settle load
  | .finish load => s.finish load
  | .leave load => s.fly load Flights.leave
  | .wake load => s.fly load Flights.wake
  | .cancel load => s.cancel load
  | .giveUp load => s.fly load Flights.giveUp
  | .push service instances => s.push service instances
  | .invalidate service => { s with cache := s.cache.invalidate service }
  | .wait ms => { s with now := s.now + ms }

/-- The state after some steps. -/
def run (s : Loads) (steps : List Step) : Loads :=
  steps.foldl step s

/-- Is there a load for which the registry was asked and has not answered? -/
def isAsking (s : Loads) : Bool :=
  s.loads.any fun l => match l.stage with
    | .joined _ .asked => true
    | _ => false

/-- What the loads that returned have returned with, in order. -/
def results (s : Loads) : List (Except BackendError Nat) :=
  s.loads.filterMap fun l => match l.stage with
    | .returned table => some table
    | _ => none

/-- The first part of some loads at the same time: all begin, look, and join a flight if they have
to, and the one that leads asks the registry. -/
def opening (count : Nat) (service : String) : List Step :=
  List.replicate count (.arrive service) ++ (List.range count).map .look ++
    (List.range count).map .join ++ (List.range count).map .ask

/-- The second part: the one that leads gets the answer and returns, then the others do. -/
def closing (count : Nat) (given : FetchAnswer) : List Step :=
  (List.range count).map (.answer · given) ++ (List.range count).map .settle ++
    (List.range count).map .finish ++ (List.range count).map .leave ++
    (List.range count).map .wake

/-- Loads of one service that all begin before the registry answers: the state after them and the
registry, which was asked if one of them had to. -/
def together (c : TableCache) (now count : Nat) (service : String) (registry : Registry) :
    Loads × Registry :=
  let s : Loads := { now, cache := c }
  let opened := s.run (opening count service)
  if opened.isAsking then
    let (given, registry) := registry.fetch service
    (opened.run (closing count given), registry)
  else (opened, registry)

end Loads

end TrafficGateway
