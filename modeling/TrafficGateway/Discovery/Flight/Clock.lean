import TrafficGateway.Discovery.Flight

/-!
# Shared executions in time

Named callers that share executions on a clock. An execution takes the time that its leader sets for
it, beginning when the leader begins to lead. After each change all callers go as far as they can, in
the order of their arrival.

## Main definitions

* `Errand`: a named caller with the value and the duration of its execution.
* `FlightClock`: the callers, the machine of their flights and the time.
* `FlightClock.start`, `cancel`, `advance`: the changes, and what they brought.
-/

namespace TrafficGateway

/-- A named caller, its place in the machine, the value and the duration of its execution, and when
the execution will end if it has begun. -/
structure Errand where
  name : String
  caller : Nat
  value : String
  duration : Nat
  due : Option Nat := none
  deriving DecidableEq, Repr

/-- The callers in the order of their arrival, the machine of their flights and the time in
milliseconds. -/
structure FlightClock where
  flights : Flights String String := {}
  errands : List Errand := []
  now : Nat := 0

/-- What a change brought: whose executions began, and who returned with which value. -/
structure FlightNews where
  started : List String := []
  finished : List (String × String) := []
  deriving DecidableEq, Repr, Inhabited

namespace FlightClock

instance : Inhabited FlightClock := ⟨{}⟩

/-- The flights after one caller went as far as it can, the caller and its news. -/
def proceed (now : Nat) (flights : Flights String String) (e : Errand) :
    Flights String String × Errand × FlightNews :=
  let flights := flights.wake e.caller
  match flights.phase? e.caller with
  | some (.leading _) =>
    let due := e.due.getD (now + e.duration)
    let started := if e.due.isNone then [e.name] else []
    if due ≤ now then
      let flights := (flights.finish e.caller e.value).leave e.caller
      (flights, { e with due }, ⟨started, [(e.name, e.value)]⟩)
    else (flights, { e with due }, ⟨started, []⟩)
  | some (.returned value) => (flights, e, ⟨[], [(e.name, value)]⟩)
  | _ => (flights, e, {})

/-- Lets all callers go as far as they can. Those who have returned or were cancelled leave. -/
def proceedAll (now : Nat) :
    List Errand → Flights String String → Flights String String × List Errand × FlightNews
  | [], flights => (flights, [], {})
  | e :: es, flights =>
    let (flights, e, news) := proceed now flights e
    let (flights, es, more) := proceedAll now es flights
    let remaining := match flights.phase? e.caller with
      | some (.returned _) => es
      | some .cancelled => es
      | _ => e :: es
    (flights, remaining, ⟨news.started ++ more.started, news.finished ++ more.finished⟩)

/-- The news of two moments. -/
def andThen (a b : FlightNews) : FlightNews :=
  ⟨a.started ++ b.started, a.finished ++ b.finished⟩

/-- Lets all callers go on until nothing is new, at most as often as there are callers and once
more. -/
def settle : Nat → FlightClock → FlightNews × FlightClock
  | 0, c => ({}, c)
  | rounds + 1, c =>
    let (flights, errands, news) := proceedAll c.now c.errands c.flights
    let c := { c with flights, errands }
    if news = {} then (news, c)
    else
      let (more, c) := settle rounds c
      (andThen news more, c)

/-- Lets all callers go as far as they can; the names of those who returned are sorted. -/
def run (c : FlightClock) : FlightNews × FlightClock :=
  let (news, c) := settle (2 * c.errands.length + 1) c
  ({ news with finished := news.finished.mergeSort fun a b => decide (a.1 ≤ b.1) }, c)

/-- A new caller. -/
def start (c : FlightClock) (name key value : String) (duration : Nat) : FlightNews × FlightClock :=
  run
    { c with
      flights := c.flights.arrive key
      errands := c.errands ++ [⟨name, c.flights.nextCaller, value, duration, none⟩] }

/-- The callers of a name are cancelled, if any are left. -/
def cancel (c : FlightClock) (name : String) : FlightNews × FlightClock :=
  let gone := c.errands.filter fun e => e.name == name
  run
    { c with
      flights := gone.foldl (fun s e => (s.cancel e.caller).giveUp e.caller) c.flights
      errands := c.errands.filter fun e => e.name != name }

/-- Time goes on. -/
def advance (c : FlightClock) (ms : Nat) : FlightNews × FlightClock :=
  run { c with now := c.now + ms }

end FlightClock

end TrafficGateway
