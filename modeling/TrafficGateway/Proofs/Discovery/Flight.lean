import Mathlib.Data.List.Induction
import TrafficGateway.Discovery.Flight

/-!
# How flights go on

Every step that changes something moves one caller, from its phase to another (`Flights.Move`,
`Flights.step_cases`). While it moves, the registrations and the flights change in at most one flight,
the one that this caller has in hand (`Flights.Handles`).

Callers, flights and registrations stay coherent (`Flights.Coherent`): a flight is led by one caller
at most, and by one for sure as long as nothing has become of it; a registration is there exactly as
long as a caller holds it. That one argument for all moves is `Flights.Coherent.put`, every run is
coherent by `Flights.coherent_run`.

## Main definitions

* `CallPhase.flight?`, `led?`, `held?`: the flight of a phase, if it waits for one or leads one, if it
  leads one, if it keeps it registered.
* `Flights.IsAt`: how far a caller has come.
* `Flights.Move`: the moves of a caller.
* `Flights.Coherent`: the invariant.
* `Flights.after`, `Flights.run`: the machine after some steps.
-/

namespace TrafficGateway

namespace CallPhase

variable {ν : Type} {p : CallPhase ν} {f : Nat}

/-- The flight that a caller waits for or leads. -/
@[grind] def flight? : CallPhase ν → Option Nat
  | .waiting f => some f
  | .leading f => some f
  | .finishing f _ => some f
  | .dropping f => some f
  | .returned _ => none
  | .cancelled => none

/-- The flight that a caller has begun and not let go of. -/
@[grind] def led? : CallPhase ν → Option Nat
  | .leading f => some f
  | .finishing f _ => some f
  | .dropping f => some f
  | _ => none

/-- The flight that a caller keeps registered. -/
@[grind] def held? : CallPhase ν → Option Nat
  | .leading f => some f
  | .finishing f _ => some f
  | _ => none

/-- What has become so far of the flight that a caller leads. -/
@[grind] def outcome : CallPhase ν → FlightOutcome ν
  | .finishing _ v => .finished v
  | _ => .pending

theorem led?_of_held? (h : p.held? = some f) : p.led? = some f := by
  cases p <;> simp_all [held?, led?]

theorem flight?_of_led? (h : p.led? = some f) : p.flight? = some f := by
  cases p <;> simp_all [led?, flight?]

end CallPhase

namespace Flights

/-! ## Lookups -/

section Lookups

variable {κ ν : Type}

/-- A caller asks for a key and has come to a phase. -/
def IsAt (s : Flights κ ν) (c : Nat) (k : κ) (p : CallPhase ν) : Prop :=
  s.callers[c]? = some ⟨k, p⟩

/-- The key of a flight. -/
def keyOf? (s : Flights κ ν) (f : Nat) : Option κ :=
  (s.flights[f]?).map (·.key)

/-- Puts a caller in its place, or in the next one. -/
def put (s : Flights κ ν) (c : Nat) (x : Caller κ ν) : Flights κ ν :=
  { s with callers := if c < s.nextCaller then s.callers.set c x else s.callers ++ [x] }

variable {s t : Flights κ ν} {c d f g : Nat} {k l : κ} {x : Caller κ ν} {p q : CallPhase ν}
  {o : FlightOutcome ν}

theorem IsAt.lt (h : s.IsAt c k p) : c < s.nextCaller :=
  (List.getElem?_eq_some_iff.1 h).1

/-- The next caller is still to come. -/
theorem not_isAt_nextCaller : ¬s.IsAt s.nextCaller k p := fun h =>
  absurd h.lt (Nat.lt_irrefl _)

theorem IsAt.unique (h : s.IsAt c k p) (h' : s.IsAt c l q) : k = l ∧ p = q := by
  cases h.symm.trans h'
  exact ⟨rfl, rfl⟩

theorem lt_of_keyOf? (h : s.keyOf? f = some k) : f < s.flights.length := by
  obtain ⟨_, hf, -⟩ := Option.map_eq_some_iff.1 h
  exact (List.getElem?_eq_some_iff.1 hf).1

/-- Where callers are after one of them was put somewhere. -/
theorem isAt_put (hc : c ≤ s.nextCaller) (hcallers : t.callers = s.callers) :
    (t.put c ⟨k, p⟩).IsAt d l q ↔ c = d ∧ k = l ∧ p = q ∨ c ≠ d ∧ s.IsAt d l q := by
  unfold IsAt put nextCaller at *
  grind

theorem isAt_put_self (hc : s.IsAt c l p) (hcallers : t.callers = s.callers) :
    (t.put c ⟨k, q⟩).IsAt c k q :=
  (isAt_put (Nat.le_of_lt hc.lt) hcallers).2 (.inl ⟨rfl, rfl, rfl⟩)

theorem exists_isAt_iff : (∃ c, s.IsAt c k p) ↔ ⟨k, p⟩ ∈ s.callers :=
  List.mem_iff_getElem?.symm

theorem isAt_of_phase? (h : s.phase? c = some p) : ∃ k, s.IsAt c k p := by
  obtain ⟨⟨k, _⟩, hc, rfl⟩ := Option.map_eq_some_iff.1 h
  exact ⟨k, hc⟩

theorem setPhase_eq_put (h : s.IsAt c k p) : s.setPhase c q = s.put c ⟨k, q⟩ := by
  rw [setPhase, put, if_pos h.lt]
  congr 1
  refine List.ext_getElem? fun d => ?_
  rw [List.getElem?_modify, List.getElem?_set]
  by_cases hd : c = d
  · subst hd
    have hlt : c < s.callers.length := h.lt
    have hget : s.callers[c]? = some ⟨k, p⟩ := h
    rw [hget]
    simp [hlt]
  · simp [hd]

@[simp, grind =] theorem registered_put : (s.put c x).registered = s.registered := rfl
@[simp, grind =] theorem flights_put : (s.put c x).flights = s.flights := rfl
@[simp, grind =] theorem outcome?_put : (s.put c x).outcome? f = s.outcome? f := rfl
@[simp, grind =] theorem keyOf?_put : (s.put c x).keyOf? f = s.keyOf? f := rfl

@[simp, grind =] theorem registered_setOutcome :
    (s.setOutcome f o).registered = s.registered := rfl
@[simp, grind =] theorem length_setOutcome :
    (s.setOutcome f o).flights.length = s.flights.length := List.length_modify ..
@[simp, grind =] theorem outcome?_setOutcome : (s.setOutcome f o).outcome? g =
    if f = g ∧ g < s.flights.length then some o else s.outcome? g := by
  unfold setOutcome outcome?
  grind
@[simp, grind =] theorem keyOf?_setOutcome : (s.setOutcome f o).keyOf? g = s.keyOf? g := by
  unfold setOutcome keyOf?
  grind

variable [DecidableEq κ]

/-- Begins a flight for a key and registers it. -/
def begin (s : Flights κ ν) (k : κ) : Flights κ ν :=
  { s with
    registered := s.registered.insert k s.flights.length
    flights := s.flights ++ [⟨k, .pending⟩] }

/-- Takes the registration of a key away. -/
def release (s : Flights κ ν) (k : κ) : Flights κ ν :=
  { s with registered := s.registered.erase k }

@[simp, grind =] theorem registered_begin : (s.begin k).registered.get? l =
    if k = l then some s.flights.length else s.registered.get? l :=
  s.registered.get?_insert k l s.flights.length
@[simp, grind =] theorem length_begin :
    (s.begin k).flights.length = s.flights.length + 1 := List.length_append
@[simp, grind =] theorem outcome?_begin :
    (s.begin k).outcome? f = if f = s.flights.length then some .pending else s.outcome? f := by
  unfold outcome? begin
  grind
@[simp, grind =] theorem keyOf?_begin :
    (s.begin k).keyOf? f = if f = s.flights.length then some k else s.keyOf? f := by
  unfold keyOf? begin
  grind

@[simp, grind =] theorem registered_release : (s.release k).registered.get? l =
    if k = l then none else s.registered.get? l :=
  s.registered.get?_erase k l
@[simp, grind =] theorem flights_release : (s.release k).flights = s.flights := rfl
@[simp, grind =] theorem outcome?_release : (s.release k).outcome? f = s.outcome? f := rfl
@[simp, grind =] theorem keyOf?_release : (s.release k).keyOf? f = s.keyOf? f := rfl

end Lookups

/-! ## Moves -/

section Moves

variable {κ ν : Type} {s t : Flights κ ν} {c d : Nat} {k l : κ} {p q : CallPhase ν} {st : Step κ ν}

/-- By a step, a caller looks for a flight of its key: when it arrives, or when it wakes because its
flight was given up. -/
def Joins (s : Flights κ ν) (c : Nat) (k : κ) : Step κ ν → Prop
  | .arrive k' => k' = k ∧ c = s.nextCaller
  | .wake c' => c' = c ∧ ∃ f, s.IsAt c k (.waiting f) ∧ s.outcome? f = some .abandoned
  | _ => False

/-- Who looks for a flight has waited for one or is new. -/
theorem Joins.cases (h : s.Joins c k st) :
    (st = .wake c ∧ ∃ f, s.IsAt c k (.waiting f) ∧ s.outcome? f = some .abandoned) ∨
      st = .arrive k ∧ c = s.nextCaller := by
  cases st with
  | arrive _ => exact .inr ⟨congrArg _ h.1, h.2⟩
  | wake _ => exact .inl ⟨congrArg _ h.1, h.2⟩
  | _ => exact h.elim

/-- A caller that is there and looks for a flight has waited. -/
theorem Joins.of_isAt (h : s.Joins c k st) (hc : s.IsAt c l p) :
    st = .wake c ∧ ∃ f, s.IsAt c k (.waiting f) ∧ s.outcome? f = some .abandoned := by
  obtain hwake | ⟨-, rfl⟩ := h.cases
  · exact hwake
  · exact absurd hc.lt (Nat.lt_irrefl _)

theorem Joins.le (h : s.Joins c k st) : c ≤ s.nextCaller := by
  obtain ⟨-, f, hc, -⟩ | ⟨-, rfl⟩ := h.cases
  · exact Nat.le_of_lt hc.lt
  · exact Nat.le_refl _

/-- A caller that looks for a flight leads none. -/
theorem Joins.led? (h : s.Joins c k st) (hc : s.IsAt c l p) : p.led? = none := by
  obtain ⟨-, f, hc', -⟩ := h.of_isAt hc
  obtain ⟨-, rfl⟩ := hc.unique hc'
  rfl

variable [DecidableEq κ]

/-- `s.Move st c k q t`: by the step `st`, the caller `c`, which asks for `k`, goes to the phase `q`,
and apart from it the machine becomes `t`. -/
inductive Move (s : Flights κ ν) : Step κ ν → Nat → κ → CallPhase ν → Flights κ ν → Prop
  /-- It waits for the flight that is registered. -/
  | wait {st : Step κ ν} {c : Nat} {k : κ} {f : Nat} :
      s.Joins c k st → s.registered.get? k = some f → s.Move st c k (.waiting f) s
  /-- It begins a flight, as none is registered. -/
  | lead {st : Step κ ν} {c : Nat} {k : κ} : s.Joins c k st → s.registered.get? k = none →
      s.Move st c k (.leading s.flights.length) (s.begin k)
  /-- It has waited and is given the value. -/
  | answer {c : Nat} {k : κ} {f : Nat} {v : ν} :
      s.IsAt c k (.waiting f) → s.outcome? f = some (.finished v) →
        s.Move (.wake c) c k (.returned v) s
  /-- It hands its value to its flight. -/
  | finish {c : Nat} {k : κ} {f : Nat} (v : ν) : s.IsAt c k (.leading f) →
      s.Move (.finish c v) c k (.finishing f v) (s.setOutcome f (.finished v))
  /-- It takes its registration away and returns. -/
  | leave {c : Nat} {k : κ} {f : Nat} {v : ν} : s.IsAt c k (.finishing f v) →
      s.Move (.leave c) c k (.returned v) (s.release k)
  /-- It is cancelled while it waits. -/
  | go {c : Nat} {k : κ} {f : Nat} : s.IsAt c k (.waiting f) →
      s.Move (.cancel c) c k .cancelled s
  /-- It is cancelled while it leads, and takes its registration away. -/
  | drop {c : Nat} {k : κ} {f : Nat} : s.IsAt c k (.leading f) →
      s.Move (.cancel c) c k (.dropping f) (s.release k)
  /-- It gives its flight up. -/
  | giveUp {c : Nat} {k : κ} {f : Nat} : s.IsAt c k (.dropping f) →
      s.Move (.giveUp c) c k .cancelled (s.setOutcome f .abandoned)

theorem Move.le (h : s.Move st c k q t) : c ≤ s.nextCaller := by
  cases h with
  | wait h | lead h => exact h.le
  | answer h | finish _ h | leave h | go h | drop h | giveUp h => exact Nat.le_of_lt h.lt

theorem Move.callers (h : s.Move st c k q t) : t.callers = s.callers := by
  cases h <;> rfl

theorem arrive_cases (s : Flights κ ν) (k : κ) :
    ∃ q t, s.Move (.arrive k) s.nextCaller k q t ∧ s.arrive k = t.put s.nextCaller ⟨k, q⟩ := by
  have hput (t : Flights κ ν) (q : CallPhase ν) (ht : t.callers = s.callers) :
      { t with callers := t.callers ++ [⟨k, q⟩] } = t.put s.nextCaller ⟨k, q⟩ := by
    simp [put, nextCaller, ht]
  cases hk : s.registered.get? k with
  | none =>
    refine ⟨_, _, .lead ⟨rfl, rfl⟩ hk, ?_⟩
    simp only [arrive, join, hk]
    exact hput (s.begin k) _ rfl
  | some f =>
    refine ⟨_, _, .wait ⟨rfl, rfl⟩ hk, ?_⟩
    simp only [arrive, join, hk]
    exact hput s _ rfl

theorem wake_cases (s : Flights κ ν) (c : Nat) :
    s.wake c = s ∨ ∃ k q t, s.Move (.wake c) c k q t ∧ s.wake c = t.put c ⟨k, q⟩ := by
  unfold wake
  split
  · next k f hc =>
    split
    · next v ho => exact .inr ⟨_, _, _, .answer hc ho, setPhase_eq_put hc⟩
    · next ho =>
      cases hk : s.registered.get? k with
      | none =>
        refine .inr ⟨_, _, _, .lead ⟨rfl, f, hc, ho⟩ hk, ?_⟩
        simp only [join, hk]
        exact setPhase_eq_put (s := s.begin k) hc
      | some g =>
        refine .inr ⟨_, _, _, .wait ⟨rfl, f, hc, ho⟩ hk, ?_⟩
        simp only [join, hk]
        exact setPhase_eq_put hc
    · exact .inl rfl
  · exact .inl rfl

/-- A step changes nothing or moves one caller. -/
theorem step_cases (s : Flights κ ν) (st : Step κ ν) :
    s.step st = s ∨ ∃ c k q t, s.Move st c k q t ∧ s.step st = t.put c ⟨k, q⟩ := by
  cases st with
  | arrive k => exact .inr ⟨_, _, s.arrive_cases k⟩
  | wake c => exact (s.wake_cases c).imp_right fun h => ⟨c, h⟩
  | finish c v =>
    simp only [step, finish]
    split
    · next f hc =>
      obtain ⟨k, hc⟩ := isAt_of_phase? hc
      exact .inr ⟨_, _, _, _, .finish v hc, setPhase_eq_put (s := s.setOutcome f (.finished v)) hc⟩
    · exact .inl rfl
  | leave c =>
    simp only [step, leave]
    split
    · next k f v hc =>
      exact .inr ⟨_, _, _, _, .leave hc, setPhase_eq_put (s := s.release k) hc⟩
    · exact .inl rfl
  | cancel c =>
    simp only [step, cancel]
    split
    · next k f hc => exact .inr ⟨_, _, _, _, .go hc, setPhase_eq_put hc⟩
    · next k f hc => exact .inr ⟨_, _, _, _, .drop hc, setPhase_eq_put (s := s.release k) hc⟩
    · exact .inl rfl
  | giveUp c =>
    simp only [step, giveUp]
    split
    · next f hc =>
      obtain ⟨k, hc⟩ := isAt_of_phase? hc
      exact .inr ⟨_, _, _, _, .giveUp hc, setPhase_eq_put (s := s.setOutcome f .abandoned) hc⟩
    · exact .inl rfl

end Moves

/-! ## Coherence -/

section Coherence

variable {κ ν : Type}

/-- Callers, flights and registrations fit each other. -/
structure Coherent [DecidableEq κ] (s : Flights κ ν) : Prop where
  /-- A caller waits for flights of its own key, and leads such flights. -/
  key : ∀ {c k p f}, s.IsAt c k p → p.flight? = some f → s.keyOf? f = some k
  /-- What has become of a flight that is led, its leader knows. -/
  outcome : ∀ {c k p f}, s.IsAt c k p → p.led? = some f → s.outcome? f = some p.outcome
  /-- A flight is led by one caller at most. -/
  unique : ∀ {c d k l p q f}, s.IsAt c k p → p.led? = some f → s.IsAt d l q → q.led? = some f → c = d
  /-- As long as nothing has become of a flight, it is led. -/
  led : ∀ {f}, s.outcome? f = some .pending → ∃ c k p, s.IsAt c k p ∧ p.led? = some f
  /-- A flight is registered for a key as long as a caller with this key holds it. -/
  registered : ∀ {k f}, s.registered.get? k = some f ↔ ∃ c p, s.IsAt c k p ∧ p.held? = some f

variable [DecidableEq κ] {s t : Flights κ ν} {st : Step κ ν} {c d f g : Nat} {k l : κ}
  {p q : CallPhase ν}

theorem Coherent.lt_length (hs : s.Coherent) (hc : s.IsAt c k p) (hp : p.flight? = some f) :
    f < s.flights.length :=
  lt_of_keyOf? (hs.key hc hp)

theorem Coherent.keyOf?_registered (hs : s.Coherent) (h : s.registered.get? k = some f) :
    s.keyOf? f = some k := by
  obtain ⟨d, p, hd, hp⟩ := hs.registered.1 h
  exact hs.key hd (CallPhase.flight?_of_led? (CallPhase.led?_of_held? hp))

theorem Coherent.registered_of_led? (hs : s.Coherent) (hc : s.IsAt c k p) (hp : p.led? = some f)
    (l : κ) : s.registered.get? l = some f ↔ l = k ∧ p.held? = some f := by
  rw [hs.registered]
  constructor
  · rintro ⟨d, q, hd, hq⟩
    obtain rfl := hs.unique hd (CallPhase.led?_of_held? hq) hc hp
    obtain ⟨rfl, rfl⟩ := hd.unique hc
    exact ⟨rfl, hq⟩
  · rintro ⟨rfl, hp⟩
    exact ⟨c, p, hc, hp⟩

/-- While the machine becomes `t`, the caller `c` goes to the phase `q`. The flight `f` is the one that
it has in hand before and after, and all that changes is about `f`. -/
structure Handles (s : Flights κ ν) (f c : Nat) (k : κ) (q : CallPhase ν) (t : Flights κ ν) :
    Prop where
  callers : t.callers = s.callers
  /-- `c` leads no flight but `f`, and no other leads `f`. -/
  hand : ∀ {d l p g}, s.IsAt d l p → p.led? = some g → (d = c ↔ g = f)
  keyOf? : ∀ {g l}, s.keyOf? g = some l → t.keyOf? g = some l
  outcome_of_ne : ∀ {g}, g ≠ f → t.outcome? g = s.outcome? g
  registered : ∀ {l g}, t.registered.get? l = some g ↔
    l = k ∧ q.held? = some g ∨ g ≠ f ∧ s.registered.get? l = some g
  /-- The new phase fits the new flights. -/
  key : ∀ {g}, q.flight? = some g → t.keyOf? g = some k
  led : ∀ {g}, q.led? = some g → g = f
  outcome : if q.led? = none then t.outcome? f ≠ some .pending else t.outcome? f = some q.outcome

/-- A caller that goes on with the flight that it has in hand keeps the machine coherent. -/
theorem Coherent.put (hs : s.Coherent) (hc : c ≤ s.nextCaller) (h : s.Handles f c k q t) :
    (t.put c ⟨k, q⟩).Coherent := by
  -- Each clause looks at `c` and at the other callers. Those are where they were and do not lead `f`,
  -- so that what they lead is untouched.
  have hat {d : Nat} {l : κ} {p : CallPhase ν} :
      (t.put c ⟨k, q⟩).IsAt d l p ↔ c = d ∧ k = l ∧ q = p ∨ c ≠ d ∧ s.IsAt d l p :=
    isAt_put hc h.callers
  have hhand {d l p g} (hd : s.IsAt d l p) (hp : p.led? = some g) : c ≠ d ↔ g ≠ f :=
    not_congr (eq_comm.trans (h.hand hd hp))
  constructor
  case key =>
    intro d l p g hd hg
    obtain ⟨rfl, rfl, rfl⟩ | ⟨-, hd⟩ := hat.1 hd
    · exact h.key hg
    · exact h.keyOf? (hs.key hd hg)
  case outcome =>
    intro d l p g hd hg
    obtain ⟨rfl, rfl, rfl⟩ | ⟨hne, hd⟩ := hat.1 hd
    · obtain rfl := h.led hg
      have hout := h.outcome
      rwa [if_neg (by simp [hg])] at hout
    · exact (h.outcome_of_ne ((hhand hd hg).1 hne)).trans (hs.outcome hd hg)
  case unique =>
    intro d e l m p p' g hd hg he hg'
    obtain ⟨rfl, rfl, rfl⟩ | ⟨-, hd⟩ := hat.1 hd <;>
      obtain ⟨rfl, rfl, rfl⟩ | ⟨-, he⟩ := hat.1 he
    · rfl
    · exact ((h.hand he hg').2 (h.led hg)).symm
    · exact (h.hand hd hg).2 (h.led hg')
    · exact hs.unique hd hg he hg'
  case led =>
    intro g hg
    by_cases hgf : g = f
    · -- If nothing has become of `f`, then `c` has not let go of it.
      subst hgf
      have hout := h.outcome
      split at hout
      · exact absurd hg hout
      · next hq =>
        obtain ⟨g', hq⟩ := Option.ne_none_iff_exists'.1 hq
        exact ⟨c, k, q, hat.2 (.inl ⟨rfl, rfl, rfl⟩), h.led hq ▸ hq⟩
    · obtain ⟨d, l, p, hd, hp⟩ := hs.led ((h.outcome_of_ne hgf).symm.trans hg)
      exact ⟨d, l, p, hat.2 (.inr ⟨(hhand hd hp).2 hgf, hd⟩), hp⟩
  case registered =>
    intro l g
    refine h.registered.trans ⟨?_, ?_⟩
    · rintro (⟨rfl, hq⟩ | ⟨hgf, hg⟩)
      · exact ⟨c, q, hat.2 (.inl ⟨rfl, rfl, rfl⟩), hq⟩
      · obtain ⟨d, p, hd, hp⟩ := hs.registered.1 hg
        exact ⟨d, p, hat.2 (.inr ⟨(hhand hd (CallPhase.led?_of_held? hp)).2 hgf, hd⟩), hp⟩
    · rintro ⟨d, p, hd, hp⟩
      obtain ⟨rfl, rfl, rfl⟩ | ⟨hne, hd⟩ := hat.1 hd
      · exact .inl ⟨rfl, hp⟩
      · exact .inr ⟨(hhand hd (CallPhase.led?_of_held? hp)).1 hne, hs.registered.2 ⟨d, p, hd, hp⟩⟩

/-- A caller that leads nothing before and after has in hand the flight that is not there yet. -/
theorem Coherent.handles_idle (hs : s.Coherent) (hidle : ∀ {l p}, s.IsAt c l p → p.led? = none)
    (hq : q.led? = none) (hkey : ∀ {g}, q.flight? = some g → s.keyOf? g = some k) :
    s.Handles s.flights.length c k q s where
  callers := rfl
  hand := by
    intro d l p g hd hg
    have hlt := hs.lt_length hd (CallPhase.flight?_of_led? hg)
    grind
  keyOf? := id
  outcome_of_ne _ := rfl
  registered := by
    intro l g
    have hlt (hg : s.registered.get? l = some g) : g ≠ s.flights.length :=
      Nat.ne_of_lt (lt_of_keyOf? (hs.keyOf?_registered hg))
    have hheld : q.held? ≠ some g := fun hg => by simp [CallPhase.led?_of_held? hg] at hq
    grind
  key := hkey
  led := by simp [hq]
  outcome := by simp [hq, outcome?]

/-- A caller that leads a flight has it in hand. -/
theorem Coherent.hand (hs : s.Coherent) (hc : s.IsAt c k p) (hp : p.led? = some f)
    (hd : s.IsAt d l q) (hq : q.led? = some g) : d = c ↔ g = f := by
  constructor
  · rintro rfl
    obtain ⟨-, rfl⟩ := hc.unique hd
    exact Option.some.inj (hq.symm.trans hp)
  · rintro rfl
    exact hs.unique hd hq hc hp

theorem Coherent.handles_lead (hs : s.Coherent) (hc : s.Joins c k st)
    (hk : s.registered.get? k = none) :
    s.Handles s.flights.length c k (.leading s.flights.length) (s.begin k) where
  callers := rfl
  hand := by
    intro d l p g hd hg
    have hlt := hs.lt_length hd (CallPhase.flight?_of_led? hg)
    grind [hc.led?]
  keyOf? hg := by simp [Nat.ne_of_lt (lt_of_keyOf? hg), hg]
  outcome_of_ne hg := by simp [hg]
  registered := by
    intro l g
    have hlt (hg : s.registered.get? l = some g) : g ≠ s.flights.length :=
      Nat.ne_of_lt (lt_of_keyOf? (hs.keyOf?_registered hg))
    grind
  key := by simp [CallPhase.flight?]
  led := by simp [CallPhase.led?]
  outcome := by simp [CallPhase.led?, CallPhase.outcome]

/-- Every move handles a flight. -/
theorem Coherent.handles (hs : s.Coherent) (h : s.Move st c k q t) : ∃ f, s.Handles f c k q t := by
  cases h with
  | wait hc hf =>
    refine ⟨_, hs.handles_idle hc.led? rfl ?_⟩
    rintro g ⟨⟩
    exact hs.keyOf?_registered hf
  | lead hc hk => exact ⟨_, hs.handles_lead hc hk⟩
  | answer hc => exact ⟨_, hs.handles_idle (fun hd => (hc.unique hd).2 ▸ rfl) rfl nofun⟩
  | go hc => exact ⟨_, hs.handles_idle (fun hd => (hc.unique hd).2 ▸ rfl) rfl nofun⟩
  -- These callers lead `f` and all change something about it: what is left are lookups.
  | @finish _ _ f _ hc | @leave _ _ f _ hc | @drop _ _ f hc | @giveUp _ _ f hc =>
    refine ⟨f, rfl, hs.hand hc rfl, ?_, ?_, ?_, ?_, ?_, ?_⟩ <;>
      grind [hs.lt_length hc, hs.key hc, hs.outcome hc, hs.registered_of_led? hc]

/-- **A step keeps the machine coherent.** -/
theorem Coherent.step (hs : s.Coherent) (st : Step κ ν) : (s.step st).Coherent := by
  obtain h | ⟨c, k, q, t, hmove, h⟩ := s.step_cases st
  · exact h.symm ▸ hs
  · obtain ⟨f, hf⟩ := hs.handles hmove
    exact h.symm ▸ hs.put hmove.le hf

end Coherence

/-! ## Runs -/

section Runs

variable {κ ν : Type} [DecidableEq κ]

/-- The machine after some steps. -/
def after (s : Flights κ ν) (steps : List (Step κ ν)) : Flights κ ν :=
  steps.foldl step s

/-- The machine after a run, which begins without callers. -/
def run (steps : List (Step κ ν)) : Flights κ ν :=
  ({} : Flights κ ν).after steps

variable {s : Flights κ ν} {steps rest : List (Step κ ν)} {st : Step κ ν}

@[simp] theorem after_nil : s.after [] = s := rfl

@[simp] theorem after_cons : s.after (st :: steps) = (s.step st).after steps := rfl

theorem after_concat : s.after (steps ++ [st]) = (s.after steps).step st :=
  List.foldl_append

theorem run_append : run (steps ++ rest) = (run steps).after rest :=
  List.foldl_append

@[simp] theorem run_concat : run (steps ++ [st]) = (run steps).step st :=
  run_append

theorem coherent_empty : ({} : Flights κ ν).Coherent where
  key := nofun
  outcome := nofun
  unique := nofun
  led := nofun
  registered := ⟨nofun, nofun⟩

theorem Coherent.after (hs : s.Coherent) (steps : List (Step κ ν)) : (s.after steps).Coherent := by
  induction steps generalizing s with
  | nil => exact hs
  | cons st steps ih => exact ih (hs.step st)

theorem coherent_run (steps : List (Step κ ν)) : (run steps).Coherent :=
  coherent_empty.after steps

end Runs

end Flights

end TrafficGateway
