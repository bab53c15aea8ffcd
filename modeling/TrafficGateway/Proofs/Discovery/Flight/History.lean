import TrafficGateway.Proofs.Discovery.Flight.Step

/-!
# What has happened to flights

A state of the machine does not say where a value came from or who led a flight that is over. A run
does: it is the list of its steps, and what has happened in it is said by its prefixes
(`Flights.Sometime`, `Flights.Happens`).

As what has become of a flight stays, all that is ever taken from a flight is the one value that its
leader produced (`Flights.ReturnedFrom.outcome?`, `Flights.produced`). Every flight has had exactly one
leader (`Flights.exists_led`, `Flights.Led.unique`).

## Main definitions

* `Flights.Led`: a caller has executed a flight.
* `Flights.Met`: a flight was registered while a caller waited for it or led it.
* `Flights.Produced`: an execution has produced a value.
* `Flights.ReturnedFrom`: a caller has returned with the value of a flight.
-/

namespace TrafficGateway

namespace Flights

variable {κ ν : Type} [DecidableEq κ] {st : Step κ ν} {c d f : Nat} {k j : κ} {p : CallPhase ν}
  {v : ν} {steps past : List (Step κ ν)}

/-! ## Moments of a run -/

/-- At a moment of a run, the machine has had a property. -/
def Sometime (steps : List (Step κ ν)) (P : Flights κ ν → Prop) : Prop :=
  ∃ past, past <+: steps ∧ P (run past)

/-- In a run, a step has been taken in a certain state of the machine. -/
def Happens (steps : List (Step κ ν)) (R : Flights κ ν → Step κ ν → Prop) : Prop :=
  ∃ past st, past ++ [st] <+: steps ∧ R (run past) st

variable {P : Flights κ ν → Prop} {R : Flights κ ν → Step κ ν → Prop}

theorem Sometime.now (h : P (run steps)) : Sometime steps P :=
  ⟨steps, List.prefix_rfl, h⟩

theorem Sometime.later (h : Sometime past P) (hpast : past <+: steps) : Sometime steps P := by
  obtain ⟨early, hearly, hP⟩ := h
  exact ⟨early, hearly.trans hpast, hP⟩

theorem sometime_concat :
    Sometime (steps ++ [st]) P ↔ Sometime steps P ∨ P ((run steps).step st) := by
  constructor
  · rintro ⟨past, hpast, hP⟩
    obtain rfl | hpast := List.prefix_concat_iff.1 hpast
    · rw [run_concat] at hP
      exact .inr hP
    · exact .inl ⟨past, hpast, hP⟩
  · rintro (h | hP)
    · exact h.later (List.prefix_append ..)
    · exact .now (by rwa [run_concat])

theorem Happens.later (h : Happens past R) (hpast : past <+: steps) : Happens steps R := by
  obtain ⟨early, st, hearly, hR⟩ := h
  exact ⟨early, st, hearly.trans hpast, hR⟩

theorem not_happens_nil : ¬Happens [] R := by
  rintro ⟨past, st, h, -⟩
  simp at h

theorem happens_concat : Happens (steps ++ [st]) R ↔ Happens steps R ∨ R (run steps) st := by
  constructor
  · rintro ⟨past, st', hpast, hR⟩
    obtain h | hpast := List.prefix_concat_iff.1 hpast
    · obtain ⟨rfl, rfl⟩ := List.append_singleton_inj.1 h
      exact .inr hR
    · exact .inl ⟨past, st', hpast, hR⟩
  · rintro (h | hR)
    · exact h.later (List.prefix_append ..)
    · exact ⟨steps, st, List.prefix_rfl, hR⟩

/-- Flights keep their keys. -/
theorem keyOf?_run (hpast : past <+: steps) (h : (run past).keyOf? f = some k) :
    (run steps).keyOf? f = some k := by
  obtain ⟨rest, rfl⟩ := hpast
  induction rest using List.reverseRecOn with
  | nil => rwa [List.append_nil]
  | append_singleton rest st ih =>
    rw [← List.append_assoc, run_concat]
    exact keyOf?_step ih st

/-! ## Histories -/

/-- A caller has executed a flight for its key. -/
def Led (steps : List (Step κ ν)) (c : Nat) (k : κ) (f : Nat) : Prop :=
  Sometime steps fun s => s.IsAt c k (.leading f)

/-- While a caller waited for a flight or led it, the flight was registered for its key. -/
def Met (steps : List (Step κ ν)) (c : Nat) (k : κ) (f : Nat) : Prop :=
  Sometime steps fun s =>
    s.registered.get? k = some f ∧ ∃ p, s.IsAt c k p ∧ p.flight? = some f

/-- The execution of a flight for a key has produced a value. -/
def Produced (steps : List (Step κ ν)) (k : κ) (f : Nat) (v : ν) : Prop :=
  Happens steps fun s st => ∃ c, st = .finish c v ∧ s.IsAt c k (.leading f)

/-- A caller that waited for a flight or led it has returned with a value. -/
def ReturnedFrom (steps : List (Step κ ν)) (c : Nat) (k : κ) (f : Nat) (v : ν) : Prop :=
  Happens steps fun s st =>
    (∃ p, s.IsAt c k p ∧ p.flight? = some f) ∧ (s.step st).IsAt c k (.returned v)

theorem not_isAt_nil : ¬(run ([] : List (Step κ ν))).IsAt c k p :=
  nofun

/-- Every caller has met the flight that it waits for or leads. -/
theorem met (h : (run steps).IsAt c k p) (hp : p.flight? = some f) : Met steps c k f := by
  induction steps using List.reverseRecOn generalizing p with
  | nil => exact absurd h not_isAt_nil
  | append_singleton steps st ih =>
    refine sometime_concat.2 ?_
    rw [run_concat] at h
    obtain hold | ⟨t, hmove, hstep⟩ := isAt_step h
    · exact .inl (ih hold hp)
    · cases hmove with
      -- A caller that joins a flight meets it right now.
      | wait hc hf =>
        cases hp
        exact .inr ⟨hstep.symm ▸ hf, _, h, rfl⟩
      | lead hc hk =>
        cases hp
        refine .inr ⟨?_, _, h, rfl⟩
        rw [hstep, registered_put, registered_begin, if_pos rfl]
      | finish _ hc | drop hc =>
        cases hp
        exact .inl (ih hc rfl)
      | answer | leave | go | giveUp => cases hp

/-- The value of a flight was produced by its execution. -/
theorem produced (h : (run steps).outcome? f = some (.finished v)) :
    ∃ k, (run steps).keyOf? f = some k ∧ Produced steps k f v := by
  induction steps using List.reverseRecOn with
  | nil => cases h
  | append_singleton steps st ih =>
    rw [run_concat] at h
    obtain hold | ⟨c, k, rfl, hc⟩ := finished_step h
    · obtain ⟨k, hk, hproduced⟩ := ih hold
      exact ⟨k, keyOf?_run (List.prefix_append ..) hk, happens_concat.2 (.inl hproduced)⟩
    · have hk := (coherent_run steps).key hc rfl
      exact ⟨k, keyOf?_run (List.prefix_append ..) hk, happens_concat.2 (.inr ⟨c, rfl, hc⟩)⟩

/-- A caller that has returned, has returned from a flight. -/
theorem exists_returnedFrom (h : (run steps).IsAt c k (.returned v)) :
    ∃ f, ReturnedFrom steps c k f v := by
  induction steps using List.reverseRecOn with
  | nil => exact absurd h not_isAt_nil
  | append_singleton steps st ih =>
    rw [run_concat] at h
    obtain hold | ⟨t, hmove, hstep⟩ := isAt_step h
    · obtain ⟨f, hf⟩ := ih hold
      exact ⟨f, happens_concat.2 (.inl hf)⟩
    · cases hmove with
      | answer hc ho => exact ⟨_, happens_concat.2 (.inr ⟨⟨_, hc, rfl⟩, h⟩)⟩
      | leave hc => exact ⟨_, happens_concat.2 (.inr ⟨⟨_, hc, rfl⟩, h⟩)⟩

/-- All that is taken from a flight is what has become of it. -/
theorem ReturnedFrom.outcome? (h : ReturnedFrom steps c k f v) :
    (run steps).outcome? f = some (.finished v) := by
  induction steps using List.reverseRecOn with
  | nil => exact absurd h not_happens_nil
  | append_singleton steps st ih =>
    have hs := coherent_run steps
    have hfinished : (run steps).outcome? f = some (.finished v) := by
      obtain hold | ⟨⟨p, hc, hp⟩, hreturns⟩ := happens_concat.1 h
      · exact ih hold
      · exact hs.outcome?_of_returns hc hp hreturns
    rw [run_concat]
    exact hs.outcome?_step hfinished nofun st

theorem ReturnedFrom.met (h : ReturnedFrom steps c k f v) : Met steps c k f := by
  obtain ⟨past, st, hpast, ⟨p, hc, hp⟩, -⟩ := h
  exact (Flights.met hc hp).later ((List.prefix_append ..).trans hpast)

theorem ReturnedFrom.produced (h : ReturnedFrom steps c k f v) : Produced steps k f v := by
  -- The key of the execution is that of the flight, and so is the key of the caller.
  obtain ⟨j, hj, hproduced⟩ := Flights.produced h.outcome?
  obtain ⟨past, st, hpast, ⟨p, hc, hp⟩, -⟩ := h
  have hk := keyOf?_run ((List.prefix_append ..).trans hpast) ((coherent_run past).key hc hp)
  cases hj.symm.trans hk
  exact hproduced

theorem Led.keyOf? (h : Led steps c k f) : (run steps).keyOf? f = some k := by
  obtain ⟨past, hpast, hc⟩ := h
  exact keyOf?_run hpast ((coherent_run past).key hc rfl)

/-- Every flight has been led. -/
theorem exists_led (h : (run steps).keyOf? f = some k) : ∃ c, Led steps c k f := by
  induction steps using List.reverseRecOn with
  | nil => cases h
  | append_singleton steps st ih =>
    rw [run_concat] at h
    obtain hold | ⟨-, c, hc⟩ := keyOf?_of_step h
    · obtain ⟨c, hc⟩ := ih hold
      exact ⟨c, sometime_concat.2 (.inl hc)⟩
    · exact ⟨c, sometime_concat.2 (.inr hc)⟩

/-- Who leads a flight since the last step has led it before, or the flight is new. -/
theorem led_concat (h : Led (steps ++ [st]) c k f) :
    Led steps c k f ∨
      f = (run steps).flights.length ∧ ((run steps).step st).IsAt c k (.leading f) := by
  obtain hold | hnow := sometime_concat.1 h
  · exact .inl hold
  · obtain hold | ⟨t, hmove, -⟩ := isAt_step hnow
    · exact .inl (.now hold)
    · cases hmove with
      | lead => exact .inr ⟨rfl, hnow⟩

/-- Nobody but its leader ever leads a flight. -/
theorem Led.unique (h : Led steps c k f) (h' : Led steps d j f) : c = d := by
  induction steps using List.reverseRecOn with
  | nil =>
    obtain ⟨past, hpast, hc⟩ := h
    obtain rfl := List.prefix_nil.1 hpast
    exact absurd hc not_isAt_nil
  | append_singleton steps st ih =>
    -- A flight that is new cannot have been led before.
    have hnew {c k} (hled : Led steps c k f) : f ≠ (run steps).flights.length :=
      Nat.ne_of_lt (lt_of_keyOf? hled.keyOf?)
    obtain hold | ⟨hf, hnow⟩ := led_concat h <;> obtain hold' | ⟨hf', hnow'⟩ := led_concat h'
    · exact ih hold hold'
    · exact absurd hf' (hnew hold)
    · exact absurd hf (hnew hold')
    · exact ((coherent_run steps).step st).unique hnow rfl hnow' rfl

/-- A caller is cancelled by its own step only. -/
theorem cancel_mem (h : (run steps).IsAt c k p) (hp : p = .cancelled ∨ ∃ f, p = .dropping f) :
    .cancel c ∈ steps := by
  induction steps using List.reverseRecOn generalizing p with
  | nil => exact absurd h not_isAt_nil
  | append_singleton steps st ih =>
    rw [run_concat] at h
    obtain hold | ⟨t, hmove, -⟩ := isAt_step h
    · exact List.mem_append_left _ (ih hold hp)
    · cases hmove with
      | go | drop => exact List.mem_append_right _ (List.mem_singleton_self _)
      | giveUp hc => exact List.mem_append_left _ (ih hc (.inr ⟨_, rfl⟩))
      | _ => simp at hp

end Flights

end TrafficGateway
