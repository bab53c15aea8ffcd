import TrafficGateway.Proofs.Discovery.Flight

/-!
# One step of the flights

What a step does to each part of the machine, said once for all steps. A caller stays where it is or
moves (`Flights.isAt_step`, `Flights.IsAt.step`). Flights keep their keys, and what has become of one
stays (`Flights.Coherent.outcome?_step`). A registration is taken away by the caller that made it, and
by no other (`Flights.Coherent.registered_step`).

## Main definitions

* `Flights.Waits`: what can happen to a caller that waits.
-/

namespace TrafficGateway

namespace Flights

variable {κ ν : Type} [DecidableEq κ] {s t : Flights κ ν} {st : Step κ ν} {c d f g l : Nat} {k j : κ}
  {p q : CallPhase ν} {o : FlightOutcome ν} {v : ν}

/-! ## Callers -/

/-- Where a caller is after a step, it was before or moves to. -/
theorem isAt_step (h : (s.step st).IsAt c k p) :
    s.IsAt c k p ∨ ∃ t, s.Move st c k p t ∧ s.step st = t.put c ⟨k, p⟩ := by
  obtain hstep | ⟨d, j, q, t, hmove, hstep⟩ := s.step_cases st
  · rw [hstep] at h
    exact .inl h
  · rw [hstep, isAt_put hmove.le hmove.callers] at h
    obtain ⟨rfl, rfl, rfl⟩ | ⟨-, h⟩ := h
    · exact .inr ⟨t, hmove, hstep⟩
    · exact .inl h

/-- A caller stays where it is or moves. -/
theorem IsAt.step (h : s.IsAt c k p) (st : Step κ ν) :
    (s.step st).IsAt c k p ∨ ∃ q t, s.Move st c k q t ∧ s.step st = t.put c ⟨k, q⟩ := by
  obtain hstep | ⟨d, j, q, t, hmove, hstep⟩ := s.step_cases st
  · rw [hstep]
    exact .inl h
  · by_cases hd : d = c
    · subst hd
      -- The caller that moves is this one, and it moves with its own key.
      obtain rfl : j = k := by
        cases hmove with
        | wait hjoins | lead hjoins =>
          obtain ⟨-, f, hc, -⟩ := hjoins.of_isAt h
          exact (hc.unique h).1
        | answer hc | finish _ hc | leave hc | go hc | drop hc | giveUp hc => exact (hc.unique h).1
      exact .inr ⟨q, t, hmove, hstep⟩
    · rw [hstep, isAt_put hmove.le hmove.callers]
      exact .inl (.inr ⟨hd, h⟩)

/-- The caller that a step names, or that comes with it. -/
def mover (s : Flights κ ν) : Step κ ν → Nat
  | .arrive _ => s.nextCaller
  | .wake c | .finish c _ | .leave c | .cancel c | .giveUp c => c

omit [DecidableEq κ] in
theorem Joins.mover (h : s.Joins c k st) : s.mover st = c := by
  obtain ⟨rfl, -⟩ | ⟨rfl, rfl⟩ := h.cases
  · rfl
  · rfl

theorem Move.mover {q : CallPhase ν} (h : s.Move st c k q t) : s.mover st = c := by
  cases h with
  | wait hjoins | lead hjoins => exact hjoins.mover
  | answer | finish | leave | go | drop | giveUp => rfl

/-- A step leaves all other callers where they are. -/
theorem isAt_step_of_ne (h : c ≠ s.mover st) : (s.step st).IsAt c k p ↔ s.IsAt c k p := by
  obtain hstep | ⟨d, j, q, t, hmove, hstep⟩ := s.step_cases st
  · rw [hstep]
  · have hne : d ≠ c := fun hd => h (hd ▸ hmove.mover.symm)
    rw [hstep, isAt_put hmove.le hmove.callers]
    exact ⟨fun hc => hc.elim (fun hd => absurd hd.1 hne) And.right, fun hc => .inr ⟨hne, hc⟩⟩

/-- A caller that was cancelled does nothing any more. -/
theorem IsAt.cancelled_step (hc : s.IsAt c k .cancelled) (st : Step κ ν) :
    (s.step st).IsAt c k .cancelled := by
  obtain hstays | ⟨q, t, hmove, -⟩ := hc.step st
  · exact hstays
  · cases hmove with
    | wait hjoins | lead hjoins =>
      obtain ⟨-, f, hd, -⟩ := hjoins.of_isAt hc
      cases (hc.unique hd).2
    | answer hd | finish _ hd | leave hd | go hd | drop hd | giveUp hd => cases (hc.unique hd).2

theorem nextCaller_le_step (s : Flights κ ν) (st : Step κ ν) :
    s.nextCaller ≤ (s.step st).nextCaller := by
  obtain hstep | ⟨c, k, q, t, hmove, hstep⟩ := s.step_cases st
  · exact Nat.le_of_eq (congrArg nextCaller hstep.symm)
  · rw [hstep, nextCaller, ← hmove.callers]
    unfold put nextCaller
    grind

/-! ## Flights -/

theorem keyOf?_step (h : s.keyOf? f = some k) (st : Step κ ν) :
    (s.step st).keyOf? f = some k := by
  obtain hstep | ⟨d, j, q, t, hmove, hstep⟩ := s.step_cases st
  · rwa [hstep]
  · have hlt := lt_of_keyOf? h
    rw [hstep, keyOf?_put]
    cases hmove <;> grind

/-- A flight that is there after a step was there or is being led since. -/
theorem keyOf?_of_step (h : (s.step st).keyOf? f = some k) :
    s.keyOf? f = some k ∨ f = s.flights.length ∧ ∃ c, (s.step st).IsAt c k (.leading f) := by
  obtain hstep | ⟨d, j, q, t, hmove, hstep⟩ := s.step_cases st
  · rw [hstep] at h
    exact .inl h
  · rw [hstep, keyOf?_put] at h
    cases hmove with
    | lead hd hk =>
      rw [keyOf?_begin] at h
      split at h
      · next hf =>
        cases h
        subst hf
        refine .inr ⟨rfl, d, ?_⟩
        rw [hstep]
        exact (isAt_put (t := s.begin k) hd.le rfl).2 (.inl ⟨rfl, rfl, rfl⟩)
      · exact .inl h
    | finish | giveUp =>
      rw [keyOf?_setOutcome] at h
      exact .inl h
    | wait | answer | go | leave | drop => exact .inl h

/-- What has become of a flight stays. -/
theorem Coherent.outcome?_step (hs : s.Coherent) (h : s.outcome? f = some o) (ho : o ≠ .pending)
    (st : Step κ ν) : (s.step st).outcome? f = some o := by
  obtain hstep | ⟨d, j, q, t, hmove, hstep⟩ := s.step_cases st
  · rwa [hstep]
  · rw [hstep, outcome?_put]
    cases hmove with
    | lead =>
      have hlt : f ≠ s.flights.length := by
        rintro rfl
        simp [outcome?] at h
      rw [outcome?_begin, if_neg hlt, h]
    | @finish _ _ g _ hd | @giveUp _ _ g hd =>
      -- The flight that changes is being led, so nothing has become of it.
      have hpending : s.outcome? g = some .pending := hs.outcome hd rfl
      have hne : g ≠ f := by
        rintro rfl
        exact ho (Option.some.inj (h.symm.trans hpending))
      rw [outcome?_setOutcome, if_neg fun hf => hne hf.1, h]
    | wait | answer | go | leave | drop => exact h

/-- A flight gets its value from the caller that executes it. -/
theorem finished_step (h : (s.step st).outcome? f = some (.finished v)) :
    s.outcome? f = some (.finished v) ∨ ∃ c k, st = .finish c v ∧ s.IsAt c k (.leading f) := by
  obtain hstep | ⟨d, j, q, t, hmove, hstep⟩ := s.step_cases st
  · rw [hstep] at h
    exact .inl h
  · rw [hstep, outcome?_put] at h
    cases hmove with
    | finish v' hd =>
      rw [outcome?_setOutcome] at h
      split at h
      · next hf =>
        cases h
        exact .inr ⟨d, j, rfl, hf.1 ▸ hd⟩
      · exact .inl h
    | lead | giveUp => grind
    | wait | answer | go | leave | drop => exact .inl h

/-- A caller that returns has the value of its flight. -/
theorem Coherent.outcome?_of_returns (hs : s.Coherent) (hc : s.IsAt c k p) (hp : p.flight? = some f)
    (h : (s.step st).IsAt c k (.returned v)) : s.outcome? f = some (.finished v) := by
  obtain hold | ⟨t, hmove, -⟩ := isAt_step h
  · obtain ⟨-, rfl⟩ := hc.unique hold
    cases hp
  · cases hmove with
    | answer hd ho =>
      obtain ⟨-, rfl⟩ := hc.unique hd
      cases hp
      exact ho
    | leave hd =>
      obtain ⟨-, rfl⟩ := hc.unique hd
      cases hp
      exact hs.outcome hd rfl

theorem length_le_step (s : Flights κ ν) (st : Step κ ν) :
    s.flights.length ≤ (s.step st).flights.length := by
  obtain hstep | ⟨c, k, q, t, hmove, hstep⟩ := s.step_cases st
  · exact Nat.le_of_eq (congrArg (·.flights.length) hstep.symm)
  · rw [hstep, flights_put]
    cases hmove <;> grind

/-- No leader was cancelled: no flight has been given up or is about to be. -/
structure Unbroken (s : Flights κ ν) : Prop where
  kept : ∀ {f}, s.outcome? f ≠ some .abandoned
  undropped : ∀ {c k f}, ¬s.IsAt c k (.dropping f)

theorem Unbroken.step (h : s.Unbroken) (hst : ∀ c, st ≠ .cancel c) : (s.step st).Unbroken := by
  obtain hstep | ⟨c, k, q, t, hmove, hstep⟩ := s.step_cases st
  · rwa [hstep]
  · constructor
    case kept =>
      intro f ho
      rw [hstep, outcome?_put] at ho
      cases hmove with
      | lead => grind [h.kept (f := f)]
      | finish => grind [h.kept (f := f)]
      | giveUp hd => exact h.undropped hd
      | wait | answer | leave | go | drop => exact h.kept ho
    case undropped =>
      intro d j f hd
      obtain hold | ⟨u, hdrop, -⟩ := isAt_step hd
      · exact h.undropped hold
      · cases hdrop with
        | drop => exact hst _ rfl

/-! ## Registrations -/

/-- A caller that takes its registration away leaves those of other flights. -/
theorem Coherent.release_cases (hs : s.Coherent) (hc : s.IsAt c j p) (hp : p.held? = some f)
    (h : s.registered.get? k = some g) :
    (s.release j).registered.get? k = some g ∨
      (s.release j).registered.get? k = none ∧ k = j ∧ g = f := by
  rw [registered_release]
  split
  · next hjk =>
    subst hjk
    have hf := hs.registered.2 ⟨c, p, hc, hp⟩
    exact .inr ⟨rfl, rfl, Option.some.inj (h.symm.trans hf)⟩
  · exact .inl h

/-- A registration stays, unless the caller that leads its flight leaves or is cancelled. -/
theorem Coherent.registered_step (hs : s.Coherent) (h : s.registered.get? k = some g)
    (st : Step κ ν) :
    (s.step st).registered.get? k = some g ∨ (s.step st).registered.get? k = none ∧
      ∃ c, (∃ v, st = .leave c ∧ s.IsAt c k (.finishing g v)) ∨
        st = .cancel c ∧ s.IsAt c k (.leading g) := by
  obtain hstep | ⟨c, j, q, t, hmove, hstep⟩ := s.step_cases st
  · rw [hstep]
    exact .inl h
  · rw [hstep, registered_put]
    cases hmove with
    | wait | answer | go | finish | giveUp => exact .inl h
    | lead hc hj =>
      rw [registered_begin]
      split
      · next hjk =>
        subst hjk
        cases hj.symm.trans h
      · exact .inl h
    | leave hc =>
      obtain hstays | ⟨hnone, rfl, rfl⟩ := hs.release_cases hc rfl h
      · exact .inl hstays
      · exact .inr ⟨hnone, c, .inl ⟨_, rfl, hc⟩⟩
    | drop hc =>
      obtain hstays | ⟨hnone, rfl, rfl⟩ := hs.release_cases hc rfl h
      · exact .inl hstays
      · exact .inr ⟨hnone, c, .inr ⟨rfl, hc⟩⟩

/-- Only a new flight is registered anew. -/
theorem registered_of_step (h : (s.step st).registered.get? k = some g) :
    s.registered.get? k = some g ∨ g = s.flights.length := by
  obtain hstep | ⟨c, j, q, t, hmove, hstep⟩ := s.step_cases st
  · rw [hstep] at h
    exact .inl h
  · rw [hstep, registered_put] at h
    cases hmove <;> grind

/-! ## Single steps -/

theorem wake_finished (hc : s.IsAt c k (.waiting f)) (ho : s.outcome? f = some (.finished v)) :
    s.step (.wake c) = s.put c ⟨k, .returned v⟩ := by
  rw [← setPhase_eq_put hc]
  unfold IsAt at hc
  simp [step, wake, hc, ho]

theorem wake_abandoned (hc : s.IsAt c k (.waiting f)) (ho : s.outcome? f = some .abandoned) :
    s.step (.wake c) = (s.join k).2.put c ⟨k, (s.join k).1⟩ := by
  -- Joining may begin a flight, but moves no caller.
  have hjoin : (s.join k).2.IsAt c k (.waiting f) := by
    unfold join
    split <;> exact hc
  rw [← setPhase_eq_put hjoin]
  unfold IsAt at hc
  simp [step, wake, hc, ho]

theorem wake_pending (hc : s.IsAt c k (.waiting f)) (ho : s.outcome? f = some .pending) :
    s.step (.wake c) = s := by
  unfold IsAt at hc
  simp [step, wake, hc, ho]

theorem callers_join : (s.join k).2.callers = s.callers := by
  unfold join
  split <;> rfl

theorem phase_join : (s.join k).1 =
    match s.registered.get? k with
      | some g => .waiting g
      | none => .leading s.flights.length := by
  unfold join
  cases s.registered.get? k <;> rfl

/-- Who looks for a flight of a key for which none is registered leads one. -/
theorem Joins.leads (hjoins : s.Joins c k st) (h : s.registered.get? k = none) :
    (s.step st).IsAt c k (.leading s.flights.length) := by
  obtain ⟨rfl, f, hc, ho⟩ | ⟨rfl, rfl⟩ := hjoins.cases
  · rw [wake_abandoned hc ho, phase_join, h]
    exact isAt_put_self hc callers_join
  · obtain ⟨q, t, hmove, harrive⟩ := s.arrive_cases k
    rw [step, harrive]
    cases hmove with
    | wait _ hf => cases h.symm.trans hf
    | lead => exact (isAt_put (t := s.begin k) (Nat.le_refl _) rfl).2 (.inl ⟨rfl, rfl, rfl⟩)

/-- Who comes for a key for which a flight is registered waits for it. -/
theorem arrive_waits (h : s.registered.get? k = some f) :
    (s.step (.arrive k)).IsAt s.nextCaller k (.waiting f) := by
  obtain ⟨q, t, hmove, harrive⟩ := s.arrive_cases k
  rw [step, harrive]
  cases hmove with
  | wait _ hf =>
    cases h.symm.trans hf
    exact (isAt_put (Nat.le_refl _) rfl).2 (.inl ⟨rfl, rfl, rfl⟩)
  | lead _ hnone => cases h.symm.trans hnone

theorem step_cancel (hl : s.IsAt l k (.leading f)) :
    s.step (.cancel l) = (s.release k).put l ⟨k, .dropping f⟩ := by
  rw [← setPhase_eq_put (s := s.release k) hl]
  unfold IsAt at hl
  simp [step, cancel, hl, release]

theorem step_giveUp (hl : s.IsAt l k (.dropping f)) :
    s.step (.giveUp l) = (s.setOutcome f .abandoned).put l ⟨k, .cancelled⟩ := by
  rw [← setPhase_eq_put (s := s.setOutcome f .abandoned) hl]
  unfold IsAt at hl
  simp [step, giveUp, phase?, hl]

theorem registered_giveUp : (s.step (.giveUp l)).registered = s.registered := by
  simp only [step, giveUp]
  split <;> rfl

theorem length_giveUp : (s.step (.giveUp l)).flights.length = s.flights.length := by
  simp only [step, giveUp]
  split
  · exact length_setOutcome
  · rfl

/-! ## Waiting -/

/-- What can happen to a caller that waits for a flight. -/
structure Waits (s : Flights κ ν) (c : Nat) (k : κ) (f : Nat) : Prop where
  /-- Only its own steps move it. -/
  stays : ∀ st, st ≠ .wake c → st ≠ .cancel c → (s.step st).IsAt c k (.waiting f)
  /-- When the flight has a value, it returns with that value. -/
  finished : ∀ v, s.outcome? f = some (.finished v) → (s.step (.wake c)).IsAt c k (.returned v)
  /-- When the flight was given up, it waits for the one that is registered or leads a new one. -/
  abandoned : s.outcome? f = some .abandoned → (s.step (.wake c)).IsAt c k
    (match s.registered.get? k with
      | some g => .waiting g
      | none => .leading s.flights.length)
  /-- While nothing has become of the flight, it waits on, and it does not wait in vain: some caller
  executes the flight, or is about to give it up. -/
  pending : s.outcome? f = some .pending →
    s.step (.wake c) = s ∧ ∃ l, s.IsAt l k (.leading f) ∨ s.IsAt l k (.dropping f)
  /-- The flight exists. -/
  outcome : (s.outcome? f).isSome

theorem Coherent.waits (hs : s.Coherent) (hc : s.IsAt c k (.waiting f)) : s.Waits c k f where
  stays := by
    intro st hwake hcancel
    obtain hstays | ⟨q, t, hmove, -⟩ := hc.step st
    · exact hstays
    · cases hmove with
      | wait hjoins | lead hjoins => exact absurd (hjoins.of_isAt hc).1 hwake
      | answer => exact absurd rfl hwake
      | go | drop => exact absurd rfl hcancel
      | finish _ hd | leave hd | giveUp hd => cases (hc.unique hd).2
  finished v ho := by
    rw [wake_finished hc ho]
    exact isAt_put_self hc rfl
  abandoned ho := by
    rw [wake_abandoned hc ho, ← phase_join]
    exact isAt_put_self hc callers_join
  pending ho := by
    refine ⟨wake_pending hc ho, ?_⟩
    -- A flight of which nothing has become has a leader, which has the same key.
    obtain ⟨l, k', p, hl, hp⟩ := hs.led ho
    have hk := hs.key hl (CallPhase.flight?_of_led? hp)
    cases hk.symm.trans (hs.key hc rfl)
    have hout := hs.outcome hl hp
    refine ⟨l, ?_⟩
    cases p with
    | leading => cases hp; exact .inl hl
    | dropping => cases hp; exact .inr hl
    | finishing => cases ho.symm.trans hout
    | _ => cases hp
  outcome := by
    have hk := hs.key hc rfl
    rw [keyOf?] at hk
    rw [outcome?]
    grind

end Flights

end TrafficGateway
