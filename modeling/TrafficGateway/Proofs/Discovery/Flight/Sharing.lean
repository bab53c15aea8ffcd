import Mathlib.Data.Finset.Card
import TrafficGateway.Proofs.Discovery.Flight.Handover

/-!
# What callers share

Callers come, go on and are cancelled in any order, and still share executions safely
(`Flights.run_sharesExecutions`). No two of them execute for one key, and who comes for a key leads a
flight exactly if nobody else holds one. Who returns, returns with the value of an execution for its
own key that was registered meanwhile, and those who return from one flight return with the same value.
A leader that is cancelled hands over to one caller. Registrations are taken away by those who made
them, and the leaders count them.

## Main definitions

* `Flights.SharesExecutions`: the properties of all runs.
-/

namespace TrafficGateway

namespace Flights

variable {κ ν : Type} [DecidableEq κ] {s : Flights κ ν} {c d f g : Nat} {k : κ}

/-! ## Leaders and registrations -/

/-- Two callers that execute for one key hold one registration. -/
theorem Coherent.alone (hs : s.Coherent) (hc : s.IsAt c k (.leading f))
    (hd : s.IsAt d k (.leading g)) : c = d := by
  have hf := hs.registered.2 ⟨c, _, hc, rfl⟩
  have hg := hs.registered.2 ⟨d, _, hd, rfl⟩
  cases hf.symm.trans hg
  exact hs.unique hc rfl hd rfl

/-- A key for which nobody holds a registration has none. -/
theorem Coherent.unheld (hs : s.Coherent) (h : ∀ c p, s.IsAt c k p → p.held? = none) :
    s.registered.get? k = none := by
  refine Option.eq_none_iff_forall_ne_some.2 fun f hf => ?_
  obtain ⟨c, p, hc, hp⟩ := hs.registered.1 hf
  cases hp.symm.trans (h c p hc)

/-- The registered keys are those of the leaders. -/
theorem Coherent.mem_keys (hs : s.Coherent) :
    k ∈ s.registered.keys ↔ ∃ x ∈ s.callers, x.phase.held?.isSome ∧ x.key = k := by
  have hkeys : k ∈ s.registered.keys ↔ ∃ f, s.registered.get? k = some f := by
    rw [← Option.isSome_iff_exists, ← Dict.contains_eq_isSome]
    exact List.contains_iff_mem.symm
  rw [hkeys]
  constructor
  · rintro ⟨f, hf⟩
    obtain ⟨c, p, hc, hp⟩ := hs.registered.1 hf
    exact ⟨⟨k, p⟩, exists_isAt_iff.1 ⟨c, hc⟩, by simp [hp], rfl⟩
  · rintro ⟨⟨_, p⟩, hx, hp, rfl⟩
    obtain ⟨c, hc⟩ := exists_isAt_iff.2 hx
    obtain ⟨f, hp⟩ := Option.isSome_iff_exists.1 hp
    exact ⟨f, hs.registered.2 ⟨c, p, hc, hp⟩⟩

/-- The number of registrations is that of the keys that have a leader. -/
theorem Coherent.inFlight_eq (hs : s.Coherent) :
    s.inFlight =
      ((s.callers.filter fun x => x.phase.held?.isSome).map (·.key)).toFinset.card := by
  have hcard : s.registered.keys.toFinset.card = s.inFlight := by
    have hnodup : s.registered.keys.Nodup := s.registered.distinct
    rw [List.toFinset_card_of_nodup hnodup]
    exact List.length_map _
  rw [← hcard]
  congr 1
  ext k
  simp [hs.mem_keys, and_assoc]

theorem Coherent.inFlight_zero (hs : s.Coherent) (h : ∀ x ∈ s.callers, x.phase.flight? = none) :
    s.inFlight = 0 := by
  have hnone : s.callers.filter (fun x => x.phase.held?.isSome) = [] := by
    rw [List.filter_eq_nil_iff]
    intro x hx hheld
    obtain ⟨f, hf⟩ := Option.isSome_iff_exists.1 hheld
    cases (h x hx).symm.trans (CallPhase.flight?_of_led? (CallPhase.led?_of_held? hf))
  rw [hs.inFlight_eq, hnone]
  rfl

/-! ## All runs -/

/-- What holds of a run: of its history and of the machine that it has led to. -/
structure SharesExecutions (steps : List (Step κ ν)) : Prop where
  /-- No two callers execute for one key. -/
  alone : ∀ {c d k f g},
    (run steps).IsAt c k (.leading f) → (run steps).IsAt d k (.leading g) → c = d
  /-- A caller that comes for a key leads a new flight if nobody executes for that key, or has executed
  for it and is about to leave. -/
  leads : ∀ {k}, (∀ c p, (run steps).IsAt c k p → p.held? = none) →
    ((run steps).step (.arrive k)).IsAt (run steps).nextCaller k (.leading (run steps).flights.length)
  /-- If somebody does, it waits for that flight. -/
  joins : ∀ {c k p f}, (run steps).IsAt c k p → p.held? = some f →
    ((run steps).step (.arrive k)).IsAt (run steps).nextCaller k (.waiting f)
  /-- A caller that has returned has the value that an execution for its key has produced. The flight
  was registered while the caller waited for it or led it. -/
  returned : ∀ {c k v}, (run steps).IsAt c k (.returned v) →
    ∃ f, ReturnedFrom steps c k f v ∧ Met steps c k f ∧ Produced steps k f v
  /-- Callers that return from one flight return with one value. -/
  agree : ∀ {c d j k f v w}, ReturnedFrom steps c j f v → ReturnedFrom steps d k f w → v = w
  /-- A caller that waits goes on waiting until it has a value, leads or is cancelled. -/
  waits : ∀ {c k f}, (run steps).IsAt c k (.waiting f) → (run steps).Waits c k f
  /-- Only a caller that is cancelled itself ends without a value. -/
  cancelled : ∀ {c k}, (run steps).IsAt c k .cancelled → .cancel c ∈ steps
  /-- A leader that is cancelled hands over to one caller. -/
  handsOver : ∀ {before l k f rest}, steps = before ++ .cancel l :: rest →
    (run before).IsAt l k (.leading f) → HandsOver before l k f rest
  /-- A registration is taken away by the caller that leads its flight only, when it leaves or is
  cancelled. -/
  registered : ∀ {k g} st, (run steps).registered.get? k = some g →
    ((run steps).step st).registered.get? k = some g ∨
      ((run steps).step st).registered.get? k = none ∧
        ∃ c, (∃ v, st = .leave c ∧ (run steps).IsAt c k (.finishing g v)) ∨
          st = .cancel c ∧ (run steps).IsAt c k (.leading g)
  /-- As many keys are being executed for as have a leader. -/
  inFlight : (run steps).inFlight =
    (((run steps).callers.filter fun x => x.phase.held?.isSome).map (·.key)).toFinset.card
  /-- If no call goes on, no key is being executed for. -/
  inFlight_zero : (∀ x ∈ (run steps).callers, x.phase.flight? = none) → (run steps).inFlight = 0

/-- **Callers share executions safely**, in whatever order they come, go on and are cancelled. -/
theorem run_sharesExecutions (steps : List (Step κ ν)) : SharesExecutions steps where
  alone := (coherent_run steps).alone
  leads h := Joins.leads ⟨rfl, rfl⟩ ((coherent_run steps).unheld h)
  joins hc hp := arrive_waits ((coherent_run steps).registered.2 ⟨_, _, hc, hp⟩)
  returned h := by
    obtain ⟨f, hf⟩ := exists_returnedFrom h
    exact ⟨f, hf, hf.met, hf.produced⟩
  agree h h' := by
    cases h.outcome?.symm.trans h'.outcome?
    rfl
  waits := (coherent_run steps).waits
  cancelled h := cancel_mem h (.inl rfl)
  handsOver := by
    rintro before l k f rest rfl hl
    exact Flights.handsOver hl
  registered st h := (coherent_run steps).registered_step h st
  inFlight := (coherent_run steps).inFlight_eq
  inFlight_zero := (coherent_run steps).inFlight_zero

/-- The leader is cancelled, and the caller that has waited for it executes. -/
example :
    ((run [.arrive 0, .arrive 0, .cancel 0, .giveUp 0, .wake 1, .finish 1 2, .leave 1] :
      Flights Nat Nat).callers.map (·.phase)) = [.cancelled, .returned 2] := by decide

end Flights

end TrafficGateway
