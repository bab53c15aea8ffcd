import Mathlib.Data.Nat.Find
import TrafficGateway.Proofs.Discovery.Flight.History

/-!
# Handing over

The delicate part of sharing executions is what follows the cancellation of a leader. Its flight is
lost at once (`Flights.Lost`), although those who wait for it learn that later: in between, others may
arrive, lead the next flight and even end it.

The next flight for the key has one leader, one of those who waited or came later. As long as there is
none, all of those still wait, and whichever comes or wakes next becomes it (`Flights.Vacant`). So it
is for every way that things can go on (`Flights.handsOver`).

## Main definitions

* `Flights.Candidate`: a caller that waits or is still to come.
* `Flights.IsNextSince`: the first flight of a key since some moment.
* `Flights.HandsOver`: what follows the cancellation of a leader.
-/

namespace TrafficGateway

namespace Flights

section Moments

variable {κ ν : Type} {s₀ s : Flights κ ν} {st : Step κ ν} {c : Nat} {k : κ}

/-- A flight is lost: its leader was cancelled, and gives it up or has given it up. -/
def Lost (s : Flights κ ν) (l : Nat) (k : κ) (f : Nat) : Prop :=
  s.IsAt l k (.dropping f) ∨ s.outcome? f = some .abandoned

/-- A caller waits for a flight of a key, or is still to come. -/
def Candidate (s : Flights κ ν) (c : Nat) (k : κ) : Prop :=
  (∃ f, s.IsAt c k (.waiting f)) ∨ s.nextCaller ≤ c

theorem Joins.candidate (h : s.Joins c k st) : s.Candidate c k := by
  obtain ⟨-, f, hc, -⟩ | ⟨-, rfl⟩ := h.cases
  · exact .inl ⟨f, hc⟩
  · exact .inr (Nat.le_refl _)

/-- Since the machine was `s₀`, no flight has begun for a key. -/
def NoneSince (s₀ s : Flights κ ν) (k : κ) : Prop :=
  ∀ g, s₀.flights.length ≤ g → s.keyOf? g ≠ some k

/-- The first flight that has begun for a key since the machine was `s₀`. -/
def IsNextSince (s₀ s : Flights κ ν) (k : κ) (g : Nat) : Prop :=
  (s₀.flights.length ≤ g ∧ s.keyOf? g = some k) ∧
    ∀ h, s₀.flights.length ≤ h → s.keyOf? h = some k → g ≤ h

theorem noneSince_or_isNextSince (s₀ s : Flights κ ν) (k : κ) :
    s₀.NoneSince s k ∨ ∃ g, s₀.IsNextSince s k g := by
  by_cases hnone : s₀.NoneSince s k
  · exact .inl hnone
  · simp only [NoneSince, not_forall, not_not] at hnone
    obtain ⟨g, hg, hk⟩ := hnone
    classical
    have hex : ∃ g, s₀.flights.length ≤ g ∧ s.keyOf? g = some k := ⟨g, hg, hk⟩
    exact .inr ⟨Nat.find hex, Nat.find_spec hex, fun h hh hk => Nat.find_min' hex ⟨hh, hk⟩⟩

end Moments

variable {κ ν : Type} [DecidableEq κ] {s₀ s : Flights κ ν} {st : Step κ ν} {c f g l : Nat} {k : κ}
  {p : CallPhase ν} {v : ν} {steps before rest : List (Step κ ν)}

/-! ## Lost flights -/

theorem Coherent.abandoned_step_giveUp (hs : s.Coherent) (h : s.Lost l k f) :
    (s.step (.giveUp l)).outcome? f = some .abandoned := by
  obtain hl | ho := h
  · rw [step_giveUp hl, outcome?_put, outcome?_setOutcome, if_pos ⟨rfl, hs.lt_length hl rfl⟩]
  · exact hs.outcome?_step ho nofun _

theorem Coherent.lost_step (hs : s.Coherent) (h : s.Lost l k f) (st : Step κ ν) :
    (s.step st).Lost l k f := by
  obtain hl | ho := h
  · obtain hstays | ⟨q, t, hmove, hstep⟩ := hl.step st
    · exact .inl hstays
    · cases hmove with
      | giveUp hd => exact .inr (hs.abandoned_step_giveUp (.inl hl))
      | wait hjoins | lead hjoins => cases hjoins.led? hl
      | answer hd | finish _ hd | leave hd | go hd | drop hd => cases (hl.unique hd).2
  · exact .inr (hs.outcome?_step ho nofun st)

theorem Coherent.lost_after (hs : s.Coherent) (h : s.Lost l k f) (rest : List (Step κ ν)) :
    (s.after rest).Lost l k f := by
  induction rest generalizing s with
  | nil => exact h
  | cons st rest ih => exact ih (hs.step st) (hs.lost_step h st)

/-- A lost flight never has a value. -/
theorem Coherent.not_finished (hs : s.Coherent) (h : s.Lost l k f) :
    s.outcome? f ≠ some (.finished v) := by
  obtain hl | ho := h
  · rw [hs.outcome hl rfl]
    nofun
  · rw [ho]
    nofun

/-! ## What was before -/

theorem length_le_after (s : Flights κ ν) (rest : List (Step κ ν)) :
    s.flights.length ≤ (s.after rest).flights.length := by
  induction rest generalizing s with
  | nil => exact Nat.le_refl _
  | cons st rest ih => exact Nat.le_trans (s.length_le_step st) (ih _)

theorem NoneSince.of_step (h : s₀.NoneSince (s.step st) k) : s₀.NoneSince s k :=
  fun g hg hk => h g hg (keyOf?_step hk st)

theorem Candidate.of_step (h : (s.step st).Candidate c k) : s.Candidate c k := by
  obtain ⟨f, hc⟩ | hlt := h
  · obtain hold | ⟨t, hmove, -⟩ := isAt_step hc
    · exact .inl ⟨f, hold⟩
    · cases hmove with
      | wait hjoins => exact hjoins.candidate
  · exact .inr (Nat.le_trans (s.nextCaller_le_step st) hlt)

/-- Who leads a flight after some steps has led it before, or was a candidate. -/
theorem led_or_candidate (h : (s.after rest).IsAt c k (.leading g)) :
    s.IsAt c k (.leading g) ∨ s.Candidate c k := by
  induction rest generalizing s with
  | nil => exact .inl h
  | cons st rest ih =>
    obtain hc | hc := ih h
    · obtain hold | ⟨t, hmove, -⟩ := isAt_step hc
      · exact .inl hold
      · cases hmove with
        | lead hjoins => exact .inr hjoins.candidate
    · exact .inr hc.of_step

/-- Who has led a flight that is new since some moment of a run, was a candidate then. -/
theorem Led.candidate (h : Led steps c k g) (hbefore : before <+: steps)
    (hg : (run before).flights.length ≤ g) : (run before).Candidate c k := by
  obtain ⟨past, hpast, hc⟩ := h
  have hlt := (coherent_run past).lt_length hc rfl
  obtain ⟨rest, rfl⟩ | ⟨rest, rfl⟩ := List.prefix_or_prefix_of_prefix hpast hbefore
  · -- The flight was led too early to be new.
    rw [run_append] at hg
    exact absurd hlt (Nat.not_lt.2 (Nat.le_trans (length_le_after _ rest) hg))
  · rw [run_append] at hc
    refine (led_or_candidate hc).resolve_left fun hold => ?_
    exact absurd ((coherent_run before).lt_length hold rfl) (Nat.not_lt.2 hg)

/-- A flight that is registered after some steps was registered before, or is new. -/
theorem registered_of_after (h : (s.after rest).registered.get? k = some g) :
    s.registered.get? k = some g ∨ s.flights.length ≤ g := by
  induction rest generalizing s with
  | nil => exact .inl h
  | cons st rest ih =>
    obtain hg | hg := ih h
    · exact (registered_of_step hg).imp_right fun hg => Nat.le_of_eq hg.symm
    · exact .inr (Nat.le_trans (s.length_le_step st) hg)

/-! ## As long as nobody leads -/

/-- `l` was cancelled as the leader of `f` when the machine was `s₀`, and no flight for the key has
begun since. -/
structure Vacant (s₀ s : Flights κ ν) (l : Nat) (k : κ) (f : Nat) : Prop where
  noneSince : s₀.NoneSince s k
  /-- Nobody has come. -/
  nobody_came : ∀ {c p}, s.IsAt c k p → c < s₀.nextCaller
  /-- Those who waited for the flight still wait, unless they were cancelled. -/
  remaining : ∀ {c}, s₀.IsAt c k (.waiting f) →
    s.IsAt c k (.waiting f) ∨ s.IsAt c k .cancelled
  /-- Whoever comes next leads. -/
  arrival : (s.step (.arrive k)).IsAt s.nextCaller k (.leading s.flights.length)
  /-- Whoever waits leads when it wakes, once the flight is given up. -/
  takeover : ∀ {c}, s.IsAt c k (.waiting f) →
    ((s.step (.giveUp l)).step (.wake c)).IsAt c k (.leading s.flights.length)

theorem Coherent.lost_cancel (hs : s.Coherent) (hl : s.IsAt l k (.leading f))
    (rest : List (Step κ ν)) : (s.after (.cancel l :: rest)).Lost l k f := by
  rw [after_cons]
  refine (hs.step _).lost_after (.inl ?_) rest
  rw [step_cancel hl]
  exact isAt_put_self hl rfl

theorem Coherent.unregistered (hs : s.Coherent) (hl : s.IsAt l k (.leading f))
    (hnone : s.NoneSince (s.after (.cancel l :: rest)) k) :
    (s.after (.cancel l :: rest)).registered.get? k = none := by
  rw [Option.eq_none_iff_forall_ne_some]
  intro g hg
  -- A registration would be of a flight that was there before, and those have lost theirs.
  have hk := (hs.after (.cancel l :: rest)).keyOf?_registered hg
  have hlt : ¬s.flights.length ≤ g := fun hle => hnone g hle hk
  rw [after_cons] at hg
  have hg := registered_of_after hg
  rw [step_cancel hl, registered_put, registered_release, if_pos rfl] at hg
  exact hg.elim nofun hlt

/-- Who looked for a flight would lead one. -/
theorem Coherent.not_joins (hs : s.Coherent) (hl : s.IsAt l k (.leading f))
    (hnone : s.NoneSince ((s.after (.cancel l :: rest)).step st) k) :
    ¬(s.after (.cancel l :: rest)).Joins c k st := by
  intro hjoins
  have hleads := hjoins.leads (hs.unregistered hl hnone.of_step)
  exact hnone _ (length_le_after s _) (((hs.after _).step st).key hleads rfl)

theorem Coherent.nobody_came (hs : s.Coherent) (hl : s.IsAt l k (.leading f))
    (hnone : s.NoneSince (s.after (.cancel l :: rest)) k)
    (hc : (s.after (.cancel l :: rest)).IsAt c k p) : c < s.nextCaller := by
  induction rest using List.reverseRecOn generalizing p with
  | nil =>
    rw [after_cons, after_nil, step_cancel hl] at hc
    obtain ⟨rfl, -, -⟩ | ⟨-, hc⟩ := (isAt_put (t := s.release k) (Nat.le_of_lt hl.lt) rfl).1 hc
    · exact hl.lt
    · exact hc.lt
  | append_singleton rest st ih =>
    rw [← List.cons_append, after_concat] at hc hnone
    obtain hold | ⟨t, hmove, -⟩ := isAt_step hc
    · exact ih hnone.of_step hold
    · cases hmove with
      | wait hjoins | lead hjoins => exact absurd hjoins (hs.not_joins hl hnone)
      | answer hd | finish _ hd | leave hd | go hd | drop hd | giveUp hd =>
        exact ih hnone.of_step hd

theorem Coherent.remaining (hs : s.Coherent) (hl : s.IsAt l k (.leading f))
    (hnone : s.NoneSince (s.after (.cancel l :: rest)) k) (hc : s.IsAt c k (.waiting f)) :
    (s.after (.cancel l :: rest)).IsAt c k (.waiting f) ∨
      (s.after (.cancel l :: rest)).IsAt c k .cancelled := by
  induction rest using List.reverseRecOn with
  | nil =>
    have hne : l ≠ c := by
      rintro rfl
      cases (hl.unique hc).2
    rw [after_cons, after_nil, step_cancel hl]
    exact .inl ((isAt_put (Nat.le_of_lt hl.lt) rfl).2 (.inr ⟨hne, hc⟩))
  | append_singleton rest st ih =>
    rw [← List.cons_append, after_concat] at hnone ⊢
    obtain hwaits | hcancelled := ih hnone.of_step
    · obtain hstays | ⟨q, t, hmove, hstep⟩ := hwaits.step st
      · exact .inl hstays
      · cases hmove with
        | go => exact .inr (hstep ▸ isAt_put_self hwaits rfl)
        | answer hd ho =>
          -- It cannot have been given a value, as the flight is lost.
          cases (hwaits.unique hd).2
          exact absurd ho ((hs.after _).not_finished (hs.lost_cancel hl rest))
        | wait hjoins | lead hjoins => exact absurd hjoins (hs.not_joins hl hnone)
        | finish _ hd | leave hd | drop hd | giveUp hd => cases (hwaits.unique hd).2
    · exact .inr (hcancelled.cancelled_step st)

theorem Coherent.takeover (hs : s.Coherent) (hlost : s.Lost l k f)
    (h : s.registered.get? k = none) (hc : s.IsAt c k (.waiting f)) :
    ((s.step (.giveUp l)).step (.wake c)).IsAt c k (.leading s.flights.length) := by
  have hwaits := (hs.waits hc).stays (.giveUp l) nofun nofun
  have hjoins : (s.step (.giveUp l)).Joins c k (.wake c) :=
    ⟨rfl, f, hwaits, hs.abandoned_step_giveUp hlost⟩
  have hleads := hjoins.leads (by rwa [registered_giveUp])
  rwa [length_giveUp] at hleads

/-- As long as no flight has begun for the key, the lead is vacant. -/
theorem Coherent.vacant (hs : s.Coherent) (hl : s.IsAt l k (.leading f))
    (hnone : s.NoneSince (s.after (.cancel l :: rest)) k) :
    s.Vacant (s.after (.cancel l :: rest)) l k f where
  noneSince := hnone
  nobody_came := hs.nobody_came hl hnone
  remaining := hs.remaining hl hnone
  arrival := Joins.leads ⟨rfl, rfl⟩ (hs.unregistered hl hnone)
  takeover := (hs.after _).takeover (hs.lost_cancel hl rest) (hs.unregistered hl hnone)

/-! ## The next leader -/

/-- What follows when the steps `before` are over, `l` is cancelled as the leader of the flight `f` for
`k`, and the steps `rest` are taken. -/
structure HandsOver (before : List (Step κ ν)) (l : Nat) (k : κ) (f : Nat)
    (rest : List (Step κ ν)) : Prop where
  /-- Nobody ever returns from the flight. -/
  unanswered : ∀ {c j v}, ¬ReturnedFrom (before ++ .cancel l :: rest) c j f v
  /-- Exactly one caller has become the next leader, one that waited or came later; or nobody has. -/
  successor :
    (∃ g, (run before).IsNextSince (run (before ++ .cancel l :: rest)) k g ∧
      ∃! c, Led (before ++ .cancel l :: rest) c k g ∧ (run before).Candidate c k) ∨
    (run before).Vacant (run (before ++ .cancel l :: rest)) l k f

/-- **A leader that is cancelled hands over to one caller.** -/
theorem handsOver (hl : (run before).IsAt l k (.leading f)) : HandsOver before l k f rest where
  unanswered := by
    intro c j v hreturned
    have hlost := (coherent_run before).lost_cancel hl rest
    rw [← run_append] at hlost
    exact (coherent_run _).not_finished hlost hreturned.outcome?
  successor := by
    obtain hnone | ⟨g, hnext⟩ :=
      noneSince_or_isNextSince (run before) (run (before ++ .cancel l :: rest)) k
    · rw [run_append] at hnone ⊢
      exact .inr ((coherent_run before).vacant hl hnone)
    · obtain ⟨hg, hk⟩ := hnext.1
      obtain ⟨c, hc⟩ := exists_led hk
      have hcandidate := hc.candidate (List.prefix_append ..) hg
      exact .inl ⟨g, hnext, c, ⟨hc, hcandidate⟩, fun d hd => hd.1.unique hc⟩

end Flights

end TrafficGateway
