import TrafficGateway.Proofs.Stream.Pump

/-!
# Taking turns

A pump whose copies take turns over given lists of items is one that runs in an order of its own: every
event of a turn can happen when it does (`Turns.run_isRun`). What holds of all runs of pumps is therefore
true of these.

Between turns, the list that is left of a source is what the script of the source gives from where it
stands (`Pump.Rest`). This has to be kept only as long as the copy reads on: nobody looks at the
source of another one again.

## Main definitions

* `Pump.GoesOn`: what a turn of one copy adds to a run.
* `Turns.InRun`: the turns so far are a run.

## Main statements

* `Pump.goesOn_poll`: one turn, by induction on the list that is left.
* `Turns.InRun.rounds`, `Turns.run_isRun`: all turns, by induction on the rounds.
-/

namespace TrafficGateway

namespace Pump

variable {source : Side → SourceScript}

/-! ## Events of one side -/

theorem copy_step_self {p : Pump} (h : p.failure? = none) (side : Side) (event : CopyEvent) :
    (p.step side event).copy side = ((p.copy side).step event).1 := by
  cases hcopy : ((p.copy side).step event).1.failure? with
  | none => simp [step_of_running h hcopy]
  | some e => simp [step_of_failing h hcopy]

theorem copy_step_of_ne (p : Pump) {side other : Side} (hne : other ≠ side) (event : CopyEvent) :
    (p.step side event).copy other = p.copy other := by
  by_cases h : p.failure? = none
  · cases hcopy : ((p.copy side).step event).1.failure? with
    | none => simp [step_of_running h hcopy, hne]
    | some e => simp [step_of_failing h hcopy, hne]
  · rw [step_of_failed h]

theorem failure?_step_eq_none {p : Pump} {side : Side} {event : CopyEvent} (h : p.failure? = none)
    (hcopy : ((p.copy side).step event).1.failure? = none) : (p.step side event).failure? = none := by
  rw [failure?_eq_none_iff] at h ⊢
  intro other
  by_cases hother : other = side
  · rw [hother, copy_step_self (failure?_eq_none_iff.2 h)]
    exact hcopy
  · rw [copy_step_of_ne p hother]
    exact h other

theorem copy_run_of_ne (p : Pump) {side other : Side} (hne : other ≠ side)
    (events : List CopyEvent) : (p.run side events).copy other = p.copy other := by
  induction events generalizing p with
  | nil => rfl
  | cons event events ih =>
    show ((p.step side event).run side events).copy other = p.copy other
    rw [ih, copy_step_of_ne p hne]

theorem run_append (p : Pump) (side : Side) (events events' : List CopyEvent) :
    p.run side (events ++ events') = (p.run side events).run side events' :=
  List.foldl_append ..

/-- The copy of the side reads on. -/
def ReadsOn (p : Pump) (side : Side) : Prop :=
  p.failure? = none ∧ (p.copy side).phase = .reading

theorem ReadsOn.step {p : Pump} {side : Side} {event : CopyEvent}
    (h : (p.step side event).ReadsOn side) : p.failure? = none := by
  by_contra hfailed
  rw [step_of_failed hfailed] at h
  exact hfailed h.1

/-! ## One turn of a copy -/

/-- The list is what the script of a side gives from where its source stands. -/
def Rest (script : SourceScript) (n : Nat) (rest : List SourceItem) : Prop :=
  ∀ i, rest[i]? = script (n + i)

theorem Rest.head {script : SourceScript} {n : Nat} {item : SourceItem} {rest : List SourceItem}
    (h : Rest script n (item :: rest)) : script n = some item :=
  (h 0).symm

theorem Rest.tail {script : SourceScript} {n : Nat} {item : SourceItem} {rest : List SourceItem}
    (h : Rest script n (item :: rest)) : Rest script (n + 1) rest := by
  intro i
  rw [Nat.add_assoc, Nat.add_comm 1 i]
  exact h (i + 1)

/-- After the events of a turn the run has gone on, and the source of the side stands where the list that
is left says, if the copy reads on. The other source stands where it stood. -/
def GoesOn (source : Side → SourceScript) (events : List (Side × CopyEvent)) (read : Side → Nat)
    (side : Side) (t : Sink.Turn) : Prop :=
  ∃ events' read', IsRun source events' read' ∧
    (after events).run side t.events = after events' ∧
    (∀ other ≠ side, read' other = read other) ∧
    ((after events').ReadsOn side → Rest (source side) (read' side) t.source)

variable {events : List (Side × CopyEvent)} {read : Side → Nat} {side : Side}

/-- An event that ends the turn, and with it the reading. -/
theorem goesOn_last {event : CopyEvent} {n : Nat} {rest : List SourceItem} {sink : Sink}
    (hrun : IsRun source events read) (hreads : (after events).ReadsOn side)
    (hcan : CanHappen (source side) (read side) .reading event n)
    (hends : (((after events).copy side).step event).1.phase ≠ .reading) :
    GoesOn source events read side ⟨[event], false, rest, sink⟩ := by
  refine ⟨events ++ [(side, event)], Function.update read side n, ?_, ?_, ?_, ?_⟩
  · exact hrun.event side (hreads.2 ▸ hcan)
  · rw [after_concat]
    rfl
  · intro other hne
    exact Function.update_of_ne hne n read
  · intro h
    rw [after_concat] at h
    have hphase := h.2
    rw [copy_step_self hreads.1] at hphase
    exact absurd hphase hends

/-- A turn without events, which leaves the list as it is. -/
theorem goesOn_nothing {rest : List SourceItem} {sink : Sink} (hrun : IsRun source events read)
    (hrest : Rest (source side) (read side) rest) :
    GoesOn source events read side ⟨[], false, rest, sink⟩ :=
  ⟨events, read, hrun, rfl, fun _ _ => rfl, fun _ => hrest⟩

/-- A frame goes through at once, and the copy reads on behind it. -/
theorem exists_through {f : Frame} (hrun : IsRun source events read)
    (hreads : (after events).ReadsOn side) (hframe : source side (read side) = some (.frame f)) :
    ∃ events' read', IsRun source events' read' ∧ (after events').ReadsOn side ∧
      (after events).run side [.delivered f, .accepted] = after events' ∧
      read' side = read side + 1 ∧ ∀ other ≠ side, read' other = read other := by
  obtain ⟨hrunning, hreading⟩ := hreads
  -- the frame is on its way
  have hdelivered : ((after events).step side (.delivered f)).copy side =
      { (after events).copy side with phase := .sending } := by
    rw [copy_step_self hrunning]
    unfold Copy.step
    rw [hreading]
  have hrunning' : ((after events).step side (.delivered f)).failure? = none := by
    refine failure?_step_eq_none hrunning ?_
    rw [← copy_step_self hrunning, hdelivered]
    rfl
  -- and it has gone through
  have haccepted : (((after events).step side (.delivered f)).step side .accepted).copy side =
      { count := ((after events).copy side).count + 1, phase := .reading } := by
    rw [copy_step_self hrunning', hdelivered]
    rfl
  have hrun' := hrun.event side (hreading ▸ CanHappen.delivered hframe)
  have hsending : CopyPhase.sending =
      ((after (events ++ [(side, .delivered f)])).copy side).phase := by
    rw [after_concat, hdelivered]
  have hrun'' := hrun'.event side (hsending ▸ CanHappen.accepted)
  refine ⟨_, _, hrun'', ?_, ?_, ?_, ?_⟩
  · rw [after_concat, after_concat]
    refine ⟨failure?_step_eq_none hrunning' ?_, ?_⟩
    · rw [← copy_step_self hrunning', haccepted]
      rfl
    · rw [haccepted]
  · rw [after_concat, after_concat]
    rfl
  · rw [Function.update_self, Function.update_self]
  · intro other hne
    rw [Function.update_of_ne hne, Function.update_of_ne hne]

/-- What comes behind events of the turn that have happened. -/
theorem GoesOn.after {events' : List (Side × CopyEvent)} {read' : Side → Nat} {first : List CopyEvent}
    {t : Sink.Turn} (hfirst : (after events).run side first = Pump.after events')
    (hread : ∀ other ≠ side, read' other = read other) (h : GoesOn source events' read' side t) :
    GoesOn source events read side (t.after first) := by
  obtain ⟨events'', read'', hrun, hafter, hothers, hrest⟩ := h
  refine ⟨events'', read'', hrun, ?_, ?_, hrest⟩
  · show (Pump.after events).run side (first ++ t.events) = _
    rw [run_append, hfirst, hafter]
  · intro other hne
    rw [hothers other hne, hread other hne]

theorem phase_step_ne_reading {c : Copy} {event : CopyEvent} {e : ForwardError}
    (hreading : c.phase = .reading) (he : event.error? = some e) :
    (c.step event).1.phase ≠ .reading := by
  unfold Copy.step
  rw [hreading]
  cases event with
  | refused e' => simp
  | broken e' => simp
  | abandoned => simp
  | delivered f => cases he
  | accepted => cases he
  | ended => cases he

/-- One turn, by induction on the list that is left of the source: only a frame that goes through at once
is followed by anything. -/
theorem goesOn_poll {rest : List SourceItem} (sink : Sink) (hrun : IsRun source events read)
    (hreads : (after events).ReadsOn side) (hrest : Rest (source side) (read side) rest) :
    GoesOn source events read side (Sink.poll rest sink) := by
  induction rest generalizing sink events read with
  | nil =>
    refine goesOn_last hrun hreads (.ended (hrest 0).symm) ?_
    unfold Copy.step
    rw [hreads.2]
    simp
  | cons item rest ih =>
    cases item with
    | frame f =>
      rw [Sink.poll]
      rcases sink.send f with ⟨outcome, sink'⟩
      cases outcome with
      | taken =>
        obtain ⟨events', read', hrun', hreads', hafter, hread, hothers⟩ :=
          exists_through hrun hreads hrest.head
        have hrest' : Rest (source side) (read' side) rest := by
          rw [hread]
          exact hrest.tail
        exact (ih sink' hrun' hreads' hrest').after hafter hothers
      | takenLast =>
        refine goesOn_last hrun hreads (.delivered hrest.head) ?_
        unfold Copy.step
        rw [hreads.2]
        simp
      | waits => exact goesOn_nothing hrun hrest
      | refused e =>
        exact goesOn_last hrun hreads (.refused hrest.head) (phase_step_ne_reading hreads.2 rfl)
    | failure e =>
      exact goesOn_last hrun hreads (.broken hrest.head) (phase_step_ne_reading hreads.2 rfl)
    | pause =>
      rw [Sink.poll]
      split
      · exact goesOn_last hrun hreads .abandoned (phase_step_ne_reading hreads.2 rfl)
      · refine ⟨events, _, hrun.pause side hrest.head, rfl, ?_, fun _ => ?_⟩
        · exact fun other hne => Function.update_of_ne hne _ read
        · rw [Function.update_self]
          exact hrest.tail
    | stall =>
      rw [Sink.poll]
      split
      · exact goesOn_last hrun hreads .abandoned (phase_step_ne_reading hreads.2 rfl)
      · exact goesOn_nothing hrun hrest

end Pump

/-! ## Whole runs -/

namespace Turns

open Pump

variable {t : Turns} {source : Side → SourceScript}

/-- The turns so far are a run of the pump, and the copies that read on are where their lists say. -/
def InRun (source : Side → SourceScript) (t : Turns) : Prop :=
  ∃ events read, IsRun source events read ∧ t.pump = after events ∧
    ∀ side, t.pump.ReadsOn side → Rest (source side) (read side) (t.ends side).1

theorem turn_of_readsOn {side : Side} (h : t.pump.ReadsOn side) :
    let polled := Sink.poll (t.ends side).1 (t.ends side).2
    (t.turn side).2.pump = t.pump.run side polled.events ∧
      ∀ other, ((t.turn side).2.ends other).1 =
        if other = side then polled.source else (t.ends other).1 := by
  have hnot : ¬(t.pump.failure?.isSome = true ∨ (t.pump.copy side).phase ≠ .reading) := by
    rw [h.1, h.2]
    decide
  unfold turn
  rw [if_neg hnot]
  cases side with
  | toBackend => exact ⟨rfl, fun other => by cases other <;> rfl⟩
  | toClient => exact ⟨rfl, fun other => by cases other <;> rfl⟩

theorem turn_of_not_readsOn {side : Side} (h : ¬t.pump.ReadsOn side) : (t.turn side).2 = t := by
  unfold turn
  rw [if_pos]
  by_contra hnot
  rw [not_or, not_not] at hnot
  exact h ⟨Option.not_isSome_iff_eq_none.1 hnot.1, hnot.2⟩

theorem InRun.turn (h : t.InRun source) (side : Side) : (t.turn side).2.InRun source := by
  by_cases hreads : t.pump.ReadsOn side
  · obtain ⟨events, read, hrun, hpump, hrest⟩ := h
    obtain ⟨hturn, hends⟩ := turn_of_readsOn hreads
    obtain ⟨events', read', hrun', hafter, hothers, hrest'⟩ :=
      goesOn_poll (t.ends side).2 hrun (hpump ▸ hreads) (hrest side hreads)
    rw [← hpump, ← hturn] at hafter
    refine ⟨events', read', hrun', hafter, fun other hother => ?_⟩
    rw [hends other]
    by_cases hne : other = side
    · subst hne
      rw [if_pos rfl]
      exact hrest' (hafter ▸ hother)
    · rw [if_neg hne, hothers other hne]
      -- the copy of the other side has not moved
      refine hrest other ⟨hreads.1, ?_⟩
      rw [← copy_run_of_ne t.pump hne, ← hturn]
      exact hother.2
  · rw [turn_of_not_readsOn hreads]
    exact h

theorem InRun.rounds (h : t.InRun source) (left : Nat) : (rounds left t).InRun source := by
  induction left generalizing t with
  | zero => exact h
  | succ left ih =>
    have hboth := (h.turn .toBackend).turn .toClient
    rw [Turns.rounds]
    dsimp only
    split
    · exact ih hboth
    · exact hboth

/-- **Taking turns is one of the ways to run.** A pump between lists that takes turns comes to where some
run of a pump between these lists as sources comes to. -/
theorem run_isRun (t : Turns) (hstart : t.pump = {}) :
    ∃ events read, IsRun (fun side n => (t.ends side).1[n]?) events read ∧
      t.run.pump = after events := by
  have hbegin : t.InRun fun side n => (t.ends side).1[n]? := by
    refine ⟨[], fun _ => 0, .start, hstart, fun side _ i => ?_⟩
    rw [Nat.zero_add]
  obtain ⟨events, read, hrun, hpump, -⟩ :=
    hbegin.rounds (t.clientSource.length + t.backendSource.length + 1)
  refine ⟨events, read, hrun, ?_⟩
  rw [← hpump, run, tearDown]
  split <;> rfl

end Turns

end TrafficGateway
