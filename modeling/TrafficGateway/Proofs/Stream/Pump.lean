import Mathlib.Logic.Function.Basic
import TrafficGateway.Stream.Turns

/-!
# What a pump hands on

A pump copies from two sources into two sinks. Sources give what they like and need not end, sinks refuse
frames and lose their readers when they like, and the two copies take their turns in any order. All
this is one relation (`Pump.IsRun`): an event can happen if the source of its side stands where it
says, and if the copy is in the phase for it. What a sink was told is then known exactly.

As long as no copy has failed, a sink was told the frames that its source has given, in order, and
was closed behind the last of them if the source has ended (`Pump.Intact`). The first failure adds one
abort to each of the two sinks, and nothing happens after it (`Pump.BrokenOff`).

## Main definitions

* `SourceScript`: a source with all that it will ever give.
* `Pump.CanHappen`, `Pump.IsRun`: the events that can happen, and runs of them.
* `Pump.callsTo`: what one of the sinks was told.

## Main statements

* `Pump.Intact.step`, `Pump.IsRun.intact_or_brokenOff`: one event, and by induction whole runs.
* `Pump.copies_faithfully`: what the sinks were told, and what the result says about it.
-/

namespace TrafficGateway

/-! ## Sources -/

/-- What a source gives at each place, one item after the other; `none` is its end, and it need not
have one. -/
abbrev SourceScript := Nat → Option SourceItem

namespace SourceScript

/-- The frames among the first items. -/
def frames (s : SourceScript) : Nat → List Frame
  | 0 => []
  | n + 1 =>
    frames s n ++
      match s n with
      | some (.frame f) => [f]
      | _ => []

/-- Neither a failure nor the end is among the first items, and nothing that would never give a
next one. -/
def Flows (s : SourceScript) (n : Nat) : Prop :=
  ∀ i < n, s i = some .pause ∨ ∃ f, s i = some (.frame f)

variable {s : SourceScript} {n : Nat}

theorem frames_of_frame {f : Frame} (h : s n = some (.frame f)) :
    s.frames (n + 1) = s.frames n ++ [f] := by
  rw [frames, h]

theorem frames_of_pause (h : s n = some .pause) : s.frames (n + 1) = s.frames n := by
  rw [frames, h]
  exact List.append_nil _

theorem Flows.succ (h : s.Flows n) (hn : s n = some .pause ∨ ∃ f, s n = some (.frame f)) :
    s.Flows (n + 1) := by
  intro i hi
  rcases Nat.lt_succ_iff_lt_or_eq.1 hi with hlt | rfl
  · exact h i hlt
  · exact hn

end SourceScript

/-- Why the event ends a copy, if it does. -/
def CopyEvent.error? : CopyEvent → Option ForwardError
  | .refused e => some e
  | .broken e => some e
  | .abandoned => some FrameChannel.peerClosed
  | _ => none

/-- The frame that a sink is sent by a call. -/
def SinkCall.frame? : SinkCall → Option Frame
  | .send f => some f
  | _ => none

namespace Pump

/-! ## Runs -/

/-- An event can happen to a copy in a phase whose source stands at a place, and the place where the
source stands after it. Whether sinks take frames, and whether their readers stay, is up to them. -/
inductive CanHappen (source : SourceScript) (n : Nat) : CopyPhase → CopyEvent → Nat → Prop where
  | delivered {f : Frame} (h : source n = some (.frame f)) :
      CanHappen source n .reading (.delivered f) (n + 1)
  | refused {f : Frame} {e : ForwardError} (h : source n = some (.frame f)) :
      CanHappen source n .reading (.refused e) (n + 1)
  | accepted : CanHappen source n .sending .accepted n
  /-- A frame that the sink has taken does not get through. -/
  | refusedLate {e : ForwardError} : CanHappen source n .sending (.refused e) n
  | broken {e : ForwardError} (h : source n = some (.failure e)) :
      CanHappen source n .reading (.broken e) (n + 1)
  | abandoned : CanHappen source n .reading .abandoned n
  | ended (h : source n = none) : CanHappen source n .reading .ended n

/-- The pump after some events of the two sides. -/
def after (events : List (Side × CopyEvent)) : Pump :=
  events.foldl (fun p e => p.step e.1 e.2) {}

/-- The events can happen in this order to a pump between the sources, which stand at the given places
then. Events of the two sides and the pauses of the sources come in any order. -/
inductive IsRun (source : Side → SourceScript) : List (Side × CopyEvent) → (Side → Nat) → Prop where
  | start : IsRun source [] fun _ => 0
  | event {events : List (Side × CopyEvent)} {read : Side → Nat} {event : CopyEvent} {n : Nat}
      (run : IsRun source events read) (side : Side)
      (can : CanHappen (source side) (read side) ((after events).copy side).phase event n) :
      IsRun source (events ++ [(side, event)]) (Function.update read side n)
  | pause {events : List (Side × CopyEvent)} {read : Side → Nat} (run : IsRun source events read)
      (side : Side) (pauses : source side (read side) = some .pause) :
      IsRun source events (Function.update read side (read side + 1))

/-- What one of the sinks was told, in order. -/
def callsTo (p : Pump) (side : Side) : List SinkCall :=
  (p.calls.filter fun c => c.1 = side).map (·.2)

/-- The frames that one of the sinks was sent, in order. -/
def framesTo (p : Pump) (side : Side) : List Frame :=
  (p.callsTo side).filterMap SinkCall.frame?

@[simp] theorem after_concat (events : List (Side × CopyEvent)) (side : Side) (event : CopyEvent) :
    after (events ++ [(side, event)]) = (after events).step side event := by
  simp [after]

/-! ## Parts of a pump -/

@[simp] theorem copy_setCopy (p : Pump) (side other : Side) (c : Copy) :
    (p.setCopy side c).copy other = if other = side then c else p.copy other := by
  cases side <;> cases other <;> rfl

@[simp] theorem callsTo_setCopy (p : Pump) (side other : Side) (c : Copy) :
    (p.setCopy side c).callsTo other = p.callsTo other := by
  cases side <;> rfl

@[simp] theorem calls_setCopy (p : Pump) (side : Side) (c : Copy) :
    (p.setCopy side c).calls = p.calls := by
  cases side <;> rfl

@[simp] theorem copy_note (p : Pump) (side other : Side) (calls : List SinkCall) :
    (p.note side calls).copy other = p.copy other := by
  cases other <;> rfl

@[simp] theorem callsTo_note (p : Pump) (side other : Side) (calls : List SinkCall) :
    (p.note side calls).callsTo other = p.callsTo other ++ if other = side then calls else [] := by
  unfold callsTo note
  rw [List.filter_append, List.map_append]
  congr 1
  by_cases h : other = side
  · subst h
    simp [List.filter_map, Function.comp_def]
  · have hne : side ≠ other := fun heq => h heq.symm
    simp [List.filter_map, Function.comp_def, h, hne]

theorem failure?_eq_none_iff {p : Pump} :
    p.failure? = none ↔ ∀ side, (p.copy side).failure? = none := by
  unfold failure?
  rw [Option.or_eq_none_iff]
  exact ⟨fun h side => by cases side <;> simp [copy, h],
    fun h => ⟨h .toBackend, h .toClient⟩⟩

/-! ## One event -/

/-- After a failure nothing happens any more. -/
theorem step_of_failed {p : Pump} (h : p.failure? ≠ none) (side : Side) (event : CopyEvent) :
    p.step side event = p := by
  unfold step
  rw [if_pos (Option.isSome_iff_ne_none.2 h)]

theorem step_of_running {p : Pump} {side : Side} {event : CopyEvent} (h : p.failure? = none)
    (hcopy : ((p.copy side).step event).1.failure? = none) :
    p.step side event =
      (p.setCopy side ((p.copy side).step event).1).note side ((p.copy side).step event).2 := by
  unfold step
  rw [if_neg (by rw [h]; decide)]
  simp only [hcopy]

/-- The copy that fails takes the pump with it, and both sinks are told why. -/
theorem step_of_failing {p : Pump} {side : Side} {event : CopyEvent} {e : ForwardError}
    (h : p.failure? = none) (hcopy : ((p.copy side).step event).1.failure? = some e) :
    p.step side event =
      (((p.setCopy side ((p.copy side).step event).1).note side ((p.copy side).step event).2).note
        .toBackend [.abort e]).note .toClient [.abort e] := by
  unfold step
  rw [if_neg (by rw [h]; decide)]
  simp only [hcopy]

/-- What an event does to the copy that it happens to: it ends it, or the copy goes on. -/
theorem CanHappen.step_error {source : SourceScript} {n m : Nat} {c : Copy} {event : CopyEvent}
    {e : ForwardError} (h : CanHappen source n c.phase event m) (he : event.error? = some e) :
    c.step event = ({ c with phase := .failed e }, []) := by
  obtain ⟨count, phase⟩ := c
  cases h with
  | delivered => cases he
  | refused =>
    obtain rfl := Option.some.inj he
    rfl
  | accepted => cases he
  | refusedLate =>
    obtain rfl := Option.some.inj he
    rfl
  | broken =>
    obtain rfl := Option.some.inj he
    rfl
  | abandoned =>
    obtain rfl := Option.some.inj he
    rfl
  | ended => cases he

/-! ## While nothing has failed -/

/-- The calls that belong to a phase and are not sending: a copy that is done has closed its sink. -/
def closing : CopyPhase → List SinkCall
  | .finished => [.close]
  | _ => []

/-- The number of frames that a sink has taken and not yet let through. -/
def underway : CopyPhase → Nat
  | .sending => 1
  | _ => 0

/-- One side of a pump in which nothing has failed: its source has flowed to where it stands, the sink
was sent exactly its frames, they are counted once they have gone through, and the sink is closed once
the source has ended. -/
structure SideIntact (source : SourceScript) (n : Nat) (c : Copy) (calls : List SinkCall) : Prop where
  running : c.failure? = none
  flows : source.Flows n
  calls : calls = (source.frames n).map .send ++ closing c.phase
  count : c.count + underway c.phase = (source.frames n).length
  ended : c.phase = .finished → source n = none

/-- Both sides are intact. -/
def Intact (source : Side → SourceScript) (read : Side → Nat) (p : Pump) : Prop :=
  ∀ side, SideIntact (source side) (read side) (p.copy side) (p.callsTo side)

variable {source : Side → SourceScript} {read : Side → Nat} {p : Pump}

theorem Intact.running (h : p.Intact source read) : p.failure? = none :=
  failure?_eq_none_iff.2 fun side => (h side).running

theorem intact_start (source : Side → SourceScript) : Intact source (fun _ => 0) {} := by
  intro side
  have hcopy : ({} : Pump).copy side = {} := by cases side <;> rfl
  rw [hcopy]
  exact { running := rfl, flows := fun i hi => absurd hi (Nat.not_lt_zero i), calls := rfl,
          count := rfl, ended := fun h => by cases h }

/-- A pause goes by unnoticed. -/
theorem SideIntact.pause {source : SourceScript} {n : Nat} {c : Copy} {calls : List SinkCall}
    (h : SideIntact source n c calls) (hpause : source n = some .pause) :
    SideIntact source (n + 1) c calls where
  running := h.running
  flows := h.flows.succ (.inl hpause)
  calls := by rw [SourceScript.frames_of_pause hpause, ← h.calls]
  count := by rw [SourceScript.frames_of_pause hpause, ← h.count]
  ended := fun hfinished => by
    rw [h.ended hfinished] at hpause
    cases hpause

/-- An event that is no failure keeps a side intact. -/
theorem SideIntact.step {source : SourceScript} {n m : Nat} {c : Copy} {calls : List SinkCall}
    {event : CopyEvent} (h : SideIntact source n c calls) (hcan : CanHappen source n c.phase event m)
    (hevent : event.error? = none) :
    SideIntact source m (c.step event).1 (calls ++ (c.step event).2) := by
  obtain ⟨count, phase⟩ := c
  cases hcan with
  | @delivered f hf =>
    refine { running := rfl, flows := h.flows.succ (.inr ⟨f, hf⟩), calls := ?_, count := ?_,
             ended := fun hfinished => by cases hfinished }
    · rw [SourceScript.frames_of_frame hf, h.calls]
      simp [Copy.step, closing]
    · have hcount : count + 0 = (source.frames n).length := h.count
      rw [SourceScript.frames_of_frame hf, List.length_append, ← hcount]
      rfl
  | refused => cases hevent
  | accepted =>
    refine { running := rfl, flows := h.flows, calls := ?_, count := ?_,
             ended := fun hfinished => by cases hfinished }
    · rw [h.calls]
      simp [Copy.step, closing]
    · exact h.count
  | refusedLate => cases hevent
  | broken => cases hevent
  | abandoned => cases hevent
  | ended hend =>
    refine { running := rfl, flows := h.flows, calls := ?_, count := h.count,
             ended := fun _ => hend }
    rw [h.calls]
    simp [Copy.step, closing]

/-- What has happened so far, if nothing of it was a failure, keeps the pump intact. -/
theorem Intact.step {side : Side} {event : CopyEvent} {n : Nat} (h : p.Intact source read)
    (hcan : CanHappen (source side) (read side) (p.copy side).phase event n)
    (hevent : event.error? = none) :
    (p.step side event).Intact source (Function.update read side n) := by
  have hside := (h side).step hcan hevent
  rw [step_of_running h.running hside.running]
  intro other
  rw [copy_note, copy_setCopy, callsTo_note, callsTo_setCopy]
  by_cases hother : other = side
  · subst hother
    simpa using hside
  · simpa [hother] using h other

theorem Intact.pause {side : Side} (h : p.Intact source read)
    (hpause : source side (read side) = some .pause) :
    p.Intact source (Function.update read side (read side + 1)) := by
  intro other
  by_cases hother : other = side
  · subst hother
    simpa using (h other).pause hpause
  · simpa [hother] using h other

/-! ## Whole runs -/

/-- Nothing has failed yet. -/
def Unbroken (events : List (Side × CopyEvent)) : Prop :=
  ∀ e ∈ events, e.2.error? = none

/-- The events have brought a failure: after some without one, the event of a side was the first. Both
sinks were told then, and whatever else is in the list has changed nothing. -/
structure BrokenOff (source : Side → SourceScript) (events : List (Side × CopyEvent))
    (e : ForwardError) (before : List (Side × CopyEvent)) (read : Side → Nat) (side : Side)
    (event : CopyEvent) : Prop where
  split : (before ++ [(side, event)]) <+: events
  unbroken : Unbroken before
  intact : (after before).Intact source read
  error : event.error? = some e
  failure : (after events).failure? = some e
  calls : (after events).calls =
    (after before).calls ++ [(.toBackend, .abort e), (.toClient, .abort e)]

/-- A failure breaks the run off. -/
theorem Intact.breakOff {events : List (Side × CopyEvent)} {side : Side} {event : CopyEvent} {n : Nat}
    {e : ForwardError} (hunbroken : Unbroken events) (h : (after events).Intact source read)
    (hcan : CanHappen (source side) (read side) ((after events).copy side).phase event n)
    (he : event.error? = some e) :
    BrokenOff source (events ++ [(side, event)]) e events read side event := by
  have hcopy := hcan.step_error he
  have hstep := step_of_failing (e := e) h.running (by rw [hcopy]; rfl)
  rw [hcopy] at hstep
  refine { split := List.prefix_refl _, unbroken := hunbroken, intact := h, error := he,
           failure := ?_, calls := ?_ }
  · have hside : ((after (events ++ [(side, event)])).copy side).failure? = some e := by
      rw [after_concat, hstep, copy_note, copy_note, copy_note, copy_setCopy, if_pos rfl]
      rfl
    -- the other copy has not failed
    have hother : ∀ other, other ≠ side →
        ((after (events ++ [(side, event)])).copy other).failure? = none := by
      intro other hne
      rw [after_concat, hstep, copy_note, copy_note, copy_note, copy_setCopy, if_neg hne]
      exact (h other).running
    cases side with
    | toBackend => exact (congrArg (Option.or · _) hside).trans rfl
    | toClient =>
      have hnone := hother .toBackend (by decide)
      exact (congrArg (Option.or · _) hnone).trans hside
  · rw [after_concat, hstep]
    simp [note]

/-- After the failure of a run nothing changes. -/
theorem BrokenOff.concat {events before : List (Side × CopyEvent)} {e : ForwardError} {side : Side}
    {event : CopyEvent} (h : BrokenOff source events e before read side event) (other : Side)
    (later : CopyEvent) :
    BrokenOff source (events ++ [(other, later)]) e before read side event := by
  have hstep : after (events ++ [(other, later)]) = after events := by
    rw [after_concat]
    exact step_of_failed (by rw [h.failure]; exact Option.some_ne_none e) other later
  exact { split := h.split.trans (List.prefix_append ..), unbroken := h.unbroken, intact := h.intact,
          error := h.error, failure := hstep ▸ h.failure, calls := hstep ▸ h.calls }

/-- In every run the pump is intact as long as nothing has failed, and is broken off by the first
failure. -/
theorem IsRun.intact_or_brokenOff {events : List (Side × CopyEvent)} (h : IsRun source events read) :
    (Unbroken events ∧ (after events).Intact source read) ∨
      ∃ e before read side event, BrokenOff source events e before read side event := by
  induction h with
  | start => exact .inl ⟨fun e he => (List.not_mem_nil he).elim, intact_start source⟩
  | @event events read event n _ side hcan ih =>
    rcases ih with ⟨hunbroken, hintact⟩ | ⟨e, before, read', side', event', hbroken⟩
    · cases he : event.error? with
      | some e => exact .inr ⟨e, events, read, side, event, hintact.breakOff hunbroken hcan he⟩
      | none =>
        left
        refine ⟨fun e hmem => ?_, after_concat events side event ▸ hintact.step hcan he⟩
        rcases List.mem_append.1 hmem with hmem | hmem
        · exact hunbroken e hmem
        · rw [List.mem_singleton.1 hmem]
          exact he
    · exact .inr ⟨e, before, read', side', event', hbroken.concat side event⟩
  | pause _ side hpause ih =>
    rcases ih with ⟨hunbroken, hintact⟩ | hbroken
    · exact .inl ⟨hunbroken, hintact.pause hpause⟩
    · exact .inr hbroken

/-! ## Results -/

theorem BrokenOff.callsTo {events before : List (Side × CopyEvent)} {e : ForwardError} {side : Side}
    {event : CopyEvent} (h : BrokenOff source events e before read side event) (other : Side) :
    (after events).callsTo other = (after before).callsTo other ++ [.abort e] := by
  unfold Pump.callsTo
  rw [h.calls]
  cases other <;> simp

/-- The frames in the calls of a sink whose side was intact, whatever it was told behind them. -/
theorem filterMap_frame?_calls (fs : List Frame) (phase : CopyPhase) (rest : List SinkCall)
    (hrest : ∀ c ∈ rest, c.frame? = none) :
    (fs.map SinkCall.send ++ closing phase ++ rest).filterMap SinkCall.frame? = fs := by
  have hsent : (fs.map SinkCall.send).filterMap SinkCall.frame? = fs := by
    rw [List.filterMap_map]
    exact List.filterMap_some
  have hclosing : (closing phase).filterMap SinkCall.frame? = [] := by cases phase <;> rfl
  rw [List.filterMap_append, List.filterMap_append, hsent, hclosing,
    List.filterMap_eq_nil_iff.2 hrest, List.append_nil, List.append_nil]

/-- In every run the calls of a sink are those of an intact side, and an abort behind them if there was
a failure. -/
theorem IsRun.callsTo_eq {events : List (Side × CopyEvent)} (h : IsRun source events read)
    (side : Side) :
    ∃ n c rest, SideIntact (source side) n c (((source side).frames n).map .send ++ closing c.phase) ∧
      (after events).callsTo side = ((source side).frames n).map .send ++ closing c.phase ++ rest ∧
      ∀ call ∈ rest, ∃ e, call = .abort e := by
  rcases h.intact_or_brokenOff with ⟨-, hintact⟩ | ⟨e, before, read', side', event, hbroken⟩
  · have hside := hintact side
    refine ⟨read side, (after events).copy side, [], hside.calls ▸ hside, ?_, ?_⟩
    · rw [List.append_nil, hside.calls]
    · exact fun call hcall => (List.not_mem_nil hcall).elim
  · have hside := hbroken.intact side
    refine ⟨read' side, (after before).copy side, [.abort e], hside.calls ▸ hside, ?_, ?_⟩
    · rw [hbroken.callsTo, hside.calls]
    · exact fun call hcall => ⟨e, List.mem_singleton.1 hcall⟩

theorem outcome?_eq_error {e : ForwardError} (h : p.outcome? = some (.error e)) :
    p.failure? = some e := by
  unfold outcome? at h
  split at h
  · next e' he =>
    obtain rfl := Except.error.inj (Option.some.inj h)
    exact he
  · split at h
    · cases Option.some.inj h
    · cases h

theorem outcome?_eq_ok {sent received : Nat} (h : p.outcome? = some (.ok (sent, received))) :
    p.failure? = none ∧ (∀ side, (p.copy side).phase = .finished) ∧
      (p.copy .toBackend).count = sent ∧ (p.copy .toClient).count = received := by
  unfold outcome? at h
  split at h
  · cases Option.some.inj h
  · next hnone =>
    split at h
    · next hfinished =>
      obtain ⟨hsent, hreceived⟩ := Prod.mk.inj (Except.ok.inj (Option.some.inj h))
      refine ⟨hnone, fun side => ?_, hsent, hreceived⟩
      cases side with
      | toBackend => exact hfinished.1
      | toClient => exact hfinished.2
    · cases h

/-- A sink was told everything: the frames of a source that has ended, so many of them, and that there
are no more. -/
def Completed (source : SourceScript) (calls : List SinkCall) (count : Nat) : Prop :=
  ∃ n, source n = none ∧ source.Flows n ∧ calls = (source.frames n).map .send ++ [.close] ∧
    (source.frames n).length = count

/-- A copy that is done has completed its sink. -/
theorem SideIntact.completed {source : SourceScript} {n : Nat} {c : Copy} {calls : List SinkCall}
    (h : SideIntact source n c calls) (hfinished : c.phase = .finished) :
    Completed source calls c.count := by
  have hcalls := h.calls
  have hcount := h.count
  rw [hfinished] at hcalls hcount
  exact ⟨n, h.ended hfinished, h.flows, hcalls, hcount.symm⟩

/-- **A pump copies faithfully**, in every run. Each sink is sent the frames that come first in its
source, in order and each once. The pump succeeds only if both sinks were told everything, and with the
numbers of their frames. It fails only with the first failure of either copy; then both sinks are
aborted with it, and nothing else happens from there on. A sink is closed only behind all frames of a
source that has ended. -/
theorem copies_faithfully {events : List (Side × CopyEvent)} (h : IsRun source events read) :
    (∀ side, ∃ n, (source side).Flows n ∧
        (after events).framesTo side = (source side).frames n) ∧
      (∀ sent received, (after events).outcome? = some (.ok (sent, received)) →
        Completed (source .toBackend) ((after events).callsTo .toBackend) sent ∧
          Completed (source .toClient) ((after events).callsTo .toClient) received) ∧
      (∀ e, (after events).outcome? = some (.error e) →
        ∃ before side event later, events = before ++ (side, event) :: later ∧ Unbroken before ∧
          event.error? = some e ∧
          (after events).calls =
            (after before).calls ++ [(.toBackend, .abort e), (.toClient, .abort e)]) ∧
      ∀ side, .close ∈ (after events).callsTo side →
        ∃ n rest, source side n = none ∧ (source side).Flows n ∧
          (after events).callsTo side = ((source side).frames n).map .send ++ .close :: rest ∧
          ∀ call ∈ rest, ∃ e, call = .abort e := by
  refine ⟨fun side => ?_, fun sent received hok => ?_, fun e herror => ?_, fun side hclose => ?_⟩
  · obtain ⟨n, c, rest, hside, hcalls, hrest⟩ := h.callsTo_eq side
    refine ⟨n, hside.flows, ?_⟩
    rw [framesTo, hcalls]
    refine filterMap_frame?_calls _ _ _ fun call hcall => ?_
    obtain ⟨e, rfl⟩ := hrest call hcall
    rfl
  · obtain ⟨hnone, hfinished, rfl, rfl⟩ := outcome?_eq_ok hok
    rcases h.intact_or_brokenOff with ⟨-, hintact⟩ | ⟨e, before, read', side, event, hbroken⟩
    · exact ⟨(hintact .toBackend).completed (hfinished .toBackend),
        (hintact .toClient).completed (hfinished .toClient)⟩
    · rw [hbroken.failure] at hnone
      cases hnone
  · have hfailure := outcome?_eq_error herror
    rcases h.intact_or_brokenOff with ⟨-, hintact⟩ | ⟨e', before, read', side, event, hbroken⟩
    · rw [hintact.running] at hfailure
      cases hfailure
    · obtain rfl : e' = e := Option.some.inj (hbroken.failure.symm.trans hfailure)
      obtain ⟨later, hlater⟩ := hbroken.split
      refine ⟨before, side, event, later, ?_, hbroken.unbroken, hbroken.error, hbroken.calls⟩
      rw [← hlater, List.append_assoc]
      rfl
  · obtain ⟨n, c, rest, hside, hcalls, hrest⟩ := h.callsTo_eq side
    -- a copy in any other phase has not closed its sink, and no abort is a close
    cases hphase : c.phase with
    | finished =>
      rw [hphase] at hcalls
      exact ⟨n, rest, hside.ended hphase, hside.flows, by rw [hcalls, List.append_assoc]; rfl, hrest⟩
    | _ =>
      rw [hcalls, hphase] at hclose
      simp only [closing, List.append_nil, List.mem_append, List.mem_map, reduceCtorEq, and_false,
        exists_false, false_or] at hclose
      obtain ⟨e, he⟩ := hrest _ hclose
      cases he

/-- The client sends a frame and ends; the backend sends one and fails when it has gone through. The sink
of the client's frames is closed first and aborted then. -/
theorem copies_faithfully_until_failure :
    let source : Side → SourceScript
      | .toBackend => fun n => [SourceItem.frame (.data [1]), .pause][n]?
      | .toClient => fun n => [SourceItem.frame (.data [2]), .failure (.stream "boom")][n]?
    let events : List (Side × CopyEvent) :=
      [(.toBackend, .delivered (.data [1])), (.toClient, .delivered (.data [2])),
        (.toBackend, .accepted), (.toBackend, .ended), (.toClient, .accepted),
        (.toClient, .broken (.stream "boom"))]
    (∃ read, IsRun source events read) ∧
      (after events).outcome? = some (.error (.stream "boom")) ∧
      ∃ n rest, source .toBackend n = none ∧ (source .toBackend).Flows n ∧
        (after events).callsTo .toBackend =
          ((source .toBackend).frames n).map .send ++ .close :: rest ∧
        ∀ call ∈ rest, ∃ e, call = .abort e := by
  intro source events
  have hrun : ∃ read, IsRun source events read :=
    ⟨_, .event (.event (.event (.pause (.event (.event (.event .start .toBackend (.delivered rfl))
      .toClient (.delivered rfl)) .toBackend .accepted) .toBackend rfl) .toBackend (.ended rfl))
      .toClient .accepted) .toClient (.broken rfl)⟩
  refine ⟨hrun, rfl, ?_⟩
  obtain ⟨read, hrun⟩ := hrun
  exact (copies_faithfully hrun).2.2.2 .toBackend (by decide)

end Pump

end TrafficGateway
