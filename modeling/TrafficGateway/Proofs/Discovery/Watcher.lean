import Mathlib.Data.List.Nodup
import TrafficGateway.Discovery.System
import TrafficGateway.Proofs.Discovery.Notifier
import TrafficGateway.Proofs.Instance

/-!
# What a poll finds

A poll asks for every watched service and compares the answer with the list that was seen last. What
it tells and what it leaves behind do not depend on the order of the services: the events are the
lists that are news (`Watcher.mem_poll`), and every list that is known is refreshed
(`Watcher.get?_poll`).

Publishing reaches exactly the subscribers of the moment and changes neither the registry nor the
watcher.

## Main definitions

* `Watcher.IsNews`: an event that an answer brings.
* `Watcher.refreshed`: the list that is known after an answer.
* `Notifier.handedOut`: who is handed which event.
-/

namespace TrafficGateway

namespace Watcher

variable {α : Type} {w : Watcher α} {answer : String → FetchAnswer}

/-- Does the answer for the service of an event bring the event: are its instances others than those
seen last? -/
def IsNews (w : Watcher α) (answer : String → FetchAnswer) (e : ChangeEvent) : Prop :=
  ∃ is seen, answer e.service = .ok is ∧ w.known.get? e.service = some seen ∧
    Instance.sort is ≠ seen ∧ e.instances = Instance.sort is

/-- The list that is known of a service after an answer. -/
def refreshed (answer : FetchAnswer) (seen : List Instance) : List Instance :=
  match answer with
  | .ok is => Instance.sort is
  | .error _ => seen

theorem refreshed_refreshed (a : FetchAnswer) (seen : List Instance) :
    refreshed a (refreshed a seen) = refreshed a seen := by
  cases a <;> rfl

/-! ## One service -/

/-- A list that is news becomes an event and is known from then on; any other answer tells nothing
and leaves what is known. -/
theorem observe_cases (w : Watcher α) (s : String) (a : FetchAnswer) :
    (∃ is seen, a = .ok is ∧ w.known.get? s = some seen ∧ Instance.sort is ≠ seen ∧
      w.observe s a =
        (some ⟨s, Instance.sort is⟩, { w with known := w.known.insert s (Instance.sort is) })) ∨
    (w.observe s a = (none, w) ∧ (w.known.get? s).map (refreshed a) = w.known.get? s) := by
  cases hseen : w.known.get? s with
  | none => exact .inr ⟨by cases a <;> simp [observe, hseen], rfl⟩
  | some seen =>
    cases a with
    | error e => exact .inr ⟨by simp [observe], rfl⟩
    | ok is =>
      by_cases hnew : Instance.sort is = seen
      · exact .inr ⟨by simp [observe, hseen, hnew], by simp [refreshed, hnew]⟩
      · exact .inl ⟨is, seen, rfl, rfl, hnew, by simp [observe, hseen, hnew]⟩

@[simp] theorem notifier_observe (w : Watcher α) (s : String) (a : FetchAnswer) :
    (w.observe s a).2.notifier = w.notifier := by
  obtain ⟨is, seen, -, -, -, hobserve⟩ | ⟨hobserve, -⟩ := w.observe_cases s a <;> rw [hobserve]

theorem get?_observe (w : Watcher α) (s t : String) (a : FetchAnswer) :
    (w.observe s a).2.known.get? t =
      if s = t then (w.known.get? t).map (refreshed a) else w.known.get? t := by
  obtain ⟨is, seen, rfl, hseen, -, hobserve⟩ | ⟨hobserve, hsame⟩ := w.observe_cases s a
  · rw [hobserve, Dict.get?_insert]
    by_cases hst : s = t
    · subst hst
      rw [if_pos rfl, if_pos rfl, hseen]
      rfl
    · rw [if_neg hst, if_neg hst]
  · rw [hobserve]
    by_cases hst : s = t
    · subst hst
      rw [if_pos rfl, hsame]
    · rw [if_neg hst]

theorem observe_eq_some_iff {e : ChangeEvent} (w : Watcher α) (answer : String → FetchAnswer)
    (s : String) :
    (w.observe s (answer s)).1 = some e ↔ e.service = s ∧ w.IsNews answer e := by
  obtain ⟨is, seen, hok, hseen, hnew, hobserve⟩ | ⟨hobserve, hsame⟩ :=
    w.observe_cases s (answer s)
  · rw [hobserve]
    constructor
    · rintro ⟨⟩
      exact ⟨rfl, is, seen, hok, hseen, hnew, rfl⟩
    · rintro ⟨rfl, is', seen', hok', -, -, hinstances⟩
      obtain rfl : is = is' := Except.ok.inj (hok.symm.trans hok')
      show some _ = some e
      rw [← hinstances]
  · rw [hobserve]
    constructor
    · rintro ⟨⟩
    · rintro ⟨rfl, is, seen, hok, hseen, hnew, -⟩
      rw [hok, hseen] at hsame
      exact absurd (Option.some.inj hsame) hnew

/-! ## All services -/

theorem observeAll_cons (answer : String → FetchAnswer) (s : String) (ss : List String)
    (w : Watcher α) :
    observeAll answer (s :: ss) w =
      ((w.observe s (answer s)).1.toList ++ (observeAll answer ss (w.observe s (answer s)).2).1,
        (observeAll answer ss (w.observe s (answer s)).2).2) := rfl

@[simp] theorem notifier_observeAll (ss : List String) (w : Watcher α) :
    (observeAll answer ss w).2.notifier = w.notifier := by
  induction ss generalizing w with
  | nil => rfl
  | cons s ss ih => rw [observeAll_cons, ih, notifier_observe]

theorem get?_observeAll (ss : List String) (w : Watcher α) (t : String) :
    (observeAll answer ss w).2.known.get? t =
      if t ∈ ss then (w.known.get? t).map (refreshed (answer t)) else w.known.get? t := by
  induction ss generalizing w with
  | nil => simp [observeAll]
  | cons s ss ih =>
    rw [observeAll_cons, ih, get?_observe]
    by_cases hst : s = t
    · subst hst
      -- A second answer of the same kind changes nothing.
      by_cases hmem : s ∈ ss
      · simp [hmem, Function.comp_def, refreshed_refreshed]
      · simp [hmem]
    · have hts : ¬t = s := fun h => hst h.symm
      simp [hst, hts]

/-- What is news is news once, as it is known from then on. -/
theorem isNews_observe {e : ChangeEvent} (w : Watcher α) (s : String) :
    (w.observe s (answer s)).2.IsNews answer e ↔ e.service ≠ s ∧ w.IsNews answer e := by
  unfold IsNews
  rw [get?_observe]
  by_cases hs : s = e.service
  · subst hs
    simp only [if_pos]
    constructor
    · rintro ⟨is, seen, hok, hseen, hnew, -⟩
      rw [hok] at hseen
      obtain ⟨before, -, rfl⟩ := Option.map_eq_some_iff.1 hseen
      exact absurd rfl hnew
    · rintro ⟨hne, -⟩
      exact absurd rfl hne
  · have hne : e.service ≠ s := fun h => hs h.symm
    simp [hs, hne]

theorem mem_observeAll {e : ChangeEvent} (ss : List String) (w : Watcher α) :
    e ∈ (observeAll answer ss w).1 ↔ e.service ∈ ss ∧ w.IsNews answer e := by
  induction ss generalizing w with
  | nil => simp [observeAll]
  | cons s ss ih =>
    rw [observeAll_cons, List.mem_append, Option.mem_toList, observe_eq_some_iff, ih, isNews_observe,
      List.mem_cons]
    by_cases hs : e.service = s <;> simp [hs]

/-! ## A poll -/

theorem mem_watched {s : String} : s ∈ w.watched ↔ (w.known.get? s).isSome := by
  rw [watched, (List.mergeSort_perm _ _).mem_iff, ← Dict.contains_eq_isSome, Dict.contains,
    List.contains_iff_mem]

@[simp] theorem notifier_poll : (w.poll answer).2.notifier = w.notifier :=
  notifier_observeAll _ _

/-- A poll refreshes every list that is known. -/
theorem get?_poll (s : String) :
    (w.poll answer).2.known.get? s = (w.known.get? s).map (refreshed (answer s)) := by
  unfold poll
  rw [get?_observeAll]
  by_cases hs : s ∈ w.watched
  · rw [if_pos hs]
  · have hnone : w.known.get? s = none := by simpa [mem_watched] using hs
    rw [if_neg hs, hnone]
    rfl

/-- The events of a poll are the lists that are news. -/
theorem mem_poll {e : ChangeEvent} : e ∈ (w.poll answer).1 ↔ w.IsNews answer e := by
  unfold poll
  rw [mem_observeAll, and_iff_right_iff_imp]
  rintro ⟨is, seen, -, hseen, -⟩
  rw [mem_watched, hseen]
  rfl

end Watcher

/-! ## Publishing -/

/-- Who is handed which of some events, in order. -/
def Notifier.handedOut {α : Type} (n : Notifier α) (events : List ChangeEvent) :
    List (Subscription α × ChangeEvent) :=
  events.flatMap fun event => (n.subscribersOf event.service).map fun s => (s, event)

/-- What a client notes when it is handed an event. A cache notes nothing. -/
def Subscription.delivery? (s : Subscription Listener) (event : ChangeEvent) : Option Delivery :=
  match s.callback with
  | .client => some ⟨s.id, event⟩
  | .cache _ => none

theorem Notifier.mem_handedOut {α : Type} {n : Notifier α} {events : List ChangeEvent}
    {p : Subscription α × ChangeEvent} :
    p ∈ n.handedOut events ↔ p.2 ∈ events ∧ p.1 ∈ n.subscribersOf p.2.service := by
  unfold Notifier.handedOut
  rw [List.mem_flatMap]
  constructor
  · rintro ⟨e, he, hp⟩
    obtain ⟨sub, hsub, rfl⟩ := List.mem_map.1 hp
    exact ⟨he, hsub⟩
  · rintro ⟨he, hsub⟩
    exact ⟨p.2, he, List.mem_map.2 ⟨p.1, hsub, rfl⟩⟩

namespace Discovery

variable {d : Discovery}

theorem tell_frame (d : Discovery) (event : ChangeEvent) (s : Subscription Listener) :
    (d.tell event s).2.watcher = d.watcher ∧ (d.tell event s).2.registry = d.registry := by
  unfold tell
  split
  · exact ⟨rfl, rfl⟩
  · split
    · exact ⟨rfl, rfl⟩
    · split <;> exact ⟨rfl, rfl⟩

theorem tell_delivered (d : Discovery) (event : ChangeEvent) (s : Subscription Listener) :
    (d.tell event s).1 = (s.delivery? event).toList := by
  unfold tell Subscription.delivery?
  cases s.callback with
  | client => rfl
  | cache kind =>
    dsimp only
    split
    · rfl
    · split <;> rfl

theorem tellAll_frame (event : ChangeEvent) (ss : List (Subscription Listener)) (d : Discovery) :
    (tellAll event ss d).2.watcher = d.watcher ∧ (tellAll event ss d).2.registry = d.registry := by
  induction ss generalizing d with
  | nil => exact ⟨rfl, rfl⟩
  | cons s ss ih =>
    have hs := d.tell_frame event s
    obtain ⟨hwatcher, hregistry⟩ := ih (d.tell event s).2
    exact ⟨hwatcher.trans hs.1, hregistry.trans hs.2⟩

theorem tellAll_delivered (event : ChangeEvent) (ss : List (Subscription Listener))
    (d : Discovery) :
    (tellAll event ss d).1 = ss.filterMap fun s => s.delivery? event := by
  induction ss generalizing d with
  | nil => rfl
  | cons s ss ih =>
    show (d.tell event s).1 ++ (tellAll event ss (d.tell event s).2).1 = _
    rw [tell_delivered, ih, List.filterMap_cons]
    cases s.delivery? event <;> rfl

/-- Publishing changes neither the registry nor the watcher. -/
theorem publishAll_frame (events : List ChangeEvent) (d : Discovery) :
    (publishAll events d).2.watcher = d.watcher ∧
      (publishAll events d).2.registry = d.registry := by
  induction events generalizing d with
  | nil => exact ⟨rfl, rfl⟩
  | cons event events ih =>
    have hevent := tellAll_frame event (d.watcher.notifier.subscribersOf event.service) d
    obtain ⟨hwatcher, hregistry⟩ := ih (d.publish event).2.2
    exact ⟨hwatcher.trans hevent.1, hregistry.trans hevent.2⟩

/-- What clients note of some events is their part of what is handed out. -/
theorem publishAll_delivered (events : List ChangeEvent) (d : Discovery) :
    (publishAll events d).1 =
      (d.watcher.notifier.handedOut events).filterMap fun p => p.1.delivery? p.2 := by
  induction events generalizing d with
  | nil => rfl
  | cons event events ih =>
    have hframe := tellAll_frame event (d.watcher.notifier.subscribersOf event.service) d
    have hsame : (d.publish event).2.2.watcher = d.watcher := hframe.1
    show (tellAll event (d.watcher.notifier.subscribersOf event.service) d).1 ++
      (publishAll events (d.publish event).2.2).1 = _
    rw [tellAll_delivered, ih, hsame]
    simp [Notifier.handedOut, List.filterMap_append, List.filterMap_map]

/-! ## Subscribing and polling -/

/-- If the first fetch fails, nothing comes of a subscription but the fetch. -/
theorem onChange_error {s : String} {e : BackendError} (l : Listener)
    (hfail : d.registry.answer s = .error e) :
    d.onChange s l = (.error e, [], { d with registry := d.registry.counted s }) := by
  simp [onChange, fetch, Registry.fetch, Watcher.onChange, hfail, Notifier.withdraw_subscribe]

/-- A new subscriber is handed what was fetched, and this is what was seen last. -/
theorem onChange_ok {s : String} {is : List Instance} (l : Listener)
    (hok : d.registry.answer s = .ok is) :
    let id := d.watcher.notifier.nextId
    (d.onChange s l).1 = .ok id ∧
      (d.onChange s l).2.1 =
        (Subscription.delivery? ⟨id, s, l⟩ ⟨s, Instance.sort is⟩).toList ∧
      (d.onChange s l).2.2.watcher =
        { notifier := d.watcher.notifier.subscribe s l
          known := d.watcher.known.insert s (Instance.sort is) } ∧
      (d.onChange s l).2.2.registry = d.registry.counted s := by
  simp [onChange, fetch, Registry.fetch, Watcher.onChange, hok, tell_delivered, tell_frame]

/-- A poll hands its events to the subscribers of the moment, and refreshes what is known. -/
theorem poll_spec (d : Discovery) :
    let events := (d.watcher.poll d.registry.answer).1
    d.poll.1 = events.length ∧
      d.poll.2.1 =
        (d.watcher.notifier.handedOut events).filterMap (fun p => p.1.delivery? p.2) ∧
      d.poll.2.2.watcher = (d.watcher.poll d.registry.answer).2 := by
  refine ⟨rfl, ?_, (publishAll_frame _ _).1⟩
  refine (publishAll_delivered _ _).trans ?_
  show ((d.watcher.poll d.registry.answer).2.notifier.handedOut _).filterMap _ = _
  rw [Watcher.notifier_poll]
  rfl

end Discovery

end TrafficGateway
