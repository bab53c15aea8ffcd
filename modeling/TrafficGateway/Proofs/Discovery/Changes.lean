import TrafficGateway.Proofs.Discovery.Watcher

/-!
# Which changes a poll notices

A poll compares what it has fetched with what was seen last. It compares sorted lists, and so it
notices exactly the changes that are more than another order, as long as the lists that it compares
with are sorted themselves. Every step of a watcher that writes such a list sorts it first
(`Watcher.Reachable.knowsSorted`).

A service that has changed becomes one event, of which everyone who is subscribed to the service is
told once. All else stays as it is, and a second poll finds nothing (`Discovery.poll_notices_changes`).

## Main definitions

* `Watcher.Reachable`: the watchers that come about.
* `Watcher.IsChange`: the events that a poll should bring.
* `Discovery.tellEach`: telling some listeners of an event each.
-/

namespace TrafficGateway

namespace Watcher

variable {α : Type} {w : Watcher α} {answer : String → FetchAnswer}

/-! ## What is known is sorted -/

/-- The watchers that come about when services are watched, subscribed to and polled in any order,
whatever is answered, and whoever subscribes or unsubscribes in between. -/
inductive Reachable : Watcher α → Prop where
  | start : Reachable {}
  | watch {w : Watcher α} (h : Reachable w) (service : String) : Reachable (w.watch service)
  | unwatch {w : Watcher α} (h : Reachable w) (service : String) : Reachable (w.unwatch service)
  | onChange {w : Watcher α} (h : Reachable w) (service : String) (callback : α)
      (answer : FetchAnswer) : Reachable (w.onChange service callback answer).2
  | poll {w : Watcher α} (h : Reachable w) (answer : String → FetchAnswer) :
      Reachable (w.poll answer).2
  | resubscribe {w : Watcher α} (h : Reachable w) (notifier : Notifier α) :
      Reachable { w with notifier }

/-- Every list that is known is sorted. -/
def KnowsSorted (w : Watcher α) : Prop :=
  ∀ s seen, w.known.get? s = some seen → Instance.sort seen = seen

theorem KnowsSorted.insert (h : w.KnowsSorted) (n : Notifier α) (s : String) {is : List Instance}
    (hsorted : Instance.sort is = is) : KnowsSorted ⟨n, w.known.insert s is⟩ := by
  intro t seen hseen
  rw [Dict.get?_insert] at hseen
  split at hseen
  · obtain rfl := Option.some.inj hseen
    exact hsorted
  · exact h t seen hseen

theorem KnowsSorted.watch (h : w.KnowsSorted) (s : String) : (w.watch s).KnowsSorted := by
  unfold Watcher.watch
  split
  · exact h
  · exact h.insert w.notifier s (List.mergeSort_nil ..)

theorem KnowsSorted.unwatch (h : w.KnowsSorted) (s : String) : (w.unwatch s).KnowsSorted := by
  intro t seen hseen
  rw [Watcher.unwatch, Dict.get?_erase] at hseen
  split at hseen
  · cases hseen
  · exact h t seen hseen

theorem KnowsSorted.onChange (h : w.KnowsSorted) (s : String) (callback : α) (a : FetchAnswer) :
    (w.onChange s callback a).2.KnowsSorted := by
  cases a with
  | error e => exact h
  | ok is => exact h.insert _ s Instance.sort_sort

theorem KnowsSorted.poll (h : w.KnowsSorted) : (w.poll answer).2.KnowsSorted := by
  intro s seen hseen
  rw [get?_poll] at hseen
  obtain ⟨before, hbefore, rfl⟩ := Option.map_eq_some_iff.1 hseen
  cases answer s with
  | error e => exact h s before hbefore
  | ok is => exact Instance.sort_sort

theorem Reachable.knowsSorted (h : w.Reachable) : w.KnowsSorted := by
  induction h with
  | start => intro s seen hseen; cases hseen
  | watch _ s ih => exact ih.watch s
  | unwatch _ s ih => exact ih.unwatch s
  | onChange _ s callback a ih => exact ih.onChange s callback a
  | poll _ answer ih => exact ih.poll
  | resubscribe _ n ih => exact ih

/-! ## Changes -/

/-- An event that a poll should bring: its service is watched and was fetched, the instances are not
those that are known in some order, and the event carries them sorted. -/
def IsChange (w : Watcher α) (answer : String → FetchAnswer) (e : ChangeEvent) : Prop :=
  e.service ∈ w.watched ∧ ∃ is seen, answer e.service = .ok is ∧
    w.known.get? e.service = some seen ∧ ¬is.Perm seen ∧ e.instances = Instance.sort is

/-- Among sorted lists, what is news is what has changed by more than its order. -/
theorem KnowsSorted.isNews_iff (h : w.KnowsSorted) {e : ChangeEvent} :
    w.IsNews answer e ↔ w.IsChange answer e := by
  have hsame : ∀ is seen, w.known.get? e.service = some seen →
      (Instance.sort is = seen ↔ is.Perm seen) := by
    intro is seen hseen
    rw [← Instance.sort_eq_sort_iff, h _ _ hseen]
  constructor
  · rintro ⟨is, seen, hok, hseen, hnew, hinstances⟩
    have hwatched : e.service ∈ w.watched := mem_watched.2 (by rw [hseen]; rfl)
    exact ⟨hwatched, is, seen, hok, hseen, fun hperm => hnew ((hsame is seen hseen).2 hperm),
      hinstances⟩
  · rintro ⟨-, is, seen, hok, hseen, hchanged, hinstances⟩
    exact ⟨is, seen, hok, hseen, fun heq => hchanged ((hsame is seen hseen).1 heq), hinstances⟩

/-- The events of some services come in the order of the services, and at most one for each. -/
theorem services_observeAll (ss : List String) (w : Watcher α) :
    ((observeAll answer ss w).1.map (·.service)).Sublist ss := by
  induction ss generalizing w with
  | nil => exact List.Sublist.slnil
  | cons s ss ih =>
    rw [observeAll_cons]
    cases hevent : (w.observe s (answer s)).1 with
    | none => exact (ih _).cons s
    | some e =>
      obtain ⟨hservice, -⟩ := (observe_eq_some_iff w answer s).1 hevent
      rw [Option.toList_some, List.singleton_append, List.map_cons, hservice]
      exact (ih _).cons_cons s

theorem nodup_watched (w : Watcher α) : w.watched.Nodup :=
  (List.mergeSort_perm _ _).nodup_iff.2 w.known.distinct

/-- A poll brings at most one event of a service. -/
theorem nodup_services_poll (w : Watcher α) (answer : String → FetchAnswer) :
    ((w.poll answer).1.map (·.service)).Nodup :=
  w.nodup_watched.sublist (services_observeAll _ _)

/-- What has not been fetched, or is what is known, stays known. -/
theorem KnowsSorted.get?_poll_of_unchanged (h : w.KnowsSorted) {s : String}
    (hsame : ∀ e, w.IsChange answer e → e.service ≠ s) :
    (w.poll answer).2.known.get? s = w.known.get? s := by
  rw [get?_poll]
  cases hseen : w.known.get? s with
  | none => rfl
  | some seen =>
    cases hanswer : answer s with
    | error e => rfl
    | ok is =>
      have hnews : ¬w.IsNews answer ⟨s, Instance.sort is⟩ :=
        fun hnews => hsame _ (h.isNews_iff.1 hnews) rfl
      have heq : Instance.sort is = seen := by
        by_contra hne
        exact hnews ⟨is, seen, hanswer, hseen, hne, rfl⟩
      rw [Option.map_some, refreshed, heq]

/-- After a poll the same answers are no news. -/
theorem poll_poll (w : Watcher α) (answer : String → FetchAnswer) :
    ((w.poll answer).2.poll answer).1 = [] := by
  rw [List.eq_nil_iff_forall_not_mem]
  intro e he
  obtain ⟨is, seen, hok, hseen, hnew, -⟩ := mem_poll.1 he
  rw [get?_poll, hok] at hseen
  obtain ⟨before, -, rfl⟩ := Option.map_eq_some_iff.1 hseen
  exact hnew rfl

end Watcher

/-! ## Who is told -/

/-- Nobody is handed an event twice. -/
theorem Notifier.nodup_handedOut {α : Type} (n : Notifier α) {events : List ChangeEvent}
    (h : (events.map (·.service)).Nodup) : (n.handedOut events).Nodup := by
  unfold Notifier.handedOut
  rw [List.nodup_flatMap]
  refine ⟨fun event _ => (n.nodup_subscribersOf event.service).map fun a b hab =>
    (Prod.mk.inj hab).1, ?_⟩
  refine (List.pairwise_map.1 h).imp fun {a b} hne => ?_
  -- Two events are those of two services.
  intro p hpa hpb
  obtain ⟨_, -, rfl⟩ := List.mem_map.1 hpa
  obtain ⟨_, -, heq⟩ := List.mem_map.1 hpb
  exact hne (congrArg (fun p => p.2.service) heq).symm

/-- Fetches that are counted do not change what a registry answers. -/
theorem Registry.answer_foldl_counted (ss : List String) (r : Registry) :
    (ss.foldl Registry.counted r).answer = r.answer := by
  induction ss generalizing r with
  | nil => rfl
  | cons s ss ih => exact ih (r.counted s)

namespace Discovery

/-- Tells some listeners of an event each, one after the other. -/
def tellEach : List (Subscription Listener × ChangeEvent) → Discovery → List Delivery × Discovery
  | [], d => ([], d)
  | (s, event) :: rest, d =>
    let (delivered, d) := d.tell event s
    let (more, d) := tellEach rest d
    (delivered ++ more, d)

theorem tellEach_append (ps qs : List (Subscription Listener × ChangeEvent)) (d : Discovery) :
    tellEach (ps ++ qs) d =
      ((tellEach ps d).1 ++ (tellEach qs (tellEach ps d).2).1, (tellEach qs (tellEach ps d).2).2) := by
  induction ps generalizing d with
  | nil => rfl
  | cons p ps ih =>
    simp only [List.cons_append, tellEach, ih, List.append_assoc]

theorem tellAll_eq_tellEach (event : ChangeEvent) (ss : List (Subscription Listener))
    (d : Discovery) : tellAll event ss d = tellEach (ss.map fun s => (s, event)) d := by
  induction ss generalizing d with
  | nil => rfl
  | cons s ss ih => simp only [tellAll, List.map_cons, tellEach, ih]

/-- Publishing some events is telling everyone what it is handed. -/
theorem publishAll_eq_tellEach (events : List ChangeEvent) (d : Discovery) :
    publishAll events d = tellEach (d.watcher.notifier.handedOut events) d := by
  induction events generalizing d with
  | nil => rfl
  | cons event events ih =>
    have hsame : (d.publish event).2.2.watcher = d.watcher := (tellAll_frame event _ d).1
    have hhanded : d.watcher.notifier.handedOut (event :: events) =
        (d.watcher.notifier.subscribersOf event.service).map (fun s => (s, event)) ++
          d.watcher.notifier.handedOut events := List.flatMap_cons
    show ((d.publish event).2.1 ++ (publishAll events (d.publish event).2.2).1,
      (publishAll events (d.publish event).2.2).2) = _
    rw [ih, hsame, hhanded, tellEach_append, ← tellAll_eq_tellEach]
    rfl

/-- **A poll notices exactly the changes.** Whatever a watcher has been through, the events of a poll
are the services that are watched and fetched with instances other than the known ones in some order,
each once, with the instances sorted; their number is returned. Everyone who is subscribed to the
service of an event is told of it once, and nobody else is told of anything. The list of a service
that has changed is known from then on; of any other service, fetched or not, what is known stays and
no subscriber is told anything. A second poll with the same answers finds nothing. -/
theorem poll_notices_changes (d : Discovery) (h : d.watcher.Reachable) :
    let w := d.watcher
    let events := (w.poll d.registry.answer).1
    let handed := w.notifier.handedOut events
    let after := d.poll.2.2
    ((∀ e, e ∈ events ↔ w.IsChange d.registry.answer e) ∧ (events.map (·.service)).Nodup ∧
      d.poll.1 = events.length) ∧
    ((d.poll.2.1, after) = tellEach handed
        { d with
          watcher := (w.poll d.registry.answer).2
          registry := w.watched.foldl Registry.counted d.registry } ∧
      d.poll.2.1 = handed.filterMap (fun p => p.1.delivery? p.2) ∧
      handed.Nodup ∧
      ∀ p, p ∈ handed ↔ p.2 ∈ events ∧ p.1 ∈ w.notifier.subscribersOf p.2.service) ∧
    (after.watcher.notifier = w.notifier ∧
      (∀ e ∈ events, after.watcher.known.get? e.service = some e.instances) ∧
      ∀ s, (∀ e, w.IsChange d.registry.answer e → e.service ≠ s) →
        after.watcher.known.get? s = w.known.get? s ∧ ∀ p ∈ handed, p.1.service ≠ s) ∧
    after.poll.1 = 0 := by
  intro w events handed after
  have hsorted := h.knowsSorted
  obtain ⟨hcount, hdelivered, hwatcher⟩ := d.poll_spec
  have hevents : ∀ e, e ∈ events ↔ w.IsChange d.registry.answer e :=
    fun e => Watcher.mem_poll.trans hsorted.isNews_iff
  have hhanded : ∀ p, p ∈ handed ↔ p.2 ∈ events ∧ p.1 ∈ w.notifier.subscribersOf p.2.service :=
    fun p => Notifier.mem_handedOut
  refine ⟨⟨hevents, w.nodup_services_poll _, hcount⟩, ⟨?_, hdelivered, ?_, hhanded⟩,
    ⟨?_, fun e he => ?_, fun s hs => ⟨?_, fun p hp hservice => ?_⟩⟩, ?_⟩
  · have htell := publishAll_eq_tellEach events
      { d with
        watcher := (w.poll d.registry.answer).2
        registry := w.watched.foldl Registry.counted d.registry }
    rw [Watcher.notifier_poll] at htell
    exact htell
  · exact w.notifier.nodup_handedOut (w.nodup_services_poll _)
  · rw [hwatcher, Watcher.notifier_poll]
  · obtain ⟨-, is, seen, hok, hseen, -, hinstances⟩ := (hevents e).1 he
    rw [hwatcher, Watcher.get?_poll, hok, hseen, hinstances]
    rfl
  · rw [hwatcher]
    exact hsorted.get?_poll_of_unchanged hs
  · obtain ⟨hevent, hsub⟩ := (hhanded p).1 hp
    have hown : p.1.service = p.2.service := (Notifier.mem_subscribersOf.1 hsub).2
    exact hs p.2 ((hevents _).1 hevent) (hown ▸ hservice)
  · -- The registry answers as before, since polls are only counted there.
    have hanswer : after.registry.answer = d.registry.answer := by
      have hregistry : after.registry = w.watched.foldl Registry.counted d.registry :=
        (publishAll_frame events _).2
      rw [hregistry, Registry.answer_foldl_counted]
    rw [after.poll_spec.1, hanswer, hwatcher, Watcher.poll_poll]
    rfl

/-- Of two watched services, one has moved and the other is only listed in another order: a poll tells
the subscriber of the first about it, and nothing of the other. -/
theorem poll_notices_move :
    let a : Instance := { address := "10.0.0.1", port := 80 }
    let b : Instance := { address := "10.0.0.2", port := 80 }
    let w : Watcher Listener := (({} : Watcher Listener).onChange "users" Listener.client (.ok [a])).2
    let d : Discovery :=
      { watcher := (w.onChange "orders" Listener.client (.ok [a, b])).2
        registry := .ofServices [("users", [b]), ("orders", [b, a])] }
    d.watcher.Reachable ∧ ⟨0, "users", [b]⟩ ∈ d.poll.2.1 ∧
      (∀ delivery ∈ d.poll.2.1, delivery.event.service ≠ "orders") ∧ d.poll.2.2.poll.1 = 0 := by
  intro a b w d
  have hreachable : d.watcher.Reachable :=
    (Watcher.Reachable.start.onChange "users" Listener.client (.ok [a])).onChange "orders"
      Listener.client (.ok [a, b])
  obtain ⟨⟨hevents, -, -⟩, ⟨-, hdelivered, -, hhanded⟩, -, hagain⟩ :=
    poll_notices_changes d hreachable
  refine ⟨hreachable, ?_, fun delivery hdelivery hservice => ?_, hagain⟩
  · have hmoved : d.watcher.IsChange d.registry.answer ⟨"users", [b]⟩ := by
      refine ⟨Watcher.mem_watched.2 rfl, [b], [a], rfl, ?_, by decide, ?_⟩
      · exact congrArg some (List.mergeSort_singleton a)
      · exact (List.mergeSort_singleton b).symm
    rw [hdelivered]
    refine List.mem_filterMap.2 ⟨(⟨0, "users", .client⟩, ⟨"users", [b]⟩), (hhanded _).2 ⟨?_, ?_⟩, rfl⟩
    · exact (hevents _).2 hmoved
    · decide
  · rw [hdelivered] at hdelivery
    obtain ⟨⟨sub, e⟩, hp, hnote⟩ := List.mem_filterMap.1 hdelivery
    obtain ⟨-, is, seen, hok, hseen, hchanged, -⟩ := (hevents _).1 ((hhanded _).1 hp).1
    have hevent : e = delivery.event := by
      unfold Subscription.delivery? at hnote
      split at hnote <;> cases hnote
      rfl
    rw [hevent, hservice] at hok hseen
    obtain rfl : [b, a] = is := Except.ok.inj hok
    obtain rfl : Instance.sort [a, b] = seen := Option.some.inj hseen
    exact hchanged ((List.Perm.swap a b []).trans (Instance.sort_perm [a, b]).symm)

end Discovery

end TrafficGateway
