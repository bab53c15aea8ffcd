import TrafficGateway.Proofs.Discovery.Watcher

/-!
# Which subscribers are up to date

A subscriber is handed the instances of its service when it subscribes, and again whenever a poll
finds others than those that were seen last. What was seen last is one list for all subscribers of a
service, and two steps replace it without a word to those who are there already: a new subscription,
whose fetch only the new subscriber is handed, and watching a service anew, which starts from no
instances.

So a subscriber can miss a change. After a poll it is up to date exactly if it was before, or if the
answer of the registry is news to the watcher; and it always is in a run in which no step is silent
(`upToDate_poll`).

## Main definitions

* `WatchStep`, `WatchHistory`: the steps of a registry and its watcher, and what is known of a run.
* `WatchHistory.UpToDate`: a subscriber was handed these instances last, in whatever order.
* `WatchHistory.Silent`: a step that others than the new subscriber should hear of.
* `WatchHistory.Faithful`: the watcher knows what was seen last.
* `WatchHistory.InStep`: every subscriber was handed what was seen last.
-/

namespace TrafficGateway

/-- A step of a registry, of its watcher, or of someone who subscribes. A cache that follows the
watcher is a listener like a client. -/
inductive WatchStep where
  | register (service : String) (instances : List Instance)
  | update (service : String) (instances : List Instance)
  | deregister (service : String)
  | setOutage (service : String) (error : Option BackendError)
  | watch (service : String)
  | unwatch (service : String)
  | onChange (service : String) (listener : Listener)
  | unsubscribe (id : Nat)
  | poll

/-- The state of a discovery, who was handed which event so far, what clients have noted of it, and
the instances that were seen last of the services that are watched. -/
structure WatchHistory where
  state : Discovery
  handed : List (Subscription Listener × ChangeEvent) := []
  delivered : List Delivery := []
  seen : String → Option (List Instance) := fun _ => none

namespace WatchHistory

/-- A run begins with any registry, which nobody watches yet. -/
def begin (d : Discovery) : WatchHistory where
  state := { d with watcher := {} }

/-- Replaces the registry. -/
def withRegistry (h : WatchHistory) (registry : Registry) : WatchHistory :=
  { h with state := { h.state with registry } }

/-- Replaces the watcher. -/
def withWatcher (h : WatchHistory) (watcher : Watcher Listener) : WatchHistory :=
  { h with state := { h.state with watcher } }

/-- Replaces what was seen last of a service. -/
def see (h : WatchHistory) (service : String) (instances : Option (List Instance)) :
    WatchHistory :=
  { h with seen := fun s => if service = s then instances else h.seen s }

/-- What a new subscriber is handed at once. -/
def greeting (h : WatchHistory) (service : String) (listener : Listener) :
    List (Subscription Listener × ChangeEvent) :=
  match (h.state.watcher.onChange service listener (h.state.registry.answer service)).1 with
  | .ok (id, event) => [(⟨id, service, listener⟩, event)]
  | .error _ => []

/-- The events that a poll brings. -/
def news (h : WatchHistory) : List ChangeEvent :=
  (h.state.watcher.poll h.state.registry.answer).1

/-- The history after a step. -/
def step (h : WatchHistory) : WatchStep → WatchHistory
  | .register s is => h.withRegistry (h.state.registry.register s is)
  | .update s is =>
    h.withRegistry ((h.state.registry.update s is).toOption.getD h.state.registry)
  | .deregister s => h.withRegistry (h.state.registry.deregister s)
  | .setOutage s error => h.withRegistry (h.state.registry.setOutage s error)
  | .watch s => (h.withWatcher (h.state.watcher.watch s)).see s ((h.seen s).or (some []))
  | .unwatch s => (h.withWatcher (h.state.watcher.unwatch s)).see s none
  | .unsubscribe id => { h with state := h.state.unsubscribe id }
  | .onChange s listener =>
    let h' : WatchHistory :=
      { h with
        state := (h.state.onChange s listener).2.2
        handed := h.handed ++ h.greeting s listener
        delivered := h.delivered ++ (h.state.onChange s listener).2.1 }
    h'.see s ((h.state.registry.answer s).toOption.or (h.seen s))
  | .poll =>
    { state := h.state.poll.2.2
      handed := h.handed ++ h.state.watcher.notifier.handedOut h.news
      delivered := h.delivered ++ h.state.poll.2.1
      seen := fun s => (h.seen s).map fun before => (h.state.registry.answer s).toOption.getD before }

/-- The history after some steps. -/
def after (h : WatchHistory) (steps : List WatchStep) : WatchHistory :=
  steps.foldl step h

/-- The subscriptions of a service that are in force. -/
def subscribers (h : WatchHistory) (service : String) : List (Subscription Listener) :=
  h.state.watcher.notifier.subscribersOf service

/-- The instances that were handed out last through a subscription. -/
def lastOf (handed : List (Subscription Listener × ChangeEvent)) (id : Nat) :
    Option (List Instance) :=
  (handed.reverse.find? fun p => p.1.id == id).map (·.2.instances)

/-- Are these the instances that a subscriber was handed last, in whatever order? -/
def UpToDate (h : WatchHistory) (id : Nat) (instances : List Instance) : Prop :=
  ∃ last, lastOf h.handed id = some last ∧ last.Perm instances

/-- Are these the instances of a service that were seen last, in whatever order? -/
def HasSeen (h : WatchHistory) (service : String) (instances : List Instance) : Prop :=
  ∃ last, h.seen service = some last ∧ last.Perm instances

/-- Does a step replace what was seen last of a service without handing it to a subscriber who was
handed something else? -/
def Silent (h : WatchHistory) : WatchStep → Prop
  | .onChange s _ =>
    ∃ is, h.state.registry.answer s = .ok is ∧ ∃ sub ∈ h.subscribers s, ¬h.UpToDate sub.id is
  | .watch s => h.seen s = none ∧ ∃ sub ∈ h.subscribers s, ¬h.UpToDate sub.id []
  | _ => False

/-- A run without silent steps. -/
def Loud (h : WatchHistory) : List WatchStep → Prop
  | [] => True
  | s :: steps => ¬h.Silent s ∧ (h.step s).Loud steps

/-- The watcher knows what was seen last, and clients have noted their part of what was handed out. -/
structure Faithful (h : WatchHistory) : Prop where
  known : ∀ s, h.state.watcher.known.get? s = (h.seen s).map Instance.sort
  delivered : h.delivered = h.handed.filterMap fun p => p.1.delivery? p.2

/-- Every subscriber was handed what was seen last of its service. -/
def InStep (h : WatchHistory) : Prop :=
  ∀ s seen, h.seen s = some seen → ∀ sub ∈ h.subscribers s, h.UpToDate sub.id seen

variable {h : WatchHistory} {s : String} {sub : Subscription Listener}

/-! ## What was handed out last -/

theorem lastOf_append (old new : List (Subscription Listener × ChangeEvent)) (id : Nat) :
    lastOf (old ++ new) id = (lastOf new id).or (lastOf old id) := by
  unfold lastOf
  rw [List.reverse_append, List.find?_append, Option.map_or]

/-- Someone to whom nothing more was handed keeps what it has. -/
theorem lastOf_append_of_forall {old new : List (Subscription Listener × ChangeEvent)} {id : Nat}
    (hnew : ∀ p ∈ new, p.1.id ≠ id) : lastOf (old ++ new) id = lastOf old id := by
  have hnone : lastOf new id = none := by
    unfold lastOf
    rw [Option.map_eq_none_iff, List.find?_eq_none]
    intro p hp
    simpa using hnew p (List.mem_reverse.1 hp)
  rw [lastOf_append, hnone, Option.none_or]

/-- Someone to whom only these instances were handed has them now. -/
theorem lastOf_append_of_mem {old new : List (Subscription Listener × ChangeEvent)} {id : Nat}
    {is : List Instance} (hmem : ∃ p ∈ new, p.1.id = id)
    (hnew : ∀ p ∈ new, p.1.id = id → p.2.instances = is) : lastOf (old ++ new) id = some is := by
  have hsome : lastOf new id = some is := by
    unfold lastOf
    cases hfind : new.reverse.find? fun p => p.1.id == id with
    | none =>
      obtain ⟨p, hp, hid⟩ := hmem
      have hne := List.find?_eq_none.1 hfind p (List.mem_reverse.2 hp)
      exact absurd (by simpa using hid) hne
    | some p =>
      have hp := List.mem_reverse.1 (List.mem_of_find?_eq_some hfind)
      have hid : p.1.id = id := by simpa using List.find?_some hfind
      rw [Option.map_some, hnew p hp hid]
  rw [lastOf_append, hsome, Option.some_or]

theorem mem_subscribers :
    sub ∈ h.subscribers s ↔ sub ∈ h.state.watcher.notifier.subscriptions ∧ sub.service = s :=
  Notifier.mem_subscribersOf

/-! ## The watcher knows what was seen last -/

theorem faithful_begin (d : Discovery) : (begin d).Faithful :=
  ⟨fun _ => rfl, rfl⟩

theorem greeting_ok {is : List Instance} (l : Listener) (hok : h.state.registry.answer s = .ok is) :
    h.greeting s l =
      [(⟨h.state.watcher.notifier.nextId, s, l⟩, ⟨s, Instance.sort is⟩)] := by
  simp [greeting, Watcher.onChange, hok]

theorem step_onChange_error {e : BackendError} (l : Listener)
    (hfail : h.state.registry.answer s = .error e) :
    h.step (.onChange s l) = h.withRegistry (h.state.registry.counted s) := by
  have hgreeting : h.greeting s l = [] := by simp [greeting, Watcher.onChange, hfail]
  have hseen : (fun t => if s = t then h.seen s else h.seen t) = h.seen := by
    funext t
    split
    · next hst => rw [hst]
    · rfl
  simp only [step, Discovery.onChange_error l hfail, hgreeting, List.append_nil, hfail, see,
    Except.toOption, Option.none_or, hseen, withRegistry]

theorem Faithful.watch (hf : h.Faithful) (s : String) : (h.step (.watch s)).Faithful := by
  refine ⟨fun t => ?_, hf.delivered⟩
  show (h.state.watcher.watch s).known.get? t =
    (if s = t then (h.seen s).or (some []) else h.seen t).map Instance.sort
  have hs := hf.known s
  have ht := hf.known t
  unfold Watcher.watch
  rw [Dict.contains_eq_isSome, hs]
  cases hseen : h.seen s with
  | none =>
    rw [Option.map_none, Option.isSome_none, if_neg Bool.false_ne_true, Dict.get?_insert, ht]
    split <;> simp [Instance.sort]
  | some seen =>
    rw [Option.map_some, Option.isSome_some, if_pos rfl, ht]
    split
    · next hst => rw [← hst, hseen]; rfl
    · rfl

theorem Faithful.unwatch (hf : h.Faithful) (s : String) : (h.step (.unwatch s)).Faithful := by
  refine ⟨fun t => ?_, hf.delivered⟩
  show (h.state.watcher.known.erase s).get? t = (if s = t then none else h.seen t).map Instance.sort
  rw [Dict.get?_erase, hf.known t]
  split <;> rfl

theorem Faithful.onChange (hf : h.Faithful) (s : String) (l : Listener) :
    (h.step (.onChange s l)).Faithful := by
  cases hanswer : h.state.registry.answer s with
  | error e =>
    rw [step_onChange_error l hanswer]
    exact ⟨hf.known, hf.delivered⟩
  | ok is =>
    obtain ⟨-, hdelivered, hwatcher, -⟩ := Discovery.onChange_ok l hanswer
    refine ⟨fun t => ?_, ?_⟩
    · show (h.state.onChange s l).2.2.watcher.known.get? t =
        (if s = t then (h.state.registry.answer s).toOption.or (h.seen s) else h.seen t).map
          Instance.sort
      rw [hwatcher, Dict.get?_insert, hf.known t, hanswer]
      split <;> rfl
    · show h.delivered ++ (h.state.onChange s l).2.1 =
        (h.handed ++ h.greeting s l).filterMap fun p => p.1.delivery? p.2
      rw [hdelivered, greeting_ok l hanswer, List.filterMap_append, ← hf.delivered]
      cases l <;> rfl

theorem Faithful.poll (hf : h.Faithful) : (h.step .poll).Faithful := by
  obtain ⟨-, hdelivered, hwatcher⟩ := h.state.poll_spec
  refine ⟨fun s => ?_, ?_⟩
  · show h.state.poll.2.2.watcher.known.get? s =
      ((h.seen s).map fun before => (h.state.registry.answer s).toOption.getD before).map
        Instance.sort
    rw [hwatcher, Watcher.get?_poll, hf.known]
    cases h.seen s with
    | none => rfl
    | some before => cases h.state.registry.answer s <;> rfl
  · show h.delivered ++ h.state.poll.2.1 =
      (h.handed ++ h.state.watcher.notifier.handedOut h.news).filterMap fun p => p.1.delivery? p.2
    rw [hdelivered, List.filterMap_append, ← hf.delivered]
    rfl

theorem Faithful.step (hf : h.Faithful) (s : WatchStep) : (h.step s).Faithful := by
  cases s with
  | register s is => exact ⟨hf.known, hf.delivered⟩
  | update s is => exact ⟨hf.known, hf.delivered⟩
  | deregister s => exact ⟨hf.known, hf.delivered⟩
  | setOutage s error => exact ⟨hf.known, hf.delivered⟩
  | unsubscribe id => exact ⟨hf.known, hf.delivered⟩
  | watch s => exact hf.watch s
  | unwatch s => exact hf.unwatch s
  | onChange s l => exact hf.onChange s l
  | poll => exact hf.poll

theorem Faithful.after (hf : h.Faithful) (steps : List WatchStep) : (h.after steps).Faithful :=
  List.foldlRecOn steps WatchHistory.step hf fun _ hf s _ => hf.step s

/-! ## What a poll hands out -/

/-- A poll brings an event of a service exactly if the answer is not what was seen last. -/
theorem Faithful.mem_news (hf : h.Faithful) {e : ChangeEvent} :
    e ∈ h.news ↔ ∃ is, h.state.registry.answer e.service = .ok is ∧
      (h.seen e.service).isSome ∧ ¬h.HasSeen e.service is ∧ e.instances = Instance.sort is := by
  rw [news, Watcher.mem_poll]
  unfold Watcher.IsNews HasSeen
  rw [hf.known]
  constructor
  · rintro ⟨is, seen, hok, hknown, hnew, hinstances⟩
    obtain ⟨before, hbefore, rfl⟩ := Option.map_eq_some_iff.1 hknown
    refine ⟨is, hok, by simp [hbefore], ?_, hinstances⟩
    rintro ⟨last, hlast, hperm⟩
    obtain rfl : before = last := Option.some.inj (hbefore.symm.trans hlast)
    exact hnew (Instance.sort_eq_sort_iff.2 hperm.symm)
  · rintro ⟨is, hok, hsome, hnew, hinstances⟩
    obtain ⟨before, hbefore⟩ := Option.isSome_iff_exists.1 hsome
    refine ⟨is, Instance.sort before, hok, by rw [hbefore]; rfl, fun hsame => hnew ?_, hinstances⟩
    exact ⟨before, hbefore, (Instance.sort_eq_sort_iff.1 hsame).symm⟩

/-- A subscriber can only be handed events of its own service. -/
theorem service_of_handedOut (hsub : sub ∈ h.subscribers s) {p : Subscription Listener × ChangeEvent}
    (hp : p ∈ h.state.watcher.notifier.handedOut h.news) (hid : p.1.id = sub.id) :
    p.2 ∈ h.news ∧ p.2.service = s := by
  obtain ⟨hnews, htarget⟩ := Notifier.mem_handedOut.1 hp
  rw [mem_subscribers] at hsub
  have htarget' : p.1 ∈ h.subscribers p.2.service := htarget
  rw [mem_subscribers] at htarget'
  have hsame : p.1 = sub := Notifier.eq_of_id htarget'.1 hsub.1 hid
  exact ⟨hnews, by rw [← htarget'.2, hsame, hsub.2]⟩

/-- Without news of its service a subscriber is handed nothing. -/
theorem lastOf_poll_of_no_news (hsub : sub ∈ h.subscribers s)
    (hnone : ∀ e ∈ h.news, e.service ≠ s) :
    lastOf (h.step .poll).handed sub.id = lastOf h.handed sub.id := by
  refine lastOf_append_of_forall fun p hp hid => ?_
  obtain ⟨hnews, hservice⟩ := service_of_handedOut hsub hp hid
  exact hnone p.2 hnews hservice

/-- An answer that is news is handed to every subscriber of the service. -/
theorem Faithful.lastOf_poll_of_news (hf : h.Faithful) (hsub : sub ∈ h.subscribers s)
    {is : List Instance} (hok : h.state.registry.answer s = .ok is) (hsome : (h.seen s).isSome)
    (hnew : ¬h.HasSeen s is) :
    lastOf (h.step .poll).handed sub.id = some (Instance.sort is) := by
  refine lastOf_append_of_mem ⟨(sub, ⟨s, Instance.sort is⟩), ?_, rfl⟩ fun p hp hid => ?_
  · exact Notifier.mem_handedOut.2 ⟨hf.mem_news.2 ⟨is, hok, hsome, hnew, rfl⟩, hsub⟩
  · obtain ⟨hnews, hservice⟩ := service_of_handedOut hsub hp hid
    obtain ⟨is', hok', -, -, hinstances⟩ := hf.mem_news.1 hnews
    rw [hservice] at hok'
    rw [hinstances, Except.ok.inj (hok.symm.trans hok')]

/-- After a poll a subscriber is up to date exactly if it was before, or if the answer was news. -/
theorem Faithful.upToDate_poll_iff (hf : h.Faithful) (hsub : sub ∈ h.subscribers s)
    {is : List Instance} (hok : h.state.registry.answer s = .ok is) (hsome : (h.seen s).isSome) :
    (h.step .poll).UpToDate sub.id is ↔ h.UpToDate sub.id is ∨ ¬h.HasSeen s is := by
  by_cases hnew : h.HasSeen s is
  · have hnone : ∀ e ∈ h.news, e.service ≠ s := by
      rintro e he rfl
      obtain ⟨is', hok', -, hnot, -⟩ := hf.mem_news.1 he
      rw [Except.ok.inj (hok.symm.trans hok')] at hnew
      exact hnot hnew
    unfold UpToDate
    rw [lastOf_poll_of_no_news hsub hnone]
    exact (or_iff_left (not_not_intro hnew)).symm
  · have hlast := hf.lastOf_poll_of_news hsub hok hsome hnew
    exact iff_of_true ⟨_, hlast, Instance.sort_perm is⟩ (.inr hnew)

/-! ## Runs without silent steps -/

theorem UpToDate.perm {id : Nat} {is js : List Instance} (hu : h.UpToDate id is)
    (hperm : is.Perm js) : h.UpToDate id js := by
  obtain ⟨last, hlast, hlastPerm⟩ := hu
  exact ⟨last, hlast, hlastPerm.trans hperm⟩

theorem inStep_begin (d : Discovery) : (begin d).InStep := by
  intro s seen hseen
  cases hseen

/-- Nobody gets out of step who is handed nothing while nothing more is seen. -/
theorem InStep.of_frame (hi : h.InStep) {h' : WatchHistory} (hhanded : h'.handed = h.handed)
    (hseen : ∀ s seen, h'.seen s = some seen → h.seen s = some seen)
    (hsubs : ∀ s, ∀ sub ∈ h'.subscribers s, sub ∈ h.subscribers s) : h'.InStep := by
  intro s seen hs sub hsub
  unfold UpToDate
  rw [hhanded]
  exact hi s seen (hseen s seen hs) sub (hsubs s sub hsub)

theorem InStep.unsubscribe (hi : h.InStep) (id : Nat) : (h.step (.unsubscribe id)).InStep := by
  refine hi.of_frame rfl (fun _ _ hseen => hseen) fun s sub hsub => ?_
  rw [mem_subscribers] at hsub ⊢
  exact ⟨(Notifier.mem_unsubscribe.1 hsub.1).1, hsub.2⟩

theorem InStep.unwatch (hi : h.InStep) (s : String) : (h.step (.unwatch s)).InStep := by
  refine hi.of_frame rfl (fun t seen hseen => ?_) fun _ _ hsub => hsub
  have hseen' : (if s = t then none else h.seen t) = some seen := hseen
  split at hseen'
  · cases hseen'
  · exact hseen'

/-- A service that is watched anew begins with no instances, and so must its subscribers. -/
theorem InStep.watch (hi : h.InStep) (hloud : ¬h.Silent (.watch s)) :
    (h.step (.watch s)).InStep := by
  have hsubs : ∀ t, (h.step (.watch s)).subscribers t = h.subscribers t := by
    intro t
    show (h.state.watcher.watch s).notifier.subscribersOf t = _
    unfold Watcher.watch
    split <;> rfl
  intro t seen hseen sub hsub
  rw [hsubs] at hsub
  have hseen' : (if s = t then (h.seen s).or (some []) else h.seen t) = some seen := hseen
  split at hseen'
  · next hst =>
    subst hst
    cases hs : h.seen s with
    | some before =>
      -- It was watched already, and goes on from what was seen last.
      rw [hs, Option.some_or] at hseen'
      exact hi s seen (hs.trans hseen') sub hsub
    | none =>
      rw [hs, Option.none_or] at hseen'
      obtain rfl := Option.some.inj hseen'
      exact Classical.byContradiction fun hnot => hloud ⟨hs, sub, hsub, hnot⟩
  · exact hi t seen hseen' sub hsub

/-- A new subscriber is up to date, and so must the others of the service be. -/
theorem InStep.onChange (hi : h.InStep) {l : Listener} (hloud : ¬h.Silent (.onChange s l)) :
    (h.step (.onChange s l)).InStep := by
  cases hanswer : h.state.registry.answer s with
  | error e =>
    rw [step_onChange_error l hanswer]
    exact hi
  | ok is =>
    obtain ⟨-, -, hwatcher, -⟩ := Discovery.onChange_ok l hanswer
    have hhanded : (h.step (.onChange s l)).handed = h.handed ++
        [(⟨h.state.watcher.notifier.nextId, s, l⟩, ⟨s, Instance.sort is⟩)] := by
      show h.handed ++ h.greeting s l = _
      rw [greeting_ok l hanswer]
    intro t seen hseen sub hsub
    have hseen' : (if s = t then (h.state.registry.answer s).toOption.or (h.seen s) else h.seen t) =
      some seen := hseen
    rw [mem_subscribers] at hsub
    obtain ⟨hmem, rfl⟩ := hsub
    have hmem' : sub ∈ (h.state.onChange s l).2.2.watcher.notifier.subscriptions := hmem
    rw [hwatcher] at hmem'
    rcases Notifier.mem_subscribe.1 hmem' with hold | rfl
    · -- The others are handed nothing.
      have hother : h.UpToDate sub.id seen := by
        split at hseen'
        · next hst =>
          obtain rfl : is = seen := by simpa [hanswer, Except.toOption] using hseen'
          exact Classical.byContradiction fun hnot =>
            hloud ⟨is, hanswer, sub, mem_subscribers.2 ⟨hold, hst.symm⟩, hnot⟩
        · exact hi _ seen hseen' sub (mem_subscribers.2 ⟨hold, rfl⟩)
      have hne := Nat.ne_of_lt (h.state.watcher.notifier.id_lt sub hold)
      unfold UpToDate
      rw [hhanded, lastOf_append_of_forall (by simpa using hne.symm)]
      exact hother
    · -- The new subscriber is greeted with what was fetched.
      rw [if_pos rfl] at hseen'
      obtain rfl : is = seen := by simpa [hanswer, Except.toOption] using hseen'
      refine ⟨Instance.sort is, ?_, Instance.sort_perm is⟩
      rw [hhanded]
      exact lastOf_append_of_mem ⟨_, List.mem_singleton_self _, rfl⟩ (by simp)

/-- A failed fetch is no news. -/
theorem Faithful.not_mem_news (hf : h.Faithful) {e : BackendError}
    (hfail : h.state.registry.answer s = .error e) : ∀ e ∈ h.news, e.service ≠ s := by
  rintro e' he rfl
  obtain ⟨is, hok, -⟩ := hf.mem_news.1 he
  rw [hfail] at hok
  cases hok

/-- Whoever was handed what was seen last is up to date after a poll. -/
theorem InStep.upToDate_after_poll (hf : h.Faithful) (hi : h.InStep) (hsub : sub ∈ h.subscribers s)
    {is : List Instance} (hok : h.state.registry.answer s = .ok is) (hsome : (h.seen s).isSome) :
    (h.step .poll).UpToDate sub.id is := by
  rw [hf.upToDate_poll_iff hsub hok hsome]
  by_cases hseen : h.HasSeen s is
  · obtain ⟨last, hlast, hperm⟩ := hseen
    exact .inl ((hi s last hlast sub hsub).perm hperm)
  · exact .inr hseen

theorem InStep.poll (hf : h.Faithful) (hi : h.InStep) : (h.step .poll).InStep := by
  have hsubs : ∀ s, (h.step .poll).subscribers s = h.subscribers s := by
    intro s
    show h.state.poll.2.2.watcher.notifier.subscribersOf s = _
    rw [h.state.poll_spec.2.2, Watcher.notifier_poll]
    rfl
  intro s seen hseen sub hsub
  rw [hsubs] at hsub
  obtain ⟨before, hbefore, hseen'⟩ := Option.map_eq_some_iff.1 hseen
  cases hanswer : h.state.registry.answer s with
  | error e =>
    obtain rfl : before = seen := by simpa [hanswer, Except.toOption] using hseen'
    unfold UpToDate
    rw [lastOf_poll_of_no_news hsub (hf.not_mem_news hanswer)]
    exact hi s before hbefore sub hsub
  | ok is =>
    obtain rfl : is = seen := by simpa [hanswer, Except.toOption] using hseen'
    exact hi.upToDate_after_poll hf hsub hanswer (by rw [hbefore]; rfl)

theorem InStep.step (hf : h.Faithful) (hi : h.InStep) (s : WatchStep) (hloud : ¬h.Silent s) :
    (h.step s).InStep := by
  cases s with
  | register s is => exact hi
  | update s is => exact hi
  | deregister s => exact hi
  | setOutage s error => exact hi
  | unsubscribe id => exact hi.unsubscribe id
  | watch s => exact hi.watch hloud
  | unwatch s => exact hi.unwatch s
  | onChange s l => exact hi.onChange hloud
  | poll => exact hi.poll hf

theorem InStep.after (hf : h.Faithful) (hi : h.InStep) {steps : List WatchStep}
    (hloud : h.Loud steps) : (h.after steps).InStep := by
  induction steps generalizing h with
  | nil => exact hi
  | cons s steps ih => exact ih (hf.step s) (hi.step hf s hloud.1) hloud.2

/-- **Who has missed a change.** After any run and a poll whose fetch of a watched service succeeded,
a subscriber of the service has been handed the fetched instances last exactly if it had been before
the poll, or if they are not what was seen last. In a run in which no step is silent, nobody misses a
change. -/
theorem upToDate_poll (d : Discovery) (steps : List WatchStep) (s : String) (is : List Instance)
    (sub : Subscription Listener) (hwatched : s ∈ ((begin d).after steps).state.watcher.watched)
    (hok : ((begin d).after steps).state.registry.answer s = .ok is)
    (hsub : sub ∈ ((begin d).after steps).subscribers s) :
    let h := (begin d).after steps
    ((h.step .poll).UpToDate sub.id is ↔ h.UpToDate sub.id is ∨ ¬h.HasSeen s is) ∧
      ((begin d).Loud steps → (h.step .poll).UpToDate sub.id is) := by
  intro h
  have hf : h.Faithful := (faithful_begin d).after steps
  have hsome : (h.seen s).isSome := by
    have hknown := Watcher.mem_watched.1 hwatched
    rwa [hf.known, Option.isSome_map] at hknown
  refine ⟨hf.upToDate_poll_iff hsub hok hsome, fun hloud => ?_⟩
  have hi : h.InStep := (inStep_begin d).after (faithful_begin d) hloud
  exact hi.upToDate_after_poll hf hsub hok hsome

/-- A subscriber whose service has moved is up to date after the next poll. -/
theorem upToDate_poll_moved :
    let moved : Instance := { address := "10.0.0.2", port := 80 }
    let h := (begin {}).after
      [.register "users" [{ address := "10.0.0.1", port := 80 }], .onChange "users" .client,
        .update "users" [moved]]
    (h.step .poll).UpToDate 0 [moved] := by
  intro moved h
  have hwatched : "users" ∈ h.state.watcher.watched := Watcher.mem_watched.2 rfl
  refine (upToDate_poll {} _ "users" [moved] ⟨0, "users", .client⟩ hwatched rfl (by decide)).1.2 ?_
  right
  rintro ⟨last, hlast, hperm⟩
  obtain rfl : [_] = last := Option.some.inj hlast
  exact absurd (List.singleton_perm_singleton.1 hperm) (by decide)

/-- When someone else subscribes before the poll, the first subscriber keeps the old instances: the
fetch for the second has made the new ones the list that was seen last. -/
theorem missed_change :
    let moved : Instance := { address := "10.0.0.2", port := 80 }
    let h := (begin {}).after
      [.register "users" [{ address := "10.0.0.1", port := 80 }], .onChange "users" .client,
        .update "users" [moved], .onChange "users" .client]
    "users" ∈ h.state.watcher.watched ∧ h.state.registry.answer "users" = .ok [moved] ∧
      ⟨0, "users", .client⟩ ∈ h.subscribers "users" ∧ ¬(h.step .poll).UpToDate 0 [moved] := by
  intro moved h
  have hf : h.Faithful := (faithful_begin {}).after _
  have hsub : (⟨0, "users", .client⟩ : Subscription Listener) ∈ h.subscribers "users" := by decide
  refine ⟨Watcher.mem_watched.2 rfl, rfl, hsub, fun hmoved => ?_⟩
  rcases (hf.upToDate_poll_iff hsub rfl rfl).1 hmoved with ⟨last, hlast, hperm⟩ | hnew
  · obtain rfl : Instance.sort [_] = last := Option.some.inj hlast
    have hsame := (Instance.sort_perm _).symm.trans hperm
    exact absurd (List.singleton_perm_singleton.1 hsame) (by decide)
  · exact hnew ⟨[moved], rfl, List.Perm.refl _⟩

end WatchHistory

end TrafficGateway
