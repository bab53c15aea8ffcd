import TrafficGateway.Dict
import TrafficGateway.Instance

/-!
# Notifications of changes

Whoever wants to know of the changes of a service subscribes to it. The subscriptions of a service are
kept in a list, oldest first, and a list of which nothing is left is given up. An event of a service
goes to everyone who is subscribed at the moment it is published. A subscriber may subscribe others and
unsubscribe anyone while it is told; this concerns later events only.

## Main definitions

* `ChangeEvent`: the new instances of a service.
* `Subscriptions`: the lists of the services.
* `Notifier`: the lists and the number of the next subscription.
* `Notifier.subscribe`, `Notifier.unsubscribe`, `Notifier.withdraw`: changes of the subscriptions.
* `Notifier.Command`, `Notifier.Note`, `Notifier.obey`: what can be asked of a notifier, and what is
  noted of it.
* `Notifier.Script`, `Notifier.publish`: what a subscriber does when it is told, and what comes of an
  event.
-/

namespace TrafficGateway

/-- The new instances of a service. -/
structure ChangeEvent where
  service : String
  instances : List Instance
  deriving DecidableEq, Repr, Inhabited

/-- What is told of the changes of a service: a number that is never given twice, and the callback. -/
structure Subscription (α : Type) where
  id : Nat
  service : String
  callback : α
  deriving DecidableEq, Repr

/-! ### Lists of subscriptions -/

/-- The subscriptions of every service that has some, oldest first. -/
abbrev Subscriptions (α : Type) := Dict String (List (Subscription α))

namespace Subscriptions

variable {α : Type}

/-- The subscriptions of a service, oldest first. -/
def of (lists : Subscriptions α) (service : String) : List (Subscription α) :=
  (lists.get? service).getD []

/-- Adds a subscription to the list of a service. -/
def add (lists : Subscriptions α) (service : String) (s : Subscription α) : Subscriptions α :=
  lists.insert service (lists.of service ++ [s])

/-- A list without the subscription with a number, unless nothing is left of it. -/
def keep (id : Nat) (subscriptions : List (Subscription α)) : Option (List (Subscription α)) :=
  let kept := subscriptions.filter fun s => s.id != id
  if kept.isEmpty then none else some kept

/-- Goes through all lists and takes the subscription with a number out. -/
def without (lists : Subscriptions α) (id : Nat) : Subscriptions α :=
  lists.filterMap (keep id)

/-- Does a list become shorter when the subscription with a number is taken out? -/
def shrinks (lists : Subscriptions α) (id : Nat) : Bool :=
  lists.values.any fun subscriptions =>
    (subscriptions.filter fun s => s.id != id).length != subscriptions.length

theorem of_add (lists : Subscriptions α) (service other : String) (s : Subscription α) :
    (lists.add service s).of other =
      if service = other then lists.of other ++ [s] else lists.of other := by
  unfold of add
  rw [Dict.get?_insert]
  split
  · next h => subst h; rfl
  · rfl

@[simp]
theorem of_without (lists : Subscriptions α) (id : Nat) (service : String) :
    (lists.without id).of service = (lists.of service).filter fun s => s.id != id := by
  unfold of without
  rw [Dict.get?_filterMap]
  cases lists.get? service with
  | none => rfl
  | some subscriptions =>
    simp only [Option.bind_some, Option.getD_some, keep]
    split
    · next h => exact (List.isEmpty_iff.1 h).symm
    · rfl

theorem get?_without_ne_nil (lists : Subscriptions α) (id : Nat) (service : String) :
    (lists.without id).get? service ≠ some [] := by
  unfold without
  rw [Dict.get?_filterMap]
  cases lists.get? service with
  | none => exact nofun
  | some subscriptions =>
    simp only [Option.bind_some, keep]
    split
    · exact nofun
    · next h => exact fun hnil => h (by rw [Option.some.inj hnil]; rfl)

theorem mem_values {lists : Subscriptions α} {subscriptions : List (Subscription α)} :
    subscriptions ∈ lists.values ↔ ∃ service, lists.get? service = some subscriptions := by
  simp only [Dict.get?_eq_some_iff]
  constructor
  · intro h
    obtain ⟨e, he, rfl⟩ := List.mem_map.1 h
    exact ⟨e.1, he⟩
  · rintro ⟨service, h⟩
    exact List.mem_map.2 ⟨_, h, rfl⟩

theorem mem_of {lists : Subscriptions α} {service : String} {s : Subscription α} :
    s ∈ lists.of service ↔ ∃ subscriptions, lists.get? service = some subscriptions ∧
      s ∈ subscriptions := by
  unfold of
  cases lists.get? service <;> simp

theorem shrinks_iff {lists : Subscriptions α} {id : Nat} :
    lists.shrinks id = true ↔ ∃ service, ∃ s ∈ lists.of service, s.id = id := by
  have hlist (subscriptions : List (Subscription α)) :
      (subscriptions.filter fun s => s.id != id).length ≠ subscriptions.length ↔
        ∃ s ∈ subscriptions, s.id = id := by
    simp [List.length_filter_eq_length_iff]
  simp only [shrinks, List.any_eq_true, bne_iff_ne, hlist, mem_values, mem_of]
  grind

/-- What holds of subscriptions that were made and ended one by one: no list is empty, every list holds
subscriptions of its service in the order of their numbers, which were all given, and no number stands
in two lists. -/
structure WellFormed (lists : Subscriptions α) (nextId : Nat) : Prop where
  ne_nil : ∀ service, lists.get? service ≠ some []
  service_eq : ∀ service, ∀ s ∈ lists.of service, s.service = service
  id_lt : ∀ service, ∀ s ∈ lists.of service, s.id < nextId
  ascending : ∀ service, (lists.of service).Pairwise fun a b => a.id < b.id
  apart : ∀ service other, ∀ a ∈ lists.of service, ∀ b ∈ lists.of other, a.id = b.id →
    service = other

variable {lists : Subscriptions α} {nextId : Nat}

theorem wellFormed_empty : WellFormed (.empty : Subscriptions α) 0 where
  ne_nil := nofun
  service_eq := nofun
  id_lt := nofun
  ascending _ := .nil
  apart := nofun

/-- The members of a list after a subscription was added: those before and, at its service, the new
one. -/
theorem mem_of_add {service other : String} {s t : Subscription α} :
    t ∈ (lists.add service s).of other ↔ t ∈ lists.of other ∨ service = other ∧ t = s := by
  rw [of_add]
  split <;> simp [*]

theorem WellFormed.add (h : lists.WellFormed nextId) (service : String) (callback : α) :
    (lists.add service ⟨nextId, service, callback⟩).WellFormed (nextId + 1) where
  ne_nil other hnil := by
    unfold Subscriptions.add at hnil
    rw [Dict.get?_insert] at hnil
    split at hnil
    · simp at hnil
    · exact h.ne_nil other hnil
  service_eq other t ht := by
    obtain hold | ⟨rfl, rfl⟩ := mem_of_add.1 ht
    · exact h.service_eq other t hold
    · rfl
  id_lt other t ht := by
    obtain hold | ⟨-, rfl⟩ := mem_of_add.1 ht
    · exact Nat.lt_succ_of_lt (h.id_lt other t hold)
    · exact Nat.lt_succ_self nextId
  ascending other := by
    rw [of_add]
    split
    · refine List.pairwise_append.2 ⟨h.ascending other, List.pairwise_singleton _ _, ?_⟩
      intro a ha b hb
      rw [List.mem_singleton.1 hb]
      exact h.id_lt other a ha
    · exact h.ascending other
  apart one other a ha b hb hid := by
    obtain ha | ⟨rfl, rfl⟩ := mem_of_add.1 ha <;> obtain hb | ⟨rfl, rfl⟩ := mem_of_add.1 hb
    · exact h.apart one other a ha b hb hid
    · exact absurd hid (Nat.ne_of_lt (h.id_lt one a ha))
    · exact absurd hid.symm (Nat.ne_of_lt (h.id_lt other b hb))
    · rfl

/-- When a subscription is ended, the number of the next one can be any that is above the numbers that
are left. -/
theorem WellFormed.without (h : lists.WellFormed nextId) (id : Nat) {nextId' : Nat}
    (hlt : ∀ n < nextId, n ≠ id → n < nextId') : (lists.without id).WellFormed nextId' where
  ne_nil := lists.get?_without_ne_nil id
  service_eq other t ht := by
    rw [of_without] at ht
    exact h.service_eq other t (List.mem_filter.1 ht).1
  id_lt other t ht := by
    rw [of_without] at ht
    obtain ⟨hmem, hne⟩ := List.mem_filter.1 ht
    exact hlt t.id (h.id_lt other t hmem) (by simpa using hne)
  ascending other := by
    rw [of_without]
    exact (h.ascending other).sublist List.filter_sublist
  apart one other a ha b hb hid := by
    rw [of_without] at ha hb
    exact h.apart one other a (List.mem_filter.1 ha).1 b (List.mem_filter.1 hb).1 hid

end Subscriptions

/-! ### Notifiers -/

/-- The subscriptions and the number of the next one. -/
structure Notifier (α : Type) where
  lists : Subscriptions α := .empty
  nextId : Nat := 0
  wellFormed : lists.WellFormed nextId := by exact Subscriptions.wellFormed_empty

namespace Notifier

variable {α : Type}

instance : Inhabited (Notifier α) := ⟨{}⟩

/-- The subscriptions of a service, oldest first. -/
def subscribersOf (n : Notifier α) (service : String) : List (Subscription α) :=
  n.lists.of service

/-- All subscriptions. -/
def subscriptions (n : Notifier α) : List (Subscription α) :=
  n.lists.values.flatten

/-- The number of subscriptions of a service. -/
def count (n : Notifier α) (service : String) : Nat :=
  (n.subscribersOf service).length

/-- Is the subscription with that number in force, so that it can be ended? -/
def contains (n : Notifier α) (id : Nat) : Bool :=
  n.lists.shrinks id

/-- Adds a subscription, whose number is `n.nextId`. -/
def subscribe (n : Notifier α) (service : String) (callback : α) : Notifier α where
  lists := n.lists.add service ⟨n.nextId, service, callback⟩
  nextId := n.nextId + 1
  wellFormed := n.wellFormed.add service callback

/-- Ends a subscription. -/
def unsubscribe (n : Notifier α) (id : Nat) : Notifier α where
  lists := n.lists.without id
  nextId := n.nextId
  wellFormed := n.wellFormed.without id fun _ hlt _ => hlt

/-- Ends the subscription that was made last, before anyone was told its number, so that this number
can still be given to another. -/
def withdraw (n : Notifier α) : Notifier α where
  lists := n.lists.without (n.nextId - 1)
  nextId := n.nextId - 1
  wellFormed := n.wellFormed.without (n.nextId - 1) fun _ hlt hne => by omega

/-! ### Commands -/

/-- What anyone can ask of a notifier, also a subscriber while it is told of an event. -/
inductive Command (α : Type) where
  | subscribe (service : String) (callback : α)
  | unsubscribe (id : Nat)
  | count (service : String)
  deriving DecidableEq, Repr

/-- What is noted of a notifier: what was asked of it with the answer, and whom it told of an event. -/
inductive Note (α : Type) where
  | subscribed (s : Subscription α)
  | unsubscribed (id : Nat) (found : Bool)
  | counted (service : String) (number : Nat)
  | told (s : Subscription α) (event : ChangeEvent)
  deriving DecidableEq, Repr

/-- What is noted of a command, and the notifier after it. -/
def obey (n : Notifier α) : Command α → Note α × Notifier α
  | .subscribe service callback =>
    (.subscribed ⟨n.nextId, service, callback⟩, n.subscribe service callback)
  | .unsubscribe id => (.unsubscribed id (n.contains id), n.unsubscribe id)
  | .count service => (.counted service (n.count service), n)

/-! ### Events -/

/-- What a subscriber asks of the notifier while it is told of an event. What it asks next may depend on
the answers so far. -/
inductive Script (α : Type) where
  | done
  | ask (command : Command α) (next : Note α → Script α)

/-- What is noted while a script is carried out, and the notifier after it. -/
def Script.run : Script α → Notifier α → List (Note α) × Notifier α
  | .done, n => ([], n)
  | .ask command next, n =>
    let (note, n) := n.obey command
    let (notes, n) := (next note).run n
    (note :: notes, n)

/-- Tells subscribers of an event, one after the other, and lets each carry out its script: what is
noted of it, and the notifier after it. -/
def tell (react : Subscription α → ChangeEvent → Script α) (event : ChangeEvent) :
    List (Subscription α) → Notifier α → List (Note α) × Notifier α
  | [], n => ([], n)
  | s :: ss, n =>
    let (did, n) := (react s event).run n
    let (notes, n) := tell react event ss n
    (.told s event :: did ++ notes, n)

/-- Publishes an event to those who are subscribed to its service now: how many they are, what is noted
while they are told, and the notifier after it. -/
def publish (react : Subscription α → ChangeEvent → Script α) (event : ChangeEvent)
    (n : Notifier α) : Nat × List (Note α) × Notifier α :=
  let targets := n.subscribersOf event.service
  (targets.length, tell react event targets n)

/-- Who was told of what, in order. -/
def calls (notes : List (Note α)) : List (Subscription α × ChangeEvent) :=
  notes.filterMap fun note => match note with
    | .told s event => some (s, event)
    | _ => none

end Notifier

end TrafficGateway
