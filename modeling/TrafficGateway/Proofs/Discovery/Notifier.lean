import Mathlib.Data.List.Nodup
import TrafficGateway.Discovery.Notifier
import TrafficGateway.Proofs.Dict

/-!
# Subscriptions one by one

What subscribing and unsubscribing do to the subscriptions of a service, without the lists in which a
notifier keeps them. A subscription that is withdrawn leaves the notifier as it was, list by list
(`Notifier.withdraw_subscribe`): the new number stands nowhere else, and a list that is empty without
it was not there before.
-/

namespace TrafficGateway

namespace Notifier

variable {α : Type} {n : Notifier α} {a b s : Subscription α} {service other : String} {id : Nat}

theorem mem_subscribersOf :
    s ∈ n.subscribersOf service ↔ s ∈ n.subscriptions ∧ s.service = service := by
  have hall : s ∈ n.subscriptions ↔ ∃ service, s ∈ n.subscribersOf service := by
    simp only [subscriptions, subscribersOf, List.mem_flatten, Subscriptions.mem_values,
      Subscriptions.mem_of]
    grind
  rw [hall]
  constructor
  · exact fun h => ⟨⟨service, h⟩, n.wellFormed.service_eq service s h⟩
  · rintro ⟨⟨service', h⟩, rfl⟩
    rwa [n.wellFormed.service_eq service' s h]

theorem mem_subscriptions : s ∈ n.subscriptions ↔ s ∈ n.subscribersOf s.service := by
  simp [mem_subscribersOf]

/-- The numbers of all subscriptions have been given. -/
theorem id_lt (n : Notifier α) (s : Subscription α) (h : s ∈ n.subscriptions) : s.id < n.nextId :=
  n.wellFormed.id_lt s.service s (mem_subscriptions.1 h)

/-- The subscriptions of a service are ordered by their numbers. -/
theorem ascending (n : Notifier α) (service : String) :
    (n.subscribersOf service).Pairwise fun a b => a.id < b.id :=
  n.wellFormed.ascending service

theorem nodup_subscribersOf (n : Notifier α) (service : String) : (n.subscribersOf service).Nodup :=
  (n.ascending service).imp fun hlt heq => Nat.ne_of_lt hlt (congrArg Subscription.id heq)

/-- A number belongs to one subscription only. -/
theorem eq_of_id (ha : a ∈ n.subscriptions) (hb : b ∈ n.subscriptions) (hid : a.id = b.id) :
    a = b := by
  rw [mem_subscriptions] at ha hb
  have hservice : a.service = b.service := n.wellFormed.apart _ _ a ha b hb hid
  have hnodup : ((n.subscribersOf a.service).map (·.id)).Nodup :=
    List.pairwise_map.2 ((n.ascending a.service).imp fun hlt => Nat.ne_of_lt hlt)
  exact List.inj_on_of_nodup_map hnodup ha (hservice ▸ hb) hid

theorem subscribersOf_subscribe (callback : α) : (n.subscribe service callback).subscribersOf other =
    if service = other then n.subscribersOf other ++ [⟨n.nextId, service, callback⟩]
    else n.subscribersOf other :=
  Subscriptions.of_add ..

theorem subscribersOf_unsubscribe :
    (n.unsubscribe id).subscribersOf service =
      (n.subscribersOf service).filter fun s => s.id != id :=
  Subscriptions.of_without ..

theorem mem_subscribe {callback : α} : s ∈ (n.subscribe service callback).subscriptions ↔
    s ∈ n.subscriptions ∨ s = ⟨n.nextId, service, callback⟩ := by
  rw [mem_subscriptions, mem_subscriptions, subscribersOf_subscribe]
  split
  · simp
  · next h => exact (or_iff_left fun heq => h (by rw [heq])).symm

theorem mem_unsubscribe : s ∈ (n.unsubscribe id).subscriptions ↔ s ∈ n.subscriptions ∧ s.id ≠ id := by
  rw [mem_subscriptions, mem_subscriptions, subscribersOf_unsubscribe]
  simp

theorem contains_iff : n.contains id = true ↔ ∃ s ∈ n.subscriptions, s.id = id := by
  refine Subscriptions.shrinks_iff.trans ⟨?_, ?_⟩
  · rintro ⟨service, s, hs, hid⟩
    exact ⟨s, (mem_subscribersOf.1 hs).1, hid⟩
  · rintro ⟨s, hs, hid⟩
    exact ⟨s.service, s, mem_subscriptions.1 hs, hid⟩

/-- **Nothing is left of a subscription that is withdrawn.** -/
theorem withdraw_subscribe (n : Notifier α) (service : String) (callback : α) :
    (n.subscribe service callback).withdraw = n := by
  have hkept (other : String) :
      (n.lists.of other).filter (fun s => s.id != n.nextId) = n.lists.of other :=
    List.filter_eq_self.2 fun s hs => by
      simpa using Nat.ne_of_lt (n.wellFormed.id_lt other s hs)
  have hkeep (other : String) : Subscriptions.keep n.nextId (n.lists.of other) =
      n.lists.get? other := by
    have hne := n.wellFormed.ne_nil other
    unfold Subscriptions.keep
    rw [hkept]
    unfold Subscriptions.of
    cases hother : n.lists.get? other with
    | none => rfl
    | some subscriptions =>
      have hsome : subscriptions ≠ [] := fun hnil => hne (by rw [hother, hnil])
      simp [hsome]
  have hlists : (n.lists.add service ⟨n.nextId, service, callback⟩).without n.nextId = n.lists := by
    refine Dict.filterMap_insert_eq_self (fun other subscriptions _ hother => ?_) ?_
    · have hof : n.lists.of other = subscriptions := by
        unfold Subscriptions.of
        rw [hother, Option.getD_some]
      rw [← hother, ← hkeep other, hof]
    · rw [← hkeep service]
      unfold Subscriptions.keep
      rw [List.filter_append]
      simp
  obtain ⟨lists, nextId, wellFormed⟩ := n
  simpa [subscribe, withdraw] using hlists

end Notifier

end TrafficGateway
