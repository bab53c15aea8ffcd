import Mathlib.Data.List.Sort
import Mathlib.Data.String.Basic
import TrafficGateway.Gateway.Registration
import TrafficGateway.Proofs.Discovery.Watcher

/-!
# The services of a gateway

The services that routes name are noted with the algorithms of their caches, in the order in which they
come and with a service under every algorithm that it is wanted for. What the gateway tells of them is
sorted and names each service once (`Gateway.services_pairwise`), so it is known by its members
(`Gateway.services_eq_iff`), and these are the services that are noted (`Gateway.mem_services`). They are
also the ones that the caches come to follow, as far as the registry knows them
(`Gateway.subscribes_follow`).
-/

namespace TrafficGateway

/-! ## Sorted texts without repetitions -/

section Repetitions

variable {α : Type}

theorem eraseRepsBy_loop (r : α → α → Bool) (a : α) (l acc : List α) :
    List.eraseRepsBy.loop r a l acc = acc.reverse ++ List.eraseRepsBy.loop r a l [] := by
  induction l generalizing a acc with
  | nil => simp [List.eraseRepsBy.loop]
  | cons b l ih =>
    simp only [List.eraseRepsBy.loop]
    cases r a b with
    | true => exact ih a acc
    | false =>
      dsimp only
      rw [ih b (a :: acc), ih b [a]]
      simp

variable [BEq α]

theorem eraseReps_cons_cons (a b : α) (l : List α) :
    (a :: b :: l).eraseReps =
      if a == b then (a :: l).eraseReps else a :: (b :: l).eraseReps := by
  simp only [List.eraseReps, List.eraseRepsBy, List.eraseRepsBy.loop]
  cases a == b with
  | true => rfl
  | false =>
    dsimp only
    rw [eraseRepsBy_loop]
    rfl

variable [LawfulBEq α]

theorem mem_eraseReps {a : α} {l : List α} : a ∈ l.eraseReps ↔ a ∈ l := by
  match l with
  | [] => rfl
  | [b] => rfl
  | b :: c :: l =>
    rw [eraseReps_cons_cons]
    by_cases hbc : b = c
    · subst hbc
      rw [if_pos (beq_self_eq_true b), mem_eraseReps (l := b :: l)]
      simp
    · rw [if_neg (by simpa using hbc), List.mem_cons, mem_eraseReps (l := c :: l), ← List.mem_cons]

/-- Repetitions in a sorted list stand side by side. -/
theorem eraseReps_pairwise [LinearOrder α] {l : List α}
    (h : l.Pairwise (· ≤ ·)) : l.eraseReps.Pairwise (· < ·) := by
  match l with
  | [] => exact List.Pairwise.nil
  | [a] => exact List.pairwise_singleton _ _
  | a :: b :: l =>
    obtain ⟨ha, hl⟩ := List.pairwise_cons.1 h
    rw [eraseReps_cons_cons]
    by_cases hab : a = b
    · subst hab
      rw [if_pos (beq_self_eq_true a)]
      exact eraseReps_pairwise hl
    · rw [if_neg (by simpa using hab)]
      refine List.pairwise_cons.2 ⟨fun c hc => ?_, eraseReps_pairwise hl⟩
      have hb : b ≤ c := by
        rcases List.mem_cons.1 (mem_eraseReps.1 hc) with rfl | hc
        · exact le_rfl
        · exact (List.pairwise_cons.1 hl).1 c hc
      exact ((ha b List.mem_cons_self).lt_of_ne hab).trans_le hb

end Repetitions

namespace Gateway

/-! ## Services -/

/-- The services of a gateway are sorted, and none is there twice. -/
theorem services_pairwise (g : Gateway) : g.services.Pairwise (· < ·) := by
  refine eraseReps_pairwise ?_
  have hsorted : ((g.followed.map (·.2)).mergeSort fun a b => decide (a ≤ b)).Pairwise
      fun a b => decide (a ≤ b) = true := by
    refine List.pairwise_mergeSort ?_ ?_ _
    · intro a b c hab hbc
      exact decide_eq_true ((of_decide_eq_true hab).trans (of_decide_eq_true hbc))
    · intro a b
      simpa using le_total a b
  exact hsorted.imp of_decide_eq_true

theorem mem_services {g : Gateway} {service : String} :
    service ∈ g.services ↔ ∃ kind, (kind, service) ∈ g.followed := by
  rw [services, mem_eraseReps, List.mem_mergeSort, List.mem_map]
  constructor
  · rintro ⟨⟨kind, _⟩, hmem, rfl⟩
    exact ⟨kind, hmem⟩
  · rintro ⟨kind, hmem⟩
    exact ⟨(kind, service), hmem, rfl⟩

theorem services_eq_iff {g h : Gateway} :
    g.services = h.services ↔ ∀ service, service ∈ g.services ↔ service ∈ h.services := by
  constructor
  · intro heq service
    rw [heq]
  · intro hmem
    exact g.services_pairwise.eq_of_mem_iff h.services_pairwise fun service => hmem service

end Gateway

/-! ## Following services -/

namespace Discovery

/-- Somebody is told of the changes of the service. -/
def Subscribes (d : Discovery) (service : String) : Prop :=
  ∃ s ∈ d.watcher.notifier.subscriptions, s.service = service

/-- A subscription comes about if the service can be fetched, and others stay. -/
theorem subscribes_onChange (d : Discovery) (name : String) (l : Listener) (service : String) :
    (d.onChange name l).2.2.Subscribes service ↔
      d.Subscribes service ∨ service = name ∧ ∃ is, d.registry.answer name = .ok is := by
  cases hanswer : d.registry.answer name with
  | error e =>
    rw [onChange_error l hanswer]
    simp [Subscribes]
  | ok is =>
    obtain ⟨-, -, hwatcher, -⟩ := onChange_ok l hanswer
    unfold Subscribes
    rw [hwatcher]
    simp [Notifier.mem_subscribe, or_and_right, exists_or, eq_comm]

/-- What the registry answers does not change when it is asked. -/
theorem answer_onChange (d : Discovery) (name : String) (l : Listener) :
    (d.onChange name l).2.2.registry.answer = d.registry.answer := by
  cases hanswer : d.registry.answer name with
  | error e =>
    rw [onChange_error l hanswer]
    rfl
  | ok is =>
    rw [(onChange_ok l hanswer).2.2.2]
    rfl

end Discovery

namespace Gateway

theorem subscribes_followEach (pairs : List (SelectorKind × String)) (d : Discovery)
    (service : String) :
    (followEach pairs d).2.Subscribes service ↔
      d.Subscribes service ∨
        (∃ kind, (kind, service) ∈ pairs) ∧ ∃ is, d.registry.answer service = .ok is := by
  induction pairs generalizing d with
  | nil => simp [followEach]
  | cons pair pairs ih =>
    obtain ⟨kind, name⟩ := pair
    rw [followEach]
    dsimp only
    have hmem : (∃ kind', (kind', service) ∈ (kind, name) :: pairs) ↔
        service = name ∨ ∃ kind', (kind', service) ∈ pairs := by
      simp [exists_or]
    have hname : (service = name ∧ ∃ is, d.registry.answer name = .ok is) ↔
        service = name ∧ ∃ is, d.registry.answer service = .ok is :=
      and_congr_right fun h => by rw [h]
    rw [ih, Discovery.answer_onChange, Discovery.subscribes_onChange, hmem, hname, or_and_right,
      or_assoc]

/-- Following the services subscribes to those of them that the registry knows. -/
theorem subscribes_follow (g : Gateway) (service : String) :
    g.follow.2.discovery.Subscribes service ↔
      g.discovery.Subscribes service ∨
        service ∈ g.services ∧ ∃ is, g.discovery.registry.answer service = .ok is := by
  rw [mem_services]
  exact subscribes_followEach g.followed g.discovery service

end Gateway

end TrafficGateway
