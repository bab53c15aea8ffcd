import Mathlib.Algebra.BigOperators.Fin
import Mathlib.Data.Nat.Periodic
import TrafficGateway.Proofs.Balance.Walk

/-!
# The proportions of weighted picks

The stops of the walk repeat after as many laps as there are thresholds. A node of weight `w` is a stop
in `w / g` of these laps, where `g` is the greatest common divisor of the weights, because the thresholds
are the multiples of `g` up to the largest weight. So the picks of a fresh selector repeat after
`w₁ / g + w₂ / g + …` of them, and in every window of that length each node is picked exactly as often as
its weight says (`turn_exactly_proportional`).

## Main definitions

* `WeightedRoundRobin.period`: the number of places after which the stops repeat.
-/

namespace TrafficGateway

namespace WeightedRoundRobin

variable {α : Type} {s : WeightedRoundRobin α}

/-! ## Counting places -/

theorem count_congr {P Q : Nat → Prop} [DecidablePred P] [DecidablePred Q] {n : Nat}
    (h : ∀ k < n, P k ↔ Q k) : Nat.count P n = Nat.count Q n :=
  Nat.le_antisymm (Nat.count_mono_left fun k hk => (h k hk).1)
    (Nat.count_mono_left fun k hk => (h k hk).2)

theorem count_eq_of_lt {n i : Nat} (hi : i < n) : Nat.count (fun k => k = i) n = 1 := by
  rw [Nat.count_eq_card_filter_range, Finset.filter_eq', if_pos (Finset.mem_range.2 hi),
    Finset.card_singleton]

theorem count_ge (a n : Nat) : Nat.count (fun k => a ≤ k) n = n - a := by
  induction n with
  | zero => rw [Nat.count_zero, Nat.zero_sub]
  | succ n ih =>
    rw [Nat.count_succ, ih]
    split <;> omega

/-- In whole laps, a node is passed once a lap. So the places of the node at which the lap has some
property are as many as the laps that have it. -/
theorem count_laps (P : Nat → Prop) [DecidablePred P] {n i : Nat} (hi : i < n) (laps : Nat) :
    Nat.count (fun p => P (p / n) ∧ p % n = i) (n * laps) = Nat.count P laps := by
  induction laps with
  | zero => rw [Nat.mul_zero, Nat.count_zero, Nat.count_zero]
  | succ laps ih =>
    have hlap : Nat.count (fun j => P ((n * laps + j) / n) ∧ (n * laps + j) % n = i) n =
        Nat.count (fun j => P laps ∧ j = i) n := by
      refine count_congr fun j hj => ?_
      rw [Nat.mul_add_div (Nat.zero_lt_of_lt hi), Nat.div_eq_of_lt hj, Nat.add_zero,
        Nat.mul_add_mod, Nat.mod_eq_of_lt hj]
    rw [Nat.mul_succ, Nat.count_add, ih, hlap, Nat.count_succ]
    by_cases hP : P laps
    · simp only [hP, true_and, if_true, count_eq_of_lt hi]
    · simp only [hP, false_and, if_false, Nat.count_false]

variable (s)

/-! ## Stops -/

/-- The number of places after which the stops repeat. -/
def period : Nat :=
  s.nodes.length * s.laps

theorem stops_periodic : Function.Periodic s.Stops s.period := by
  intro p
  have hnode : s.nodeAt (p + s.period) = s.nodeAt p := by
    simp only [nodeAt, period, Nat.add_mul_mod_self_left]
  have hthreshold : s.thresholdAt (p + s.period) = s.thresholdAt p := by
    rw [thresholdAt, thresholdAt, period, Nat.add_mul_div_left _ _ s.length_pos, Nat.add_mod_right]
  rw [Stops, Stops, hnode, hthreshold]

/-- The weight of a node is some number of strides, and not more than there are laps. -/
theorem weight_eq {i : Nat} (hi : i < s.nodes.length) :
    s.nodes[i].weight = s.stride * (s.nodes[i].weight / s.stride) ∧
      s.nodes[i].weight / s.stride ≤ s.laps := by
  have hdvd := s.stride_dvd (List.getElem_mem hi)
  exact ⟨(Nat.mul_div_cancel' hdvd).symm,
    Nat.div_le_div_right (s.weight_le_maxWeight (List.getElem_mem hi))⟩

theorem weight_div_stride_pos {i : Nat} (hi : i < s.nodes.length) :
    0 < s.nodes[i].weight / s.stride :=
  Nat.div_pos (Nat.le_of_dvd (s.weight_pos _ (List.getElem_mem hi))
    (s.stride_dvd (List.getElem_mem hi))) s.stride_pos

/-- A node of weight `w` is a stop in the last `w / g` laps of a period, whose thresholds are the
multiples of `g` up to `w`. -/
theorem stops_iff {i : Nat} (hi : i < s.nodes.length) {p : Nat} (hp : p % s.nodes.length = i) :
    s.Stops p ↔ s.laps - s.nodes[i].weight / s.stride ≤ p / s.nodes.length % s.laps := by
  obtain ⟨hm, hle⟩ := s.weight_eq hi
  generalize s.nodes[i].weight / s.stride = m at hm hle
  have hnode : s.nodeAt p = s.nodes[i] := by simp only [nodeAt, hp, List.get_eq_getElem]
  rw [Stops, hnode, hm, thresholdAt, maxWeight_eq, ← Nat.mul_sub,
    Nat.mul_le_mul_left_iff s.stride_pos]
  omega

/-- In a period, a node of weight `w` is a stop `w / g` times. -/
theorem count_stops_at {i : Nat} (hi : i < s.nodes.length) :
    Nat.count (fun p => s.Stops p ∧ p % s.nodes.length = i) s.period =
      s.nodes[i].weight / s.stride := by
  have hplace : ∀ p, (s.Stops p ∧ p % s.nodes.length = i) ↔
      (s.laps - s.nodes[i].weight / s.stride ≤ p / s.nodes.length % s.laps ∧
        p % s.nodes.length = i) := fun p => and_congr_left (s.stops_iff hi)
  have hle := (s.weight_eq hi).2
  generalize s.nodes[i].weight / s.stride = m at hplace hle
  calc Nat.count (fun p => s.Stops p ∧ p % s.nodes.length = i) s.period
      = Nat.count (fun p => s.laps - m ≤ p / s.nodes.length % s.laps ∧ p % s.nodes.length = i)
          s.period := count_congr fun p _ => hplace p
    _ = Nat.count (fun lap => s.laps - m ≤ lap % s.laps) s.laps :=
        count_laps (fun lap => s.laps - m ≤ lap % s.laps) hi s.laps
    _ = Nat.count (fun lap => s.laps - m ≤ lap) s.laps :=
        count_congr fun lap hlap => by rw [Nat.mod_eq_of_lt hlap]
    _ = m := by rw [count_ge, Nat.sub_sub_self hle]

/-- The number of stops in a period. -/
theorem count_stops_period :
    Nat.count s.Stops s.period = (s.nodes.map fun n => n.weight / s.stride).sum := by
  have hfiber : ∀ p ∈ (Finset.range s.period).filter s.Stops,
      (⟨p % s.nodes.length, Nat.mod_lt _ s.length_pos⟩ : Fin s.nodes.length) ∈ Finset.univ :=
    fun _ _ => Finset.mem_univ _
  rw [Nat.count_eq_card_filter_range, Finset.card_eq_sum_card_fiberwise hfiber,
    ← Fin.sum_univ_fun_getElem]
  refine Finset.sum_congr rfl fun i _ => ?_
  rw [← s.count_stops_at i.isLt, Nat.count_eq_card_filter_range, Finset.filter_filter]
  simp only [Fin.ext_iff]

variable {s}

/-! ## Turns -/

/-- Picks and stops are in step: as many of the picks up to a place are of a node as stops are. -/
theorem IsBefore.count_turn (h : s.IsBefore 0) (i p : Nat) :
    Nat.count (fun k => s.turn k = i) (Nat.count s.Stops p) =
      Nat.count (fun q => s.Stops q ∧ q % s.nodes.length = i) p := by
  induction p with
  | zero => rfl
  | succ p ih =>
    rw [Nat.count_succ, Nat.count_succ]
    by_cases hp : s.Stops p
    · rw [if_pos hp, Nat.count_succ, ih, h.turn_count hp]
      simp only [hp, true_and]
    · simp only [hp, false_and, if_false, Nat.add_zero, ih]

/-- The turns repeat with the stops. -/
theorem IsBefore.turn_periodic (h : s.IsBefore 0) :
    Function.Periodic s.turn (Nat.count s.Stops s.period) := by
  intro k
  -- The pick is that of some stop `q`, and the stop one period later has a period's stops more before it.
  obtain ⟨q, hq, hstop, rfl⟩ := h.standsAt_after k
  have hstop' : s.Stops (s.period + q) := by rwa [Nat.add_comm, s.stops_periodic q]
  have hcount : Nat.count s.Stops (s.period + q) =
      Nat.count s.Stops q + Nat.count s.Stops s.period := by
    rw [Nat.count_add, Nat.add_comm]
    congr 1
    refine count_congr fun j _ => ?_
    rw [Nat.add_comm, s.stops_periodic j]
  rw [← hcount, h.turn_count hstop', h.turn_count hstop, period, Nat.mul_add_mod]

/-- Among as many picks in a row as a period has stops, a node of weight `w` is picked `w / g` times. -/
theorem IsBefore.card_window (h : s.IsBefore 0) {i : Nat} (hi : i < s.nodes.length) (start : Nat) :
    ((Finset.Ico start (start + Nat.count s.Stops s.period)).filter fun k => s.turn k = i).card =
      s.nodes[i].weight / s.stride := by
  have hperiodic : Function.Periodic (fun k => s.turn k = i) (Nat.count s.Stops s.period) := by
    intro k
    show (s.turn (k + _) = i) = (s.turn k = i)
    rw [h.turn_periodic k]
  rw [Nat.filter_Ico_card_eq_of_periodic start _ _ hperiodic, h.count_turn, s.count_stops_at hi]

/-- **Weighted picks are exactly proportional.** Over nodes with weights, of which `g` is the greatest
common divisor, a fresh selector repeats its picks after `C` of them, the sum of all `w / g`. In any `C`
picks in a row, each node is picked `w / g` times. -/
theorem turn_exactly_proportional {nodes : List (Node α)} (hne : nodes ≠ [])
    (hpos : ∀ n ∈ nodes, 0 < n.weight) :
    let g := (nodes.map (·.weight) : Multiset Nat).gcd
    let C := (nodes.map fun n => n.weight / g).sum
    ∃ s, ofNodes nodes = .ok s ∧
      (∀ k, nodes[s.turn k]? = some (s.pick k)) ∧
      (∀ k, s.turn (k + C) = s.turn k) ∧
      ∀ start (i : Fin nodes.length),
        ((Finset.Ico start (start + C)).filter fun k => s.turn k = i).card = nodes[i].weight / g := by
  obtain ⟨s, hs, rfl, h⟩ := ofNodes_isBefore hne hpos
  intro g C
  have hC : C = Nat.count s.Stops s.period := by rw [count_stops_period, stride_eq_gcd]
  have hg : g = s.stride := s.stride_eq_gcd.symm
  refine ⟨s, hs, s.getElem?_turn, ?_, fun start i => ?_⟩
  · rw [hC]
    exact h.turn_periodic
  · rw [hC, hg]
    exact h.card_window i.isLt start

/-- Over nodes of weights four, two and six, any six picks in a row are two, one and three of each. -/
theorem turn_four_two_six :
    let nodes : List (Node Nat) := [⟨"a", 0, 4⟩, ⟨"b", 1, 2⟩, ⟨"c", 2, 6⟩]
    nodes ≠ [] ∧ (∀ n ∈ nodes, 0 < n.weight) ∧ ∃ s, ofNodes nodes = .ok s ∧ ∀ start,
      ((Finset.Ico start (start + 6)).filter fun k => s.turn k = 0).card = 2 ∧
      ((Finset.Ico start (start + 6)).filter fun k => s.turn k = 1).card = 1 ∧
      ((Finset.Ico start (start + 6)).filter fun k => s.turn k = 2).card = 3 := by
  intro nodes
  have hg : (nodes.map (·.weight) : Multiset Nat).gcd = 2 := by decide
  have hC : (nodes.map fun n => n.weight / 2).sum = 6 := by decide
  have hne : nodes ≠ [] := by decide
  have hpos : ∀ n ∈ nodes, 0 < n.weight := by decide
  obtain ⟨s, hs, -, -, hcount⟩ := turn_exactly_proportional hne hpos
  rw [hg, hC] at hcount
  refine ⟨hne, hpos, s, hs, fun start => ⟨?_, ?_, ?_⟩⟩
  · exact (hcount start (0 : Fin 3)).trans (by decide)
  · exact (hcount start (1 : Fin 3)).trans (by decide)
  · exact (hcount start (2 : Fin 3)).trans (by decide)

end WeightedRoundRobin

end TrafficGateway
