import Mathlib.Algebra.GCDMonoid.Multiset
import Mathlib.Algebra.GCDMonoid.Nat
import Mathlib.Data.Nat.Count
import TrafficGateway.Balance.Weighted

/-!
# The walk of the weighted cursor

The cursor of a weighted selector walks over its nodes without end. The places of this walk are counted
from zero: place `p` is at node `p % n` of `n` nodes, in lap `p / n`. The threshold of a lap depends on
nothing but its number, since a lap whose threshold is spent is followed by one with the largest weight.
So it is known beforehand at which places the cursor stops (`Stops`), and the picks of a fresh selector
are these places in order (`standsAt_after`).

## Main definitions

* `WeightedRoundRobin.laps`: the number of laps until the thresholds repeat.
* `WeightedRoundRobin.Stops`: does the cursor stop at a place?
* `WeightedRoundRobin.StandsAt`: the cursor is at a place of its walk.
* `WeightedRoundRobin.after`, `WeightedRoundRobin.turn`, `WeightedRoundRobin.pick`: the selector after
  some picks, and what is picked next.
-/

namespace TrafficGateway

namespace WeightedRoundRobin

variable {α : Type} (s : WeightedRoundRobin α)

/-! ## Weights -/

theorem length_pos : 0 < s.nodes.length :=
  Nat.zero_lt_of_lt s.index_lt

theorem stride_eq_gcd : s.stride = (s.nodes.map (·.weight) : Multiset Nat).gcd := by
  rw [Multiset.gcd, Multiset.coe_fold_l]
  rfl

theorem stride_dvd {n : Node α} (hn : n ∈ s.nodes) : s.stride ∣ n.weight := by
  rw [stride_eq_gcd]
  exact Multiset.gcd_dvd (Multiset.mem_coe.2 (List.mem_map_of_mem hn))

theorem stride_pos : 0 < s.stride := by
  have hn : s.current ∈ s.nodes := List.get_mem ..
  exact Nat.pos_of_dvd_of_pos (s.stride_dvd hn) (s.weight_pos _ hn)

theorem le_foldl_max (ws : List Nat) (a : Nat) : ∀ w ∈ a :: ws, w ≤ ws.foldl Nat.max a := by
  induction ws generalizing a with
  | nil => simp
  | cons b ws ih =>
    intro w hw
    have hbound := ih (Nat.max a b)
    have hfirst : Nat.max a b ≤ ws.foldl Nat.max (Nat.max a b) := hbound _ List.mem_cons_self
    rw [List.mem_cons, List.mem_cons] at hw
    rcases hw with rfl | rfl | hw
    · exact (Nat.le_max_left _ _).trans hfirst
    · exact (Nat.le_max_right _ _).trans hfirst
    · exact hbound w (List.mem_cons_of_mem _ hw)

theorem foldl_max_mem (ws : List Nat) (a : Nat) : ws.foldl Nat.max a ∈ a :: ws := by
  induction ws generalizing a with
  | nil => simp
  | cons b ws ih =>
    have hmem := ih (Nat.max a b)
    rw [List.mem_cons] at hmem
    rw [List.foldl_cons, List.mem_cons, List.mem_cons]
    rcases hmem with heq | hmem
    · rw [heq]
      rcases Nat.le_total a b with hab | hba
      · exact .inr (.inl (Nat.max_eq_right hab))
      · exact .inl (Nat.max_eq_left hba)
    · exact .inr (.inr hmem)

theorem weight_le_maxWeight {n : Node α} (hn : n ∈ s.nodes) : n.weight ≤ s.maxWeight :=
  le_foldl_max _ 0 _ (List.mem_cons_of_mem _ (List.mem_map_of_mem hn))

/-- Some node has the largest weight. -/
theorem exists_heaviest : ∃ n ∈ s.nodes, n.weight = s.maxWeight := by
  have hn : s.current ∈ s.nodes := List.get_mem ..
  have hmem : s.maxWeight ∈ 0 :: s.nodes.map (·.weight) := foldl_max_mem _ 0
  rcases List.mem_cons.1 hmem with hzero | hmem
  · have := s.weight_pos _ hn
    have := s.weight_le_maxWeight hn
    omega
  · exact List.mem_map.1 hmem

/-! ## Places -/

/-- The number of laps until the thresholds repeat. -/
def laps : Nat :=
  s.maxWeight / s.stride

theorem maxWeight_eq : s.maxWeight = s.stride * s.laps := by
  obtain ⟨n, hn, hw⟩ := s.exists_heaviest
  exact (Nat.mul_div_cancel' (hw ▸ s.stride_dvd hn)).symm

theorem laps_pos : 0 < s.laps := by
  obtain ⟨n, hn, hw⟩ := s.exists_heaviest
  refine Nat.pos_of_ne_zero fun hzero => ?_
  have := s.weight_pos n hn
  rw [hw, maxWeight_eq, hzero] at this
  omega

/-- The node at a place of the walk. -/
def nodeAt (p : Nat) : Node α :=
  s.nodes.get ⟨p % s.nodes.length, Nat.mod_lt _ s.length_pos⟩

/-- The threshold at a place of the walk. -/
def thresholdAt (p : Nat) : Nat :=
  s.maxWeight - s.stride * (p / s.nodes.length % s.laps)

/-- Does the cursor stop at a place? -/
def Stops (p : Nat) : Prop :=
  s.thresholdAt p ≤ (s.nodeAt p).weight

instance : DecidablePred s.Stops :=
  fun p => inferInstanceAs (Decidable (s.thresholdAt p ≤ (s.nodeAt p).weight))

/-- The cursor stands at a place of its walk. -/
structure StandsAt (p : Nat) : Prop where
  index : s.index = p % s.nodes.length
  threshold : s.threshold = s.thresholdAt p

variable {s}

theorem StandsAt.current_eq {p : Nat} (h : s.StandsAt p) : s.current = s.nodeAt p := by
  unfold current nodeAt
  congr 1
  exact Fin.ext h.index

theorem StandsAt.stops_iff {p : Nat} (h : s.StandsAt p) :
    s.Stops p ↔ s.threshold ≤ s.current.weight := by
  rw [h.threshold, h.current_eq]
  rfl

/-- The threshold of a lap is the one that follows that of the lap before. -/
theorem nextThreshold_thresholdAt {p : Nat} (hlap : (p + 1) % s.nodes.length = 0) :
    s.nextThreshold (s.thresholdAt p) = s.thresholdAt (p + 1) := by
  have hnext : (p + 1) / s.nodes.length = p / s.nodes.length + 1 := by
    rw [Nat.succ_div, if_pos (Nat.dvd_of_mod_eq_zero hlap)]
  have hlt : p / s.nodes.length % s.laps < s.laps := Nat.mod_lt _ s.laps_pos
  rw [nextThreshold, thresholdAt, thresholdAt, hnext, maxWeight_eq, ← Nat.mod_add_mod]
  generalize p / s.nodes.length % s.laps = lap at hlt
  rw [← Nat.mul_sub, ← Nat.mul_sub, ← Nat.mul_sub_one]
  rcases Nat.lt_or_eq_of_le hlt with hmore | hlast
  · -- The threshold is not spent yet.
    have hrest : s.stride * (s.laps - lap - 1) ≠ 0 :=
      (Nat.mul_pos s.stride_pos (by omega)).ne'
    rw [if_neg hrest, Nat.mod_eq_of_lt hmore, Nat.sub_sub]
  · have hspent : s.laps - lap - 1 = 0 := by omega
    rw [if_pos (by rw [hspent, Nat.mul_zero]), ← hlast, Nat.mod_self, Nat.sub_zero]

/-- The cursor walks from place to place. -/
theorem StandsAt.step {p : Nat} (h : s.StandsAt p) : s.step.StandsAt (p + 1) := by
  have hindex : (s.index + 1) % s.nodes.length = (p + 1) % s.nodes.length := by
    rw [h.index, Nat.mod_add_mod]
  refine ⟨hindex, ?_⟩
  show (if (s.index + 1) % s.nodes.length = 0 then s.nextThreshold s.threshold else s.threshold) =
    s.thresholdAt (p + 1)
  rw [hindex, h.threshold]
  by_cases hlap : (p + 1) % s.nodes.length = 0
  · rw [if_pos hlap, nextThreshold_thresholdAt hlap]
  · have hsame : (p + 1) / s.nodes.length = p / s.nodes.length := by
      rw [Nat.succ_div, if_neg fun hdvd => hlap (Nat.mod_eq_zero_of_dvd hdvd), Nat.add_zero]
    rw [if_neg hlap, thresholdAt, thresholdAt, hsame]

/-! ## Picks -/

/-- The cursor is about to come to a place, as it is right behind the place before. A fresh selector is
about to come to the first place, although its spent threshold is that of no place. -/
def IsBefore (s : WeightedRoundRobin α) (p : Nat) : Prop :=
  s.step.StandsAt p

/-- A heaviest node stops the cursor in any lap, so the next stop is less than a lap away. -/
theorem exists_stop (s : WeightedRoundRobin α) (p : Nat) : ∃ j < s.nodes.length, s.Stops (p + j) := by
  obtain ⟨n, hn, hw⟩ := s.exists_heaviest
  obtain ⟨i, hi, rfl⟩ := List.getElem_of_mem hn
  have hlen := s.length_pos
  have hp : p % s.nodes.length < s.nodes.length := Nat.mod_lt _ hlen
  refine ⟨(i + (s.nodes.length - p % s.nodes.length)) % s.nodes.length, Nat.mod_lt _ hlen, ?_⟩
  have hplace : (p + (i + (s.nodes.length - p % s.nodes.length)) % s.nodes.length) %
      s.nodes.length = i := by
    rw [Nat.add_mod_mod, ← Nat.mod_add_mod, Nat.add_left_comm, Nat.add_sub_cancel' hp.le,
      Nat.add_mod_right, Nat.mod_eq_of_lt hi]
  have hnode : (s.nodeAt (p + (i + (s.nodes.length - p % s.nodes.length)) % s.nodes.length)) =
      s.nodes[i] := by
    simp only [nodeAt, hplace, List.get_eq_getElem]
  rw [Stops, hnode, hw]
  exact Nat.sub_le _ _

/-- The cursor moves on to the next stop. -/
theorem IsBefore.seek {fuel p : Nat} (h : s.IsBefore p) (hstop : ∃ j < fuel, s.Stops (p + j)) :
    ∃ q, (seek fuel s).StandsAt q ∧ s.Stops q ∧ Nat.count s.Stops q = Nat.count s.Stops p := by
  induction fuel generalizing s p with
  | zero => obtain ⟨j, hj, -⟩ := hstop; omega
  | succ fuel ih =>
    rw [WeightedRoundRobin.seek]
    by_cases hp : s.Stops p
    · exact ⟨p, by rwa [if_pos (h.stops_iff.1 hp)], hp, rfl⟩
    · rw [if_neg fun hle => hp (h.stops_iff.2 hle)]
      obtain ⟨q, hq⟩ := ih (s := s.step) h.step <| by
        obtain ⟨j, hj, hjp⟩ := hstop
        match j with
        | 0 => exact absurd hjp hp
        | j + 1 => exact ⟨j, by omega, by rwa [Nat.add_assoc, Nat.add_comm 1]⟩
      refine ⟨q, hq.1, hq.2.1, hq.2.2.trans ?_⟩
      exact Nat.count_succ_eq_count_iff.2 hp

/-- A pick moves the cursor on to the next stop. -/
theorem IsBefore.advance {p : Nat} (h : s.IsBefore p) :
    ∃ q, s.advance.StandsAt q ∧ s.Stops q ∧ Nat.count s.Stops q = Nat.count s.Stops p :=
  h.seek (s.exists_stop p)

@[simp] theorem nodes_seek (fuel : Nat) (s : WeightedRoundRobin α) :
    (seek fuel s).nodes = s.nodes := by
  induction fuel generalizing s with
  | zero => rfl
  | succ fuel ih =>
    rw [seek]
    split
    · rfl
    · exact ih s.step

@[simp] theorem nodes_advance (s : WeightedRoundRobin α) : s.advance.nodes = s.nodes :=
  nodes_seek ..

/-- The selector after some picks. -/
def after (s : WeightedRoundRobin α) (picks : Nat) : WeightedRoundRobin α :=
  (fun s => s.select.2)^[picks] s

/-- The node that is picked after some picks. -/
def pick (s : WeightedRoundRobin α) (picks : Nat) : Node α :=
  (s.after picks).select.1

/-- The place in the list of the node that is picked after some picks. -/
def turn (s : WeightedRoundRobin α) (picks : Nat) : Nat :=
  (s.after (picks + 1)).index

theorem after_succ (s : WeightedRoundRobin α) (picks : Nat) :
    s.after (picks + 1) = (s.after picks).advance :=
  Function.iterate_succ_apply' ..

@[simp] theorem nodes_after (s : WeightedRoundRobin α) (picks : Nat) :
    (s.after picks).nodes = s.nodes := by
  induction picks with
  | zero => rfl
  | succ picks ih => rw [after_succ, nodes_advance, ih]

/-- Selectors over the same nodes stop at the same places. -/
theorem count_stops_congr {s s' : WeightedRoundRobin α} (h : s'.nodes = s.nodes) (p : Nat) :
    (s'.Stops p ↔ s.Stops p) ∧ Nat.count s'.Stops p = Nat.count s.Stops p := by
  cases s
  cases s'
  cases h
  exact ⟨Iff.rfl, rfl⟩

/-- After some picks, the cursor is about to come to a place. The next pick moves it on to the next
stop. -/
theorem IsBefore.next {picks p : Nat} (h : (s.after picks).IsBefore p) :
    ∃ q, (s.after (picks + 1)).StandsAt q ∧ s.Stops q ∧
      Nat.count s.Stops q = Nat.count s.Stops p := by
  obtain ⟨q, hq, hstop, hcount⟩ := h.advance
  have hnodes := s.nodes_after picks
  rw [(count_stops_congr hnodes q).1] at hstop
  rw [(count_stops_congr hnodes q).2, (count_stops_congr hnodes p).2] at hcount
  exact ⟨q, after_succ s picks ▸ hq, hstop, hcount⟩

/-- After some picks, that many stops lie behind the cursor. -/
theorem IsBefore.after (h : s.IsBefore 0) (picks : Nat) :
    ∃ p, (s.after picks).IsBefore p ∧ Nat.count s.Stops p = picks := by
  induction picks with
  | zero => exact ⟨0, h, Nat.count_zero _⟩
  | succ picks ih =>
    obtain ⟨p, hp, hcount⟩ := ih
    obtain ⟨q, hq, hstop, hqp⟩ := hp.next
    exact ⟨q + 1, hq.step, by rw [Nat.count_succ, if_pos hstop, hqp, hcount]⟩

/-- **The picks of a fresh selector are its stops in order**: what is picked after some picks is the
stop that has as many stops before it. -/
theorem IsBefore.standsAt_after (h : s.IsBefore 0) (picks : Nat) :
    ∃ q, (s.after (picks + 1)).StandsAt q ∧ s.Stops q ∧ Nat.count s.Stops q = picks := by
  obtain ⟨p, hp, hcount⟩ := h.after picks
  obtain ⟨q, hq, hstop, hqp⟩ := hp.next
  exact ⟨q, hq, hstop, hqp.trans hcount⟩

/-- The turn of a stop is known by the number of stops before it. -/
theorem IsBefore.turn_count (h : s.IsBefore 0) {q : Nat} (hq : s.Stops q) :
    s.turn (Nat.count s.Stops q) = q % s.nodes.length := by
  obtain ⟨p, hp, hstop, hcount⟩ := h.standsAt_after (Nat.count s.Stops q)
  obtain rfl := Nat.count_injective hstop hq hcount
  exact hp.index.trans (by rw [nodes_after])

/-- What is picked is the node whose turn it is. -/
theorem getElem?_turn (s : WeightedRoundRobin α) (picks : Nat) :
    s.nodes[s.turn picks]? = some (s.pick picks) := by
  have hlt : (s.after (picks + 1)).index < (s.after (picks + 1)).nodes.length :=
    (s.after (picks + 1)).index_lt
  have hpick : s.pick picks = (s.after (picks + 1)).current := by
    rw [after_succ]
    rfl
  rw [hpick, turn, ← s.nodes_after (picks + 1), List.getElem?_eq_getElem hlt]
  rfl

/-- A selector can be built over nodes with weights, and it is about to come to the first place. -/
theorem ofNodes_isBefore {nodes : List (Node α)} (hne : nodes ≠ [])
    (hpos : ∀ n ∈ nodes, 0 < n.weight) :
    ∃ s, ofNodes nodes = .ok s ∧ s.nodes = nodes ∧ s.IsBefore 0 := by
  unfold ofNodes
  rw [dif_neg hne]
  split
  · next node hw => rw [firstUnweighted_eq_none_iff.2 hpos] at hw; cases hw
  · refine ⟨_, rfl, rfl, ?_⟩
    have hwrap : (nodes.length - 1 + 1) % nodes.length = 0 := by
      rw [Nat.sub_add_cancel (List.length_pos_iff.2 hne), Nat.mod_self]
    constructor
    · exact hwrap.trans (Nat.zero_mod _).symm
    · -- A spent threshold is followed by the largest weight.
      show (if (nodes.length - 1 + 1) % nodes.length = 0 then nextThreshold _ 0 else 0) =
        thresholdAt _ 0
      rw [if_pos hwrap, nextThreshold, if_pos (Nat.zero_sub _), thresholdAt, Nat.zero_div,
        Nat.zero_mod, Nat.mul_zero, Nat.sub_zero]
      rfl

end WeightedRoundRobin

end TrafficGateway
