import Mathlib.Data.Multiset.Lattice
import Mathlib.Order.Lattice.Nat
import TrafficGateway.Proofs.Balance.Walk

/-!
# The search of the weighted cursor ends

Looking for the next node, the cursor moves on until it finds one, and nothing says how often. What ends
the search is the threshold. In all states that picks lead to it is a positive multiple of the greatest
common divisor of the weights, and not above the largest one (`IsThreshold`); only before the first pick
it is zero, with the cursor about to start a lap (`Ready`). So a heaviest node always reaches it, and the
search does not get past the next one of these, which is at most one lap away
(`search_ends_within_lap`).

## Main definitions

* `WeightedRoundRobin.Search`: a search, with no bound on the number of its steps.
* `WeightedRoundRobin.IsThreshold`: what the threshold of a lap can be.
* `WeightedRoundRobin.Ready`: the next step of the cursor has such a threshold.
-/

namespace TrafficGateway

namespace WeightedRoundRobin

variable {α : Type} {s t u : WeightedRoundRobin α}

/-- A search for the next node that starts with the cursor of `s` and ends with that of `t`, after some
number of steps. It ends as soon as a node reaches the threshold. -/
inductive Search : WeightedRoundRobin α → Nat → WeightedRoundRobin α → Prop where
  | found {s : WeightedRoundRobin α} (h : s.step.threshold ≤ s.step.current.weight) :
      Search s 1 s.step
  | goOn {s t : WeightedRoundRobin α} {steps : Nat}
      (h : s.step.current.weight < s.step.threshold) (rest : Search s.step steps t) :
      Search s (steps + 1) t

/-! ## Searches -/

/-- There is only one way to search. -/
theorem Search.unique {j k : Nat} (h : s.Search j t) (h' : s.Search k u) : j = k ∧ t = u := by
  induction h generalizing k with
  | found hle =>
    cases h' with
    | found => exact ⟨rfl, rfl⟩
    | goOn hlt => omega
  | goOn hlt rest ih =>
    cases h' with
    | found hle => omega
    | goOn _ rest' =>
      obtain ⟨rfl, rfl⟩ := ih rest'
      exact ⟨rfl, rfl⟩

/-- A bound on the number of steps makes no difference to a search that ends within it. -/
theorem Search.seek_eq {steps laps : Nat} (h : s.Search steps t) (hle : steps ≤ laps) :
    seek laps s = t := by
  induction h generalizing laps with
  | found hreach =>
    obtain ⟨laps, rfl⟩ := Nat.exists_eq_add_of_le' hle
    rw [seek, if_pos hreach]
  | goOn hlt rest ih =>
    obtain ⟨laps, rfl⟩ := Nat.exists_eq_add_of_le' (Nat.le_trans (Nat.le_add_left 1 _) hle)
    rw [seek, if_neg (Nat.not_le.2 hlt), ih (Nat.le_of_succ_le_succ hle)]

/-! ## Thresholds -/

/-- What the threshold of a lap can be: a positive multiple of the stride that is not above the largest
weight. -/
structure IsThreshold (s : WeightedRoundRobin α) (threshold : Nat) : Prop where
  pos : 0 < threshold
  dvd : s.stride ∣ threshold
  le : threshold ≤ s.maxWeight

/-- The cursor is in a lap that has a threshold, or it stands at the end of one whose threshold is
spent. -/
def Ready (s : WeightedRoundRobin α) : Prop :=
  (s.threshold = 0 ∧ s.index + 1 = s.nodes.length) ∨ s.IsThreshold s.threshold

theorem isThreshold_maxWeight (s : WeightedRoundRobin α) : s.IsThreshold s.maxWeight where
  pos := by
    obtain ⟨n, hn, hw⟩ := s.exists_heaviest
    exact hw ▸ s.weight_pos n hn
  dvd := ⟨s.laps, s.maxWeight_eq⟩
  le := Nat.le_refl _

/-- The threshold sinks by the stride, or starts again at the largest weight. -/
theorem isThreshold_nextThreshold {threshold : Nat}
    (h : threshold = 0 ∨ s.IsThreshold threshold) : s.IsThreshold (s.nextThreshold threshold) := by
  rw [nextThreshold]
  by_cases hspent : threshold - s.stride = 0
  · rw [if_pos hspent]
    exact s.isThreshold_maxWeight
  · rw [if_neg hspent]
    rcases h with rfl | h
    · exact absurd (Nat.zero_sub _) hspent
    · exact
        { pos := Nat.pos_of_ne_zero hspent
          dvd := Nat.dvd_sub h.dvd (Nat.dvd_refl _)
          le := (Nat.sub_le _ _).trans h.le }

/-- A step comes to a node of a lap that has a threshold. -/
theorem Ready.step (h : s.Ready) : s.step.IsThreshold s.step.threshold := by
  have hnext : s.IsThreshold (if (s.index + 1) % s.nodes.length = 0 then s.nextThreshold s.threshold
      else s.threshold) := by
    by_cases hlap : (s.index + 1) % s.nodes.length = 0
    · rw [if_pos hlap]
      exact isThreshold_nextThreshold (h.imp_left And.left)
    · rw [if_neg hlap]
      rcases h with ⟨-, hend⟩ | h
      · exact absurd (hend ▸ Nat.mod_self _) hlap
      · exact h
  exact ⟨hnext.pos, hnext.dvd, hnext.le⟩

theorem Search.isThreshold {steps : Nat} (h : s.Search steps t) (hready : s.Ready) :
    t.IsThreshold t.threshold := by
  induction h with
  | found => exact hready.step
  | goOn _ _ ih => exact ih (.inr hready.step)

/-! ## The way to a heaviest node -/

/-- A search does not get past a heaviest node. -/
theorem Ready.search_of_heaviest (h : s.Ready) {i : Fin s.nodes.length}
    (hi : (s.nodes.get i).weight = s.maxWeight) {between : Nat}
    (hway : (s.index + between + 1) % s.nodes.length = i) :
    ∃ steps t, steps ≤ between + 1 ∧ s.Search steps t := by
  induction between generalizing s with
  | zero =>
    have hcurrent : s.step.current = s.nodes.get i := congrArg s.nodes.get (Fin.ext hway)
    refine ⟨1, s.step, Nat.le_refl 1, .found ?_⟩
    rw [hcurrent, hi]
    exact h.step.le
  | succ between ih =>
    by_cases hreach : s.step.threshold ≤ s.step.current.weight
    · exact ⟨1, s.step, by omega, .found hreach⟩
    · have hrest : (s.step.index + between + 1) % s.step.nodes.length = i := by
        show ((s.index + 1) % s.nodes.length + between + 1) % s.nodes.length = i
        rw [Nat.add_assoc, Nat.mod_add_mod, ← hway]
        congr 1
        omega
      obtain ⟨steps, t, hle, hsearch⟩ := ih (s := s.step) (.inr h.step) hi hrest
      exact ⟨steps + 1, t, by omega, .goOn (Nat.not_le.1 hreach) hsearch⟩

/-- From anywhere, a place is less than a lap away. -/
theorem exists_way (s : WeightedRoundRobin α) (i : Fin s.nodes.length) :
    ∃ between < s.nodes.length, (s.index + between + 1) % s.nodes.length = i := by
  have hlt := s.index_lt
  have hi := i.isLt
  by_cases hahead : s.index < i
  · refine ⟨i - s.index - 1, by omega, ?_⟩
    rw [show s.index + (i - s.index - 1) + 1 = i by omega, Nat.mod_eq_of_lt hi]
  · refine ⟨i + s.nodes.length - s.index - 1, by omega, ?_⟩
    rw [show s.index + (i + s.nodes.length - s.index - 1) + 1 = i + s.nodes.length by omega,
      Nat.add_mod_right, Nat.mod_eq_of_lt hi]

/-- A search is over after at most one lap, and is what a pick does. -/
theorem Ready.search (h : s.Ready) :
    ∃ steps ≤ s.nodes.length, s.Search steps s.advance := by
  obtain ⟨n, hn, hw⟩ := s.exists_heaviest
  obtain ⟨i, rfl⟩ := List.get_of_mem hn
  obtain ⟨between, hlt, hway⟩ := s.exists_way i
  obtain ⟨steps, t, hle, hsearch⟩ := h.search_of_heaviest hw hway
  have hlap : steps ≤ s.nodes.length := by omega
  obtain rfl := hsearch.seek_eq hlap
  exact ⟨steps, hlap, hsearch⟩

theorem Ready.advance (h : s.Ready) : s.advance.IsThreshold s.advance.threshold := by
  obtain ⟨steps, -, hsearch⟩ := h.search
  exact hsearch.isThreshold h

/-! ## Picks -/

/-- Picks lead to states with a threshold. -/
theorem Ready.after_succ (h : s.Ready) (picks : Nat) :
    (s.after (picks + 1)).IsThreshold (s.after (picks + 1)).threshold := by
  induction picks with
  | zero => exact h.advance
  | succ picks ih =>
    rw [WeightedRoundRobin.after_succ s (picks + 1)]
    exact Ready.advance (.inr ih)

theorem Ready.after (h : s.Ready) (picks : Nat) : (s.after picks).Ready := by
  cases picks with
  | zero => exact h
  | succ picks => exact .inr (h.after_succ picks)

theorem maxWeight_eq_sup (s : WeightedRoundRobin α) :
    s.maxWeight = (s.nodes.map (·.weight) : Multiset Nat).sup := by
  rw [Multiset.sup, Multiset.coe_fold_l]
  rfl

/-- A fresh selector stands at the end of a lap whose threshold is spent. -/
theorem fresh_of_ofNodes {nodes : List (Node α)} (hs : ofNodes nodes = .ok s) :
    s.threshold = 0 ∧ s.index + 1 = s.nodes.length := by
  unfold ofNodes at hs
  split at hs
  · cases hs
  · next hne =>
    split at hs
    · cases hs
    · cases hs
      exact ⟨rfl, Nat.sub_add_cancel (List.length_pos_iff.2 hne)⟩

/-- **The search for the next node ends within a lap.** Over `n` nodes with weights, of which `g` is the
greatest common divisor and `M` the largest, take any state that picks lead to. The cursor is at one of
the nodes, and the threshold is a positive multiple of `g` up to `M`, or zero before the first pick. From
there exactly one search is possible. It has at most `n` steps and ends where the next pick leaves the
selector. -/
theorem search_ends_within_lap {nodes : List (Node α)} (hne : nodes ≠ [])
    (hpos : ∀ n ∈ nodes, 0 < n.weight) :
    let g := (nodes.map (·.weight) : Multiset Nat).gcd
    let M := (nodes.map (·.weight) : Multiset Nat).sup
    ∃ s, ofNodes nodes = .ok s ∧ ∀ picks,
      let t := s.after picks
      t.nodes = nodes ∧ t.index < nodes.length ∧
      ((picks = 0 ∧ t.threshold = 0) ∨ (0 < t.threshold ∧ g ∣ t.threshold ∧ t.threshold ≤ M)) ∧
      ∃ steps ≤ nodes.length, ∀ k u, t.Search k u ↔ k = steps ∧ u = s.after (picks + 1) := by
  obtain ⟨s, hs, rfl, -⟩ := ofNodes_isBefore hne hpos
  obtain ⟨hspent, hend⟩ := fresh_of_ofNodes hs
  have hready : s.Ready := .inl ⟨hspent, hend⟩
  intro g M
  refine ⟨s, hs, fun picks => ?_⟩
  intro t
  have hnodes : t.nodes = s.nodes := s.nodes_after picks
  have hg : t.stride = g := by rw [stride_eq_gcd, hnodes]
  have hM : t.maxWeight = M := by rw [maxWeight_eq_sup, hnodes]
  refine ⟨hnodes, hnodes ▸ t.index_lt, ?_, ?_⟩
  · cases picks with
    | zero => exact .inl ⟨rfl, hspent⟩
    | succ picks =>
      obtain ⟨hlow, hdvd, hle⟩ := hready.after_succ picks
      exact .inr ⟨hlow, hg ▸ hdvd, hM ▸ hle⟩
  · obtain ⟨steps, hlap, hsearch⟩ := (hready.after picks).search
    refine ⟨steps, hnodes ▸ hlap, fun k u => ?_⟩
    rw [after_succ]
    constructor
    · exact fun h => h.unique hsearch
    · rintro ⟨rfl, rfl⟩
      exact hsearch

/-- Over nodes of weights four, two and six, the thresholds are two, four and six, and a search has at
most three steps. -/
theorem search_ends_within_lap_four_two_six :
    let nodes : List (Node Nat) := [⟨"a", 0, 4⟩, ⟨"b", 1, 2⟩, ⟨"c", 2, 6⟩]
    nodes ≠ [] ∧ (∀ n ∈ nodes, 0 < n.weight) ∧ ∃ s, ofNodes nodes = .ok s ∧ ∀ picks,
      (s.after picks).index < 3 ∧ (s.after picks).threshold ∈ [0, 2, 4, 6] ∧
      ∃ steps ≤ 3, (s.after picks).Search steps (s.after (picks + 1)) := by
  intro nodes
  have hg : (nodes.map (·.weight) : Multiset Nat).gcd = 2 := by decide
  have hM : (nodes.map (·.weight) : Multiset Nat).sup = 6 := by decide
  have hne : nodes ≠ [] := by decide
  have hpos : ∀ n ∈ nodes, 0 < n.weight := by decide
  obtain ⟨s, hs, hstates⟩ := search_ends_within_lap hne hpos
  rw [hg, hM] at hstates
  refine ⟨hne, hpos, s, hs, fun picks => ?_⟩
  obtain ⟨-, hindex, hthreshold, steps, hlap, hsearch⟩ := hstates picks
  refine ⟨hindex, ?_, steps, hlap, (hsearch _ _).2 ⟨rfl, rfl⟩⟩
  simp only [List.mem_cons, List.not_mem_nil, or_false]
  omega

end WeightedRoundRobin

end TrafficGateway
