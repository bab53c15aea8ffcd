import TrafficGateway.Proofs.Balance.Proportion

/-!
# Heavy nodes are interleaved with light ones

Between two picks of a node, each node that is at least as heavy is picked exactly once, except on the
way over the end of a period, where the threshold is reset from the smallest weight to the largest one:
there the laps that the light node does not reach come in a row, and a heavier node is picked in each of
them that it reaches (`turn_interleaved`).

The threshold is reset where the walk comes to a whole number of periods. Since a period has `C` picks,
these are the picks whose number is a multiple of `C` (`IsBefore.resetsInPick_after_iff`).

## Main definitions

* `WeightedRoundRobin.Resets`, `WeightedRoundRobin.ResetsInPick`: does the next step of the cursor reset
  the threshold, and does the next pick?
* `WeightedRoundRobin.IsGap`: two picks of a node and none of it between them.
* `WeightedRoundRobin.ResetsBetween`: is the threshold reset between two picks?
-/

namespace TrafficGateway

namespace WeightedRoundRobin

variable {α : Type} {s : WeightedRoundRobin α}

/-- The next step of the cursor resets the threshold to the largest weight: it comes to the first node,
and nothing is left of the threshold. -/
def Resets (s : WeightedRoundRobin α) : Prop :=
  (s.index + 1) % s.nodes.length = 0 ∧ s.threshold - s.stride = 0

/-- The cursor resets the threshold on its way to the next stop, over at most `laps` nodes. -/
def ResetsOnWay : Nat → WeightedRoundRobin α → Prop
  | 0, _ => False
  | laps + 1, s =>
    s.Resets ∨ (¬s.step.threshold ≤ s.step.current.weight ∧ ResetsOnWay laps s.step)

/-- The next pick resets the threshold. -/
def ResetsInPick (s : WeightedRoundRobin α) : Prop :=
  ResetsOnWay s.nodes.length s

/-- The node at place `i` of the list is picked twice, and not between these picks. -/
structure IsGap (s : WeightedRoundRobin α) (i k k' : Nat) : Prop where
  lt : k < k'
  first : s.turn k = i
  last : s.turn k' = i
  between : ∀ m, k < m → m < k' → s.turn m ≠ i

/-- The threshold is reset after one pick and not later than in another. -/
def ResetsBetween (s : WeightedRoundRobin α) (k k' : Nat) : Prop :=
  ∃ m, k < m ∧ m ≤ k' ∧ (s.after m).ResetsInPick

/-! ## Where the threshold is reset -/

theorem period_dvd_iff {p : Nat} :
    s.period ∣ p ↔ p % s.nodes.length = 0 ∧ p / s.nodes.length % s.laps = 0 := by
  constructor
  · rintro ⟨a, rfl⟩
    rw [period, Nat.mul_assoc, Nat.mul_mod_right, Nat.mul_div_cancel_left _ s.length_pos,
      Nat.mul_mod_right]
    exact ⟨rfl, rfl⟩
  · rintro ⟨hplace, hlap⟩
    rw [period, ← Nat.div_mul_cancel (Nat.dvd_of_mod_eq_zero hplace), Nat.mul_comm]
    exact Nat.mul_dvd_mul_right (Nat.dvd_of_mod_eq_zero hlap) _

/-- The threshold is reset on coming to a whole number of periods. -/
theorem IsBefore.resets_iff {p : Nat} (h : s.IsBefore p) (hle : s.threshold ≤ s.maxWeight) :
    s.Resets ↔ s.period ∣ p := by
  have hindex : (s.index + 1) % s.nodes.length = p % s.nodes.length := h.index
  have hthreshold : (if (s.index + 1) % s.nodes.length = 0 then s.nextThreshold s.threshold
      else s.threshold) = s.thresholdAt p := h.threshold
  rw [Resets, period_dvd_iff, hindex]
  refine and_congr_right fun hplace => ?_
  rw [hindex, if_pos hplace, nextThreshold, thresholdAt] at hthreshold
  have hlap : s.stride * (p / s.nodes.length % s.laps) ≤ s.maxWeight := by
    rw [maxWeight_eq]
    exact Nat.mul_le_mul_left _ (Nat.mod_lt _ s.laps_pos).le
  have hpos : 0 < s.stride := s.stride_pos
  have hmax : 0 < s.maxWeight := by
    rw [maxWeight_eq]
    exact Nat.mul_pos hpos s.laps_pos
  constructor
  · intro hspent
    rw [if_pos hspent] at hthreshold
    have hzero : s.stride * (p / s.nodes.length % s.laps) = 0 := by omega
    exact (Nat.mul_eq_zero.1 hzero).resolve_left hpos.ne'
  · intro hzero
    rw [hzero, Nat.mul_zero, Nat.sub_zero] at hthreshold
    by_contra hspent
    rw [if_neg hspent] at hthreshold
    omega

theorem StandsAt.threshold_le {p : Nat} (h : s.StandsAt p) : s.threshold ≤ s.maxWeight := by
  rw [h.threshold]
  exact Nat.sub_le _ _

/-- On its way to the next stop the cursor resets the threshold if a whole number of periods is
reached before the stop or at it. -/
theorem IsBefore.resetsOnWay_iff {fuel p : Nat} (h : s.IsBefore p) (hle : s.threshold ≤ s.maxWeight)
    (hstop : ∃ j < fuel, s.Stops (p + j)) :
    ResetsOnWay fuel s ↔
      ∃ r, p ≤ r ∧ s.period ∣ r ∧ Nat.count s.Stops r = Nat.count s.Stops p := by
  induction fuel generalizing s p with
  | zero => obtain ⟨j, hj, -⟩ := hstop; omega
  | succ fuel ih =>
    rw [ResetsOnWay, h.resets_iff hle]
    have hstops : s.Stops p ↔ s.step.threshold ≤ s.step.current.weight := h.stops_iff
    rw [← hstops]
    by_cases hp : s.Stops p
    · -- The cursor stops here.
      constructor
      · rintro (hdvd | ⟨hnot, -⟩)
        · exact ⟨p, Nat.le_refl p, hdvd, rfl⟩
        · exact absurd hp hnot
      · rintro ⟨r, hpr, hdvd, hcount⟩
        obtain rfl | hlt := Nat.eq_or_lt_of_le hpr
        · exact .inl hdvd
        · exact absurd hcount (Nat.count_strict_mono hp hlt).ne'
    · have hcount : Nat.count s.Stops (p + 1) = Nat.count s.Stops p :=
        Nat.count_succ_eq_count_iff.2 hp
      have hnext := ih (s := s.step) (p := p + 1) h.step h.threshold_le <| by
        obtain ⟨j, hj, hjp⟩ := hstop
        match j with
        | 0 => exact absurd hjp hp
        | j + 1 => exact ⟨j, by omega, by rwa [Nat.add_assoc, Nat.add_comm 1]⟩
      rw [hnext]
      constructor
      · rintro (hdvd | ⟨-, r, hpr, hdvd, hr⟩)
        · exact ⟨p, Nat.le_refl p, hdvd, rfl⟩
        · exact ⟨r, by omega, hdvd, hr.trans hcount⟩
      · rintro ⟨r, hpr, hdvd, hr⟩
        obtain rfl | hlt := Nat.eq_or_lt_of_le hpr
        · exact .inl hdvd
        · exact .inr ⟨hp, r, hlt, hdvd, hr.trans hcount.symm⟩

/-- Every period has as many stops as the first one. -/
theorem count_stops_mul_add (s : WeightedRoundRobin α) (a r : Nat) :
    Nat.count s.Stops (s.period * a + r) =
      Nat.count s.Stops s.period * a + Nat.count s.Stops r := by
  induction a with
  | zero => rw [Nat.mul_zero, Nat.mul_zero, Nat.zero_add, Nat.zero_add]
  | succ a ih =>
    have hshift : Nat.count (fun j => s.Stops (s.period + j)) (s.period * a + r) =
        Nat.count s.Stops (s.period * a + r) :=
      count_congr fun j _ => by rw [Nat.add_comm, s.stops_periodic j]
    rw [Nat.mul_succ, Nat.add_right_comm, Nat.add_comm, Nat.count_add, hshift, ih, Nat.mul_succ]
    omega

theorem count_stops_mul (s : WeightedRoundRobin α) (a : Nat) :
    Nat.count s.Stops (s.period * a) = Nat.count s.Stops s.period * a :=
  s.count_stops_mul_add a 0

/-- After some picks, the cursor is about to come to the first place before which that many stops
lie. -/
theorem IsBefore.after_first (h : s.IsBefore 0) (hle : s.threshold ≤ s.maxWeight) (picks : Nat) :
    ∃ p, (s.after picks).IsBefore p ∧ (s.after picks).threshold ≤ s.maxWeight ∧
      Nat.count s.Stops p = picks ∧ ∀ r, Nat.count s.Stops r = picks → p ≤ r := by
  cases picks with
  | zero => exact ⟨0, h, hle, Nat.count_zero _, fun r _ => Nat.zero_le r⟩
  | succ picks =>
    obtain ⟨q, hq, hstop, hcount⟩ := h.standsAt_after picks
    refine ⟨q + 1, hq.step, ?_, ?_, fun r hr => ?_⟩
    · have hthreshold := hq.threshold_le
      rwa [maxWeight, nodes_after] at hthreshold
    · rw [Nat.count_succ, if_pos hstop, hcount]
    · by_contra hrq
      have hmono := Nat.count_monotone s.Stops (Nat.le_of_lt_succ (Nat.lt_of_not_le hrq))
      omega

/-- **The threshold is reset in every pick whose number is a multiple of the picks of a period.** -/
theorem IsBefore.resetsInPick_after_iff (h : s.IsBefore 0) (hle : s.threshold ≤ s.maxWeight)
    (picks : Nat) :
    (s.after picks).ResetsInPick ↔ Nat.count s.Stops s.period ∣ picks := by
  obtain ⟨p, hp, hthreshold, hcount, hfirst⟩ := h.after_first hle picks
  have hnodes := s.nodes_after picks
  have hmax : (s.after picks).maxWeight = s.maxWeight := by rw [maxWeight, maxWeight, hnodes]
  have hperiod : (s.after picks).period = s.period := by
    rw [period, period, laps, laps, maxWeight, maxWeight, stride, stride, hnodes]
  rw [ResetsInPick, hp.resetsOnWay_iff (hmax ▸ hthreshold) ((s.after picks).exists_stop p), hperiod]
  constructor
  · rintro ⟨r, -, ⟨a, rfl⟩, hr⟩
    rw [(count_stops_congr hnodes _).2, (count_stops_congr hnodes p).2, count_stops_mul, hcount] at hr
    exact ⟨a, hr.symm⟩
  · rintro ⟨a, rfl⟩
    have hr : Nat.count s.Stops (s.period * a) = Nat.count s.Stops s.period * a := s.count_stops_mul a
    refine ⟨s.period * a, hfirst _ hr, Nat.dvd_mul_right _ _, ?_⟩
    rw [(count_stops_congr hnodes _).2, (count_stops_congr hnodes p).2, hr, hcount]

/-! ## Laps -/

/-- Among the places of a node before place `x` of some lap, those whose lap has some property. The lap
itself counts if the node is in front of `x`. -/
theorem count_laps_add (P : Nat → Prop) [DecidablePred P] {n j x : Nat} (hj : j < n) (hx : x ≤ n)
    (lap : Nat) :
    Nat.count (fun p => P (p / n) ∧ p % n = j) (n * lap + x) =
      Nat.count P (lap + if j < x then 1 else 0) := by
  have hpart : Nat.count (fun r => P ((n * lap + r) / n) ∧ (n * lap + r) % n = j) x =
      Nat.count (fun r => P lap ∧ r = j) x := by
    refine count_congr fun r hr => ?_
    have hrn : r < n := Nat.lt_of_lt_of_le hr hx
    rw [Nat.mul_add_div (Nat.zero_lt_of_lt hj), Nat.div_eq_of_lt hrn, Nat.add_zero,
      Nat.mul_add_mod, Nat.mod_eq_of_lt hrn]
  rw [Nat.count_add, count_laps P hj, hpart]
  by_cases hjx : j < x
  · rw [if_pos hjx, Nat.count_succ]
    by_cases hP : P lap
    · simp only [hP, true_and, if_true, count_eq_of_lt hjx]
    · simp only [hP, false_and, if_false, Nat.count_false]
  · have hnone : Nat.count (fun r => P lap ∧ r = j) x = Nat.count (fun _ => False) x :=
      count_congr fun r hr => iff_of_false (fun hboth => hjx (hboth.2 ▸ hr)) id
    rw [if_neg hjx, hnone, Nat.count_false]
    rfl

/-- Of `a` times `L` laps and some more, those among the last `m` of their `L`. -/
theorem count_last_laps {L m : Nat} (hm : m ≤ L) (a : Nat) {x : Nat} (hx : x ≤ L) :
    Nat.count (fun lap => L - m ≤ lap % L) (L * a + x) = m * a + (x - (L - m)) := by
  have hrest : ∀ y ≤ L, Nat.count (fun lap => L - m ≤ lap % L) y = y - (L - m) := by
    intro y hy
    rw [← count_ge (L - m) y]
    refine count_congr fun lap hlap => ?_
    rw [Nat.mod_eq_of_lt (Nat.lt_of_lt_of_le hlap hy)]
  induction a with
  | zero => rw [Nat.mul_zero, Nat.mul_zero, Nat.zero_add, Nat.zero_add, hrest x hx]
  | succ a ih =>
    have hshift : Nat.count (fun lap => L - m ≤ (L + lap) % L) (L * a + x) =
        Nat.count (fun lap => L - m ≤ lap % L) (L * a + x) :=
      count_congr fun lap _ => by rw [Nat.add_mod_left]
    rw [Nat.mul_succ, Nat.add_comm (L * a), Nat.add_assoc, Nat.count_add, hshift, ih,
      hrest L (Nat.le_refl L), Nat.mul_succ]
    omega

/-- The laps in which a node is a stop are the last `m` of every `L`. So the next one comes at once, or
the laps begin anew and the first `L - m` of them are left out. -/
theorem next_lap_cases {L m lap lap' : Nat} (hm : 0 < m) (hmL : m ≤ L) (hlt : lap < lap')
    (hlap : L - m ≤ lap % L) (hlap' : L - m ≤ lap' % L)
    (hbetween : ∀ t, lap < t → t < lap' → ¬L - m ≤ t % L) :
    (lap' = lap + 1 ∧ ¬∃ a, lap < L * a ∧ L * a ≤ lap') ∨
      ∃ a, lap + 1 = L * (a + 1) ∧ lap' = L * (a + 1) + (L - m) := by
  have hL : 0 < L := Nat.lt_of_lt_of_le hm hmL
  have hrest : lap % L < L := Nat.mod_lt _ hL
  have hdiv : L * (lap / L) + lap % L = lap := Nat.div_add_mod lap L
  have hnext : L * (lap / L + 1) = L * (lap / L) + L := Nat.mul_succ L (lap / L)
  by_cases hlast : lap % L + 1 = L
  · -- The laps begin anew, and the first one in which the node is a stop is not passed by.
    right
    have hbegin : lap + 1 = L * (lap / L + 1) := by omega
    have hrest_new : ∀ y < L, (L * (lap / L + 1) + y) % L = y := fun y hy => by
      rw [Nat.mul_add_mod, Nat.mod_eq_of_lt hy]
    obtain ⟨y, hy⟩ := Nat.exists_eq_add_of_le (Nat.succ_le_of_lt hlt)
    have hfirst : L - m < L := Nat.sub_lt hL hm
    have hge : L - m ≤ y := by
      by_contra hyless
      have hyrest := hrest_new y (by omega)
      rw [hy, Nat.succ_eq_add_one, hbegin, hyrest] at hlap'
      exact hyless hlap'
    have hle : y ≤ L - m := by
      by_contra hymore
      have hstop := hrest_new (L - m) hfirst
      exact hbetween (L * (lap / L + 1) + (L - m)) (by omega) (by omega) hstop.ge
    exact ⟨lap / L, hbegin, by omega⟩
  · left
    have hstop : (lap + 1) % L = lap % L + 1 := by
      rw [← hdiv, Nat.add_assoc, Nat.mul_add_mod, Nat.mul_add_mod, Nat.mod_mod,
        Nat.mod_eq_of_lt (by omega)]
    have hlap_succ : lap' = lap + 1 := by
      by_contra hmore
      exact hbetween (lap + 1) (by omega) (by omega) (by omega)
    refine ⟨hlap_succ, ?_⟩
    rintro ⟨a, ha, ha'⟩
    have hbegin : lap + 1 = L * a := by omega
    rw [hbegin, Nat.mul_mod_right] at hstop
    omega

/-- From a stop of a node to its next one: a node that is a stop in `n` of `L` laps is one once in
between, or `n - m + 1` times if the laps begin anew on the way. The laps are shifted by one for a node
that stands in front of the first one. -/
theorem count_between_laps {L m n lap lap' shift : Nat} (hm : 0 < m) (hmn : m ≤ n) (hn : n ≤ L)
    (hlt : lap < lap') (hlap : L - m ≤ lap % L) (hlap' : L - m ≤ lap' % L)
    (hbetween : ∀ t, lap < t → t < lap' → ¬L - m ≤ t % L) (hshift : shift ≤ 1) :
    ((∃ a, lap < L * a ∧ L * a ≤ lap') →
      Nat.count (fun t => L - n ≤ t % L) (lap' + shift) =
        Nat.count (fun t => L - n ≤ t % L) (lap + shift) + (n - m + 1)) ∧
    ((¬∃ a, lap < L * a ∧ L * a ≤ lap') →
      Nat.count (fun t => L - n ≤ t % L) (lap' + shift) =
        Nat.count (fun t => L - n ≤ t % L) (lap + shift) + 1) := by
  rcases next_lap_cases hm (hmn.trans hn) hlt hlap hlap' hbetween with
    ⟨rfl, hwithin⟩ | ⟨a, hbegin, rfl⟩
  · have hstop : L - n ≤ (lap + shift) % L := by
      obtain rfl | rfl : shift = 0 ∨ shift = 1 := by omega
      · exact (Nat.sub_le_sub_left hmn L).trans hlap
      · exact (Nat.sub_le_sub_left hmn L).trans hlap'
    refine ⟨fun hover => absurd hover hwithin, fun _ => ?_⟩
    rw [Nat.add_right_comm, Nat.count_succ, if_pos hstop]
  · have hover : ∃ b, lap < L * b ∧ L * b ≤ L * (a + 1) + (L - m) :=
      ⟨a + 1, by omega, Nat.le_add_right _ _⟩
    refine ⟨fun _ => ?_, fun hwithin => absurd hover hwithin⟩
    have hlast : L * (a + 1) = L * a + L := Nat.mul_succ L a
    have hpicks : n * (a + 1) = n * a + n := Nat.mul_succ n a
    obtain rfl | rfl : shift = 0 ∨ shift = 1 := by omega
    · obtain rfl : lap = L * a + (L - 1) := by omega
      simp only [Nat.add_zero]
      rw [count_last_laps hn _ (by omega), count_last_laps hn _ (by omega)]
      omega
    · have hnew : lap + 1 = L * (a + 1) + 0 := hbegin
      rw [hnew, Nat.add_assoc, count_last_laps hn _ (by omega), count_last_laps hn _ (by omega)]
      omega

/-! ## Gaps -/

/-- In some lap, a node of weight `w` is a stop if the lap is one of the last `w / g` of its period. -/
theorem stops_in_lap_iff (s : WeightedRoundRobin α) {i : Nat} (hi : i < s.nodes.length) (lap : Nat) :
    s.Stops (s.nodes.length * lap + i) ↔
      s.laps - s.nodes[i].weight / s.stride ≤ lap % s.laps := by
  have hplace : (s.nodes.length * lap + i) % s.nodes.length = i := by
    rw [Nat.mul_add_mod, Nat.mod_eq_of_lt hi]
  have hlap : (s.nodes.length * lap + i) / s.nodes.length = lap := by
    rw [Nat.mul_add_div s.length_pos, Nat.div_eq_of_lt hi, Nat.add_zero]
  rw [s.stops_iff hi hplace, hlap]

/-- There are fewer stops before a stop than before another place just if it comes earlier. -/
theorem count_stops_lt_iff {q r : Nat} (hq : s.Stops q) :
    Nat.count s.Stops q < Nat.count s.Stops r ↔ q < r :=
  ⟨Nat.lt_of_count_lt_count, Nat.count_strict_mono hq⟩

/-- The stop of a node in some lap is a pick of it. -/
theorem IsBefore.turn_in_lap (h : s.IsBefore 0) {i lap : Nat} (hi : i < s.nodes.length)
    (hstop : s.Stops (s.nodes.length * lap + i)) :
    s.turn (Nat.count s.Stops (s.nodes.length * lap + i)) = i := by
  rw [h.turn_count hstop, Nat.mul_add_mod, Nat.mod_eq_of_lt hi]

/-- A pick of a node is its stop in some lap. -/
theorem IsBefore.exists_lap (h : s.IsBefore 0) (k : Nat) :
    ∃ lap, s.Stops (s.nodes.length * lap + s.turn k) ∧
      Nat.count s.Stops (s.nodes.length * lap + s.turn k) = k := by
  obtain ⟨q, -, hstop, hcount⟩ := h.standsAt_after k
  have hturn : s.turn k = q % s.nodes.length := hcount ▸ h.turn_count hstop
  refine ⟨q / s.nodes.length, ?_⟩
  rw [hturn, Nat.div_add_mod]
  exact ⟨hstop, hcount⟩

/-- A gap of a node reaches from its stop in one lap to its stop in another, and it is no stop in the
laps between them. -/
theorem IsBefore.exists_laps (h : s.IsBefore 0) {i k k' : Nat} (hi : i < s.nodes.length)
    (hgap : s.IsGap i k k') :
    ∃ lap lap', lap < lap' ∧
      s.Stops (s.nodes.length * lap + i) ∧ Nat.count s.Stops (s.nodes.length * lap + i) = k ∧
      s.Stops (s.nodes.length * lap' + i) ∧ Nat.count s.Stops (s.nodes.length * lap' + i) = k' ∧
      ∀ t, lap < t → t < lap' → ¬s.Stops (s.nodes.length * t + i) := by
  obtain ⟨lap, hstop, hcount⟩ := h.exists_lap k
  obtain ⟨lap', hstop', hcount'⟩ := h.exists_lap k'
  rw [hgap.first] at hstop hcount
  rw [hgap.last] at hstop' hcount'
  have hlaps : ∀ t t', s.nodes.length * t + i < s.nodes.length * t' + i ↔ t < t' := fun t t' => by
    rw [Nat.add_lt_add_iff_right, Nat.mul_lt_mul_left s.length_pos]
  have hlt : lap < lap' := by
    rw [← hlaps, ← count_stops_lt_iff hstop, hcount, hcount']
    exact hgap.lt
  refine ⟨lap, lap', hlt, hstop, hcount, hstop', hcount', fun t ht ht' hstop_t => ?_⟩
  have hafter : k < Nat.count s.Stops (s.nodes.length * t + i) := by
    rw [← hcount, count_stops_lt_iff hstop, hlaps]
    exact ht
  have hbefore : Nat.count s.Stops (s.nodes.length * t + i) < k' := by
    rw [← hcount', count_stops_lt_iff hstop_t, hlaps]
    exact ht'
  exact hgap.between _ hafter hbefore (h.turn_in_lap hi hstop_t)

/-- The threshold is reset between two picks of a node if a period ends between their laps. -/
theorem IsBefore.resetsBetween_iff (h : s.IsBefore 0) (hle : s.threshold ≤ s.maxWeight)
    {i lap lap' : Nat} (hi : i < s.nodes.length) (hstop : s.Stops (s.nodes.length * lap + i))
    (hstop' : s.Stops (s.nodes.length * lap' + i)) :
    s.ResetsBetween (Nat.count s.Stops (s.nodes.length * lap + i))
        (Nat.count s.Stops (s.nodes.length * lap' + i)) ↔
      ∃ a, lap < s.laps * a ∧ s.laps * a ≤ lap' := by
  have hplace : ∀ t a, s.nodes.length * t + i < s.period * a ↔ t < s.laps * a := fun t a => by
    rw [period, Nat.mul_assoc]
    constructor
    · intro hlt
      exact Nat.lt_of_mul_lt_mul_left (Nat.lt_of_le_of_lt (Nat.le_add_right _ _) hlt)
    · intro hlt
      have hmore := Nat.mul_le_mul_left s.nodes.length (Nat.succ_le_of_lt hlt)
      rw [Nat.mul_succ] at hmore
      omega
  have hafter : ∀ a, Nat.count s.Stops (s.nodes.length * lap + i) < Nat.count s.Stops s.period * a ↔
      lap < s.laps * a := fun a => by
    rw [← count_stops_mul, count_stops_lt_iff hstop, hplace]
  have hbefore : ∀ a, Nat.count s.Stops s.period * a ≤ Nat.count s.Stops (s.nodes.length * lap' + i) ↔
      s.laps * a ≤ lap' := fun a => by
    rw [← count_stops_mul, ← Nat.not_lt, count_stops_lt_iff hstop', hplace, Nat.not_lt]
  constructor
  · rintro ⟨m, hm, hm', hreset⟩
    obtain ⟨a, rfl⟩ := (h.resetsInPick_after_iff hle m).1 hreset
    exact ⟨a, (hafter a).1 hm, (hbefore a).1 hm'⟩
  · rintro ⟨a, ha, ha'⟩
    exact ⟨_, (hafter a).2 ha, (hbefore a).2 ha',
      (h.resetsInPick_after_iff hle _).2 (Nat.dvd_mul_right _ a)⟩

/-- Counting on from `a` to `b`. -/
theorem count_add_card_Ico (P : Nat → Prop) [DecidablePred P] {a b : Nat} (hab : a ≤ b) :
    Nat.count P a + ((Finset.Ico a b).filter P).card = Nat.count P b := by
  induction b, hab using Nat.le_induction with
  | base => rw [Finset.Ico_self, Finset.filter_empty, Finset.card_empty, Nat.add_zero]
  | succ b hab ih =>
    rw [← Finset.insert_Ico_right_eq_Ico_add_one hab, Finset.filter_insert, Nat.count_succ, ← ih]
    by_cases hb : P b
    · have hnew : b ∉ (Finset.Ico a b).filter P := fun hmem =>
        absurd (Finset.mem_Ico.1 (Finset.mem_filter.1 hmem).1).2 (Nat.lt_irrefl b)
      rw [if_pos hb, if_pos hb, Finset.card_insert_of_notMem hnew, Nat.add_assoc]
    · rw [if_neg hb, if_neg hb, Nat.add_zero]

/-- The picks of another node between two picks of a node are its stops in the laps between them, where
the laps are shifted by one if the other node stands in front. -/
theorem IsBefore.card_between (h : s.IsBefore 0) {i j lap lap' : Nat} (hi : i < s.nodes.length)
    (hj : j < s.nodes.length) (hij : i ≠ j) (hlt : lap < lap')
    (hstop : s.Stops (s.nodes.length * lap + i)) :
    Nat.count (fun t => s.laps - s.nodes[j].weight / s.stride ≤ t % s.laps)
          (lap + if j < i then 1 else 0) +
        ((Finset.Ioo (Nat.count s.Stops (s.nodes.length * lap + i))
          (Nat.count s.Stops (s.nodes.length * lap' + i))).filter fun k => s.turn k = j).card =
      Nat.count (fun t => s.laps - s.nodes[j].weight / s.stride ≤ t % s.laps)
        (lap' + if j < i then 1 else 0) := by
  have hturns : ∀ t x, x ≤ s.nodes.length →
      Nat.count (fun k => s.turn k = j) (Nat.count s.Stops (s.nodes.length * t + x)) =
        Nat.count (fun t => s.laps - s.nodes[j].weight / s.stride ≤ t % s.laps)
          (t + if j < x then 1 else 0) := by
    intro t x hx
    rw [h.count_turn, ← count_laps_add _ hj hx]
    exact count_congr fun p _ => and_congr_left (s.stops_iff hj)
  have hnext : Nat.count s.Stops (s.nodes.length * lap + i) + 1 =
      Nat.count s.Stops (s.nodes.length * lap + (i + 1)) := by
    rw [← Nat.add_assoc, Nat.count_succ, if_pos hstop]
  -- The two nodes are distinct, so a node that is in front of the one behind `i` is in front of `i`.
  have hbehind : (j < i + 1) = (j < i) := by
    rw [Nat.lt_succ_iff_lt_or_eq, or_iff_left hij.symm]
  have hlater : Nat.count s.Stops (s.nodes.length * lap + (i + 1)) ≤
      Nat.count s.Stops (s.nodes.length * lap' + i) := by
    have hlaps := Nat.mul_le_mul_left s.nodes.length (Nat.succ_le_of_lt hlt)
    rw [Nat.mul_succ] at hlaps
    exact Nat.count_monotone _ (by omega)
  rw [← Finset.Ico_add_one_left_eq_Ioo, hnext, ← hturns lap' i hi.le,
    ← count_add_card_Ico (fun k => s.turn k = j) hlater, hturns lap (i + 1) hi]
  simp only [hbehind]

/-- **Between two picks of a node, one that is at least as heavy is picked once, or, where the threshold
is reset on the way, once more than it is heavier by strides.** -/
theorem IsBefore.card_gap (h : s.IsBefore 0) (hle : s.threshold ≤ s.maxWeight) {i j k k' : Nat}
    (hi : i < s.nodes.length) (hj : j < s.nodes.length) (hij : i ≠ j)
    (hweight : s.nodes[i].weight ≤ s.nodes[j].weight) (hgap : s.IsGap i k k') :
    (s.ResetsBetween k k' → ((Finset.Ioo k k').filter fun m => s.turn m = j).card =
      (s.nodes[j].weight - s.nodes[i].weight) / s.stride + 1) ∧
    (¬s.ResetsBetween k k' → ((Finset.Ioo k k').filter fun m => s.turn m = j).card = 1) := by
  obtain ⟨lap, lap', hlt, hstop, rfl, hstop', rfl, hbetween⟩ := h.exists_laps hi hgap
  rw [h.resetsBetween_iff hle hi hstop hstop']
  have hcard := h.card_between hi hj hij hlt hstop
  rw [s.stops_in_lap_iff hi] at hstop hstop'
  simp only [s.stops_in_lap_iff hi] at hbetween
  -- From here on it is about laps: a node of `m` strides is a stop in the last `m` laps of a period.
  obtain ⟨hwi, -⟩ := s.weight_eq hi
  obtain ⟨hwj, hwj_le⟩ := s.weight_eq hj
  have hpos : 0 < s.nodes[i].weight / s.stride := s.weight_div_stride_pos hi
  have hmore : (s.nodes[j].weight - s.nodes[i].weight) / s.stride =
      s.nodes[j].weight / s.stride - s.nodes[i].weight / s.stride := by
    rw [hwi, hwj, ← Nat.mul_sub]
    simp only [Nat.mul_div_cancel_left _ s.stride_pos]
  have hshift : (if j < i then 1 else 0) ≤ 1 := by split <;> omega
  obtain ⟨hover, hwithin⟩ := count_between_laps hpos (Nat.div_le_div_right hweight) hwj_le hlt hstop
    hstop' hbetween hshift
  rw [hmore]
  constructor
  · intro hreset
    have := hover hreset
    omega
  · intro hreset
    have := hwithin hreset
    omega

/-! ## The gap over the reset -/

/-- Place `i` in lap `t` of a period. -/
theorem place_in_period (s : WeightedRoundRobin α) (a t i : Nat) :
    s.nodes.length * (s.laps * a + t) + i = s.period * a + (s.nodes.length * t + i) := by
  rw [period, Nat.mul_add, Nat.mul_assoc, Nat.add_assoc]

/-- In the last lap of a period every node is a stop. -/
theorem stops_last_lap (s : WeightedRoundRobin α) {i : Nat} (hi : i < s.nodes.length) (a : Nat) :
    s.Stops (s.nodes.length * (s.laps * a + (s.laps - 1)) + i) := by
  have hlap : (s.laps * a + (s.laps - 1)) % s.laps = s.laps - 1 := by
    rw [Nat.mul_add_mod, Nat.mod_eq_of_lt (Nat.sub_lt s.laps_pos Nat.one_pos)]
  rw [s.stops_in_lap_iff hi, hlap]
  exact Nat.sub_le_sub_left (s.weight_div_stride_pos hi) _

/-- The picks of a period up to that of a node in the last lap are not all. -/
theorem count_last_lap_lt (s : WeightedRoundRobin α) {i : Nat} (hi : i < s.nodes.length) :
    Nat.count s.Stops (s.nodes.length * (s.laps - 1) + i) < Nat.count s.Stops s.period := by
  have hstop := s.stops_last_lap hi 0
  rw [Nat.mul_zero, Nat.zero_add] at hstop
  have hperiod : s.period = s.nodes.length * (s.laps - 1) + s.nodes.length := by
    rw [period, ← Nat.mul_succ, Nat.succ_eq_add_one, Nat.sub_add_cancel s.laps_pos]
  rw [count_stops_lt_iff hstop, hperiod]
  exact Nat.add_lt_add_left hi _

/-- Every pick of a node is followed by another one. -/
theorem IsBefore.exists_gap (h : s.IsBefore 0) (k : Nat) : ∃ k', s.IsGap (s.turn k) k k' := by
  have hpicks : 0 < Nat.count s.Stops s.period :=
    Nat.zero_lt_of_lt (s.count_last_lap_lt s.length_pos)
  have hagain : ∃ m, k < m ∧ s.turn m = s.turn k :=
    ⟨k + Nat.count s.Stops s.period, Nat.lt_add_of_pos_right hpicks, h.turn_periodic k⟩
  obtain ⟨hlt, hturn⟩ := Nat.find_spec hagain
  exact ⟨Nat.find hagain, hlt, rfl, hturn, fun m hm hm' heq => Nat.find_min hagain hm' ⟨hm, heq⟩⟩

/-- The gap of a node over a reset begins with its pick in the last lap of a period. -/
theorem IsBefore.gap_over_reset_iff (h : s.IsBefore 0) (hle : s.threshold ≤ s.maxWeight) {i : Nat}
    (hi : i < s.nodes.length) (k : Nat) :
    (∃ k', s.IsGap i k k' ∧ s.ResetsBetween k k') ↔
      k % Nat.count s.Stops s.period =
        Nat.count s.Stops (s.nodes.length * (s.laps - 1) + i) := by
  constructor
  · -- The lap after the first pick begins a period, so the pick is in the last lap of one.
    rintro ⟨k', hgap, hreset⟩
    obtain ⟨lap, lap', hlt, hstop, rfl, hstop', rfl, hbetween⟩ := h.exists_laps hi hgap
    rw [h.resetsBetween_iff hle hi hstop hstop'] at hreset
    rw [s.stops_in_lap_iff hi] at hstop hstop'
    simp only [s.stops_in_lap_iff hi] at hbetween
    rcases next_lap_cases (s.weight_div_stride_pos hi) (s.weight_eq hi).2 hlt hstop hstop' hbetween
      with ⟨-, hwithin⟩ | ⟨a, hbegin, -⟩
    · exact absurd hreset hwithin
    · have hlap : lap = s.laps * a + (s.laps - 1) := by
        rw [Nat.mul_succ] at hbegin
        have := s.laps_pos
        omega
      rw [hlap, place_in_period, count_stops_mul_add, Nat.mul_add_mod,
        Nat.mod_eq_of_lt (s.count_last_lap_lt hi)]
  · -- The pick is that of the stop in the last lap of some period, and the next one comes after it.
    intro hk
    have hlast := s.stops_last_lap hi (k / Nat.count s.Stops s.period)
    have hcount : Nat.count s.Stops (s.nodes.length *
        (s.laps * (k / Nat.count s.Stops s.period) + (s.laps - 1)) + i) = k := by
      rw [place_in_period, count_stops_mul_add, ← hk, Nat.div_add_mod]
    have hturn : s.turn k = i := hcount ▸ h.turn_in_lap hi hlast
    obtain ⟨k', hgap⟩ := h.exists_gap k
    rw [hturn] at hgap
    refine ⟨k', hgap, ?_⟩
    obtain ⟨lap, lap', hlt, hstop, hcount_lap, hstop', rfl, -⟩ := h.exists_laps hi hgap
    have hplace := Nat.count_injective hstop hlast (hcount_lap.trans hcount.symm)
    have hlap := Nat.eq_of_mul_eq_mul_left s.length_pos (Nat.add_right_cancel hplace)
    rw [← hcount_lap, h.resetsBetween_iff hle hi hstop hstop']
    refine ⟨k / Nat.count s.Stops s.period + 1, ?_⟩
    have := s.laps_pos
    rw [Nat.mul_succ]
    omega

/-- Exactly one pick in every cycle begins the gap of a node over a reset. -/
theorem IsBefore.existsUnique_gap (h : s.IsBefore 0) (hle : s.threshold ≤ s.maxWeight) {i : Nat}
    (hi : i < s.nodes.length) (start : Nat) :
    ∃! k, k ∈ Finset.Ico start (start + Nat.count s.Stops s.period) ∧
      ∃ k', s.IsGap i k k' ∧ s.ResetsBetween k k' := by
  have hlast := s.count_last_lap_lt hi
  simp only [h.gap_over_reset_iff hle hi]
  generalize Nat.count s.Stops (s.nodes.length * (s.laps - 1) + i) = last at hlast
  generalize Nat.count s.Stops s.period = picks at hlast
  have hperiodic : Function.Periodic (fun k => k % picks = last) picks := by
    intro k
    show ((k + picks) % picks = last) = (k % picks = last)
    rw [Nat.add_mod_right]
  have hone : ((Finset.Ico start (start + picks)).filter fun k => k % picks = last).card = 1 := by
    rw [Nat.filter_Ico_card_eq_of_periodic start picks _ hperiodic, ← count_eq_of_lt hlast]
    exact count_congr fun k hk => by rw [Nat.mod_eq_of_lt hk]
  simpa only [Finset.mem_filter] using Finset.card_eq_one_iff_existsUnique.1 hone

/-- A fresh selector stands before its first pick with nothing left of the threshold. -/
theorem threshold_of_ofNodes {nodes : List (Node α)} (hs : ofNodes nodes = .ok s) :
    s.threshold = 0 := by
  unfold ofNodes at hs
  split at hs
  · cases hs
  · split at hs
    · cases hs
    · cases hs
      rfl

/-- **Weighted picks are interleaved, not bursty.** Over nodes with weights, of which `g` is the greatest
common divisor, let node `i` be picked twice and not in between. Every other node `j` that is at least as
heavy is picked once in between, except where the threshold is reset to the largest weight on the way:
there it is picked `(wⱼ - wᵢ) / g + 1` times. Of the gaps of a node that begin in any `C` picks in a row,
exactly one goes over such a reset, where `C` is the sum of all `w / g`. -/
theorem turn_interleaved {nodes : List (Node α)} (hne : nodes ≠ [])
    (hpos : ∀ n ∈ nodes, 0 < n.weight) :
    let g := (nodes.map (·.weight) : Multiset Nat).gcd
    let C := (nodes.map fun n => n.weight / g).sum
    ∃ s, ofNodes nodes = .ok s ∧
      (∀ k, nodes[s.turn k]? = some (s.pick k)) ∧
      (∀ i j : Fin nodes.length, i ≠ j → (nodes.get i).weight ≤ (nodes.get j).weight →
        ∀ k k', s.IsGap i k k' →
          (s.ResetsBetween k k' → ((Finset.Ioo k k').filter fun m => s.turn m = j).card =
            ((nodes.get j).weight - (nodes.get i).weight) / g + 1) ∧
          (¬s.ResetsBetween k k' → ((Finset.Ioo k k').filter fun m => s.turn m = j).card = 1)) ∧
      ∀ (i : Fin nodes.length) start,
        ∃! k, k ∈ Finset.Ico start (start + C) ∧ ∃ k', s.IsGap i k k' ∧ s.ResetsBetween k k' := by
  obtain ⟨s, hs, rfl, h⟩ := ofNodes_isBefore hne hpos
  intro g C
  have hle : s.threshold ≤ s.maxWeight := by
    rw [threshold_of_ofNodes hs]
    exact Nat.zero_le _
  have hC : C = Nat.count s.Stops s.period := by rw [count_stops_period, stride_eq_gcd]
  have hg : g = s.stride := s.stride_eq_gcd.symm
  refine ⟨s, hs, s.getElem?_turn, fun i j hij hweight k k' hgap => ?_, fun i start => ?_⟩
  · rw [hg]
    exact h.card_gap hle i.isLt j.isLt (fun heq => hij (Fin.ext heq)) hweight hgap
  · rw [hC]
    exact h.existsUnique_gap hle i.isLt start

/-- Over nodes of weights five, one and two, the first is picked four times between two picks of the
last over a reset, which come once in eight picks, and else once. -/
theorem turn_five_one_two :
    let nodes : List (Node Nat) := [⟨"a", 0, 5⟩, ⟨"b", 1, 1⟩, ⟨"c", 2, 2⟩]
    nodes ≠ [] ∧ (∀ n ∈ nodes, 0 < n.weight) ∧ ∃ s, ofNodes nodes = .ok s ∧
      (∀ k k', s.IsGap 2 k k' →
        (s.ResetsBetween k k' → ((Finset.Ioo k k').filter fun m => s.turn m = 0).card = 4) ∧
        (¬s.ResetsBetween k k' → ((Finset.Ioo k k').filter fun m => s.turn m = 0).card = 1)) ∧
      ∀ start, ∃! k, k ∈ Finset.Ico start (start + 8) ∧
        ∃ k', s.IsGap 2 k k' ∧ s.ResetsBetween k k' := by
  intro nodes
  have hg : (nodes.map (·.weight) : Multiset Nat).gcd = 1 := by decide
  have hC : (nodes.map fun n => n.weight / 1).sum = 8 := by decide
  have hne : nodes ≠ [] := by decide
  have hpos : ∀ n ∈ nodes, 0 < n.weight := by decide
  obtain ⟨s, hs, -, hgaps, hreset⟩ := turn_interleaved hne hpos
  rw [hg] at hgaps hreset
  rw [hC] at hreset
  refine ⟨hne, hpos, s, hs, fun k k' hgap => ?_, hreset (2 : Fin 3)⟩
  obtain ⟨hover, hwithin⟩ := hgaps (2 : Fin 3) (0 : Fin 3) (by decide) (by decide) k k' hgap
  exact ⟨fun h => (hover h).trans (by decide), hwithin⟩

end WeightedRoundRobin

end TrafficGateway
