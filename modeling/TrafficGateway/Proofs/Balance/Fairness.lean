import Mathlib.Data.Int.CardIntervalMod
import TrafficGateway.Proofs.Balance.Cycle

/-!
# The fairness of round robin

A round robin selector may be shared: callers take its counter values in some order, one at a time, and
get their answers later, in any other order. The node that a call gets depends on its counter value
alone, so the nodes of the calls that are made while the counter goes through some values are those of
these values (`Shared.after_turns`).

How often a place is among them is counted by residues. Consecutive values hit every residue equally
often, but the counter goes back to zero at a power of two, which the number of nodes need not divide. A
window over such a wrap is the end of one run of values and the beginning of another, and each of them
can be out of step by a part of a lap (`count_residue_add`). So a window of whole laps takes every node
once in each lap, and over a wrap at most once more or less (`Shared.window_fair`).

## Main definitions

* `RoundRobin.Shared`: a selector, the calls that are underway and those that were answered.
* `RoundRobin.turnAt`: the place of the node that a call gets.
-/

namespace TrafficGateway

namespace RoundRobin

variable {κ α : Type}

/-! ## Residues -/

variable {n i : Nat}

/-- How many of the first numbers leave a residue. -/
theorem count_residue (hi : i < n) (b : Nat) :
    Nat.count (fun k => k % n = i) b = b / n + if i < b % n then 1 else 0 := by
  have hcard := Nat.count_modEq_card b (Nat.zero_lt_of_lt hi) i
  rw [Nat.mod_eq_of_lt hi] at hcard
  rw [← hcard]
  exact WeightedRoundRobin.count_congr fun k _ => by rw [Nat.ModEq, Nat.mod_eq_of_lt hi]

/-- Every lap has one number more with the residue. -/
theorem count_residue_laps (hi : i < n) (b laps : Nat) :
    Nat.count (fun k => k % n = i) (b + laps * n) = Nat.count (fun k => k % n = i) b + laps := by
  rw [count_residue hi, count_residue hi, Nat.add_mul_div_right _ _ (Nat.zero_lt_of_lt hi),
    Nat.add_mul_mod_self_right, Nat.add_right_comm]

/-- Counted in two parts that both begin at zero, the numbers with a residue are at most one more or
less than when they are counted in one go. -/
theorem count_residue_add (hi : i < n) (a b : Nat) :
    let count := Nat.count fun k => k % n = i
    count a + count b ≤ count (a + b) + 1 ∧ count (a + b) ≤ count a + count b + 1 := by
  intro count
  have hn : 0 < n := Nat.zero_lt_of_lt hi
  have ha := Nat.mod_lt a hn
  have hb := Nat.mod_lt b hn
  simp only [count, count_residue hi, Nat.add_div hn]
  -- The two rests make up a further lap or not.
  by_cases hlap : n ≤ a % n + b % n
  · have hrest := Nat.add_mod_add_of_le_add_mod hlap
    rw [if_pos hlap]
    constructor <;> split_ifs <;> omega
  · have hrest := Nat.add_mod_of_add_mod_lt (Nat.not_le.1 hlap)
    rw [if_neg hlap]
    constructor <;> split_ifs <;> omega

/-! ## The places of consecutive calls -/

/-- The place whose turn it is after some calls. -/
def turnAt (s : RoundRobin α) (k : Nat) : Nat :=
  (s.counter.toNat + k) % UInt64.size % s.nodes.length

variable {s : RoundRobin α}

/-- Up to the wrap of the counter, the places of consecutive calls are those of consecutive numbers. -/
theorem count_turnAt {calls : Nat} (h : s.counter.toNat + calls ≤ UInt64.size) (i : Nat) :
    Nat.count (fun k => k % s.nodes.length = i) s.counter.toNat +
        Nat.count (fun k => s.turnAt k = i) calls =
      Nat.count (fun k => k % s.nodes.length = i) (s.counter.toNat + calls) := by
  rw [Nat.count_add]
  congr 1
  refine WeightedRoundRobin.count_congr fun k hk => ?_
  rw [turnAt, Nat.mod_eq_of_lt (Nat.lt_of_lt_of_le (Nat.add_lt_add_left hk _) h)]

/-- Over a wrap, the places are those of the numbers up to it and then of the numbers from zero on. -/
theorem count_turnAt_wrap {calls behind : Nat} (h : s.counter.toNat + calls = UInt64.size + behind)
    (hbehind : behind ≤ UInt64.size) (i : Nat) :
    Nat.count (fun k => k % s.nodes.length = i) s.counter.toNat +
        Nat.count (fun k => s.turnAt k = i) calls =
      Nat.count (fun k => k % s.nodes.length = i) UInt64.size +
        Nat.count (fun k => k % s.nodes.length = i) behind := by
  have hcounter : s.counter.toNat < UInt64.size := s.counter.toNat_lt
  obtain ⟨before, hbefore⟩ := Nat.exists_eq_add_of_le hcounter.le
  have hcalls : calls = before + behind := by omega
  have hfront := count_turnAt hbefore.ge i
  rw [← hbefore] at hfront
  rw [hcalls, Nat.count_add, ← Nat.add_assoc, hfront]
  congr 1
  refine WeightedRoundRobin.count_congr fun k hk => ?_
  rw [turnAt, ← Nat.add_assoc, ← hbefore, Nat.add_mod_left,
    Nat.mod_eq_of_lt (Nat.lt_of_lt_of_le hk hbehind)]

/-- Without a wrap, the calls of some laps have every place once a lap. -/
theorem count_turnAt_laps {laps : Nat}
    (h : s.counter.toNat + laps * s.nodes.length ≤ UInt64.size) {i : Nat} (hi : i < s.nodes.length) :
    Nat.count (fun k => s.turnAt k = i) (laps * s.nodes.length) = laps := by
  have hcount := count_turnAt h i
  rw [count_residue_laps hi] at hcount
  exact Nat.add_left_cancel hcount

/-- Over one wrap, the calls of some laps have every place once a lap, and at most once more or less. -/
theorem count_turnAt_laps_wrap {laps : Nat}
    (hlt : UInt64.size < s.counter.toNat + laps * s.nodes.length)
    (hle : s.counter.toNat + laps * s.nodes.length ≤ 2 * UInt64.size) {i : Nat}
    (hi : i < s.nodes.length) :
    laps ≤ Nat.count (fun k => s.turnAt k = i) (laps * s.nodes.length) + 1 ∧
      Nat.count (fun k => s.turnAt k = i) (laps * s.nodes.length) ≤ laps + 1 := by
  obtain ⟨behind, hbehind⟩ := Nat.exists_eq_add_of_le hlt.le
  have hcount := count_turnAt_wrap hbehind (by omega) i
  obtain ⟨hmost, hleast⟩ := count_residue_add hi UInt64.size behind
  rw [← hbehind, count_residue_laps hi] at hmost hleast
  omega

/-! ## Concurrent calls -/

/-- A call that has taken its counter value: who made it, the place whose turn it was, and the pick. -/
structure Turn (κ α : Type) where
  caller : κ
  place : Nat
  pick : Except BackendError (Node α)

/-- What happens to a shared selector. -/
inductive Event (κ : Type) where
  /-- A caller takes the next counter value. -/
  | call (caller : κ)
  /-- Of the calls that are underway, one gets its answer. -/
  | answer (i : Nat)

/-- Who makes a call. -/
def Event.caller? : Event κ → Option κ
  | call caller => some caller
  | answer _ => none

/-- A selector that callers share, with the calls that are still underway and those that have been
answered. -/
structure Shared (κ α : Type) where
  selector : RoundRobin α
  underway : List (Turn κ α) := []
  answered : List (Turn κ α) := []

namespace Shared

/-- One event. The pick of a call is settled by its counter value, whenever it is answered. -/
def step (u : Shared κ α) : Event κ → Shared κ α
  | .call caller =>
    let (pick, selector) := u.selector.select
    { u with selector, underway := u.underway ++ [⟨caller, u.selector.place, pick⟩] }
  | .answer i =>
    match u.underway[i]? with
    | some turn =>
      { u with underway := u.underway.eraseIdx i, answered := u.answered ++ [turn] }
    | none => u

/-- The state after some events. -/
def after (u : Shared κ α) (events : List (Event κ)) : Shared κ α :=
  events.foldl step u

/-- A selector before the first call. -/
def fresh (s : RoundRobin α) : Shared κ α :=
  { selector := s }

/-- All calls that have taken a counter value. -/
def turns (u : Shared κ α) : List (Turn κ α) :=
  u.answered ++ u.underway

/-- The callers of some events, in the order in which they take counter values. -/
def callers (events : List (Event κ)) : List κ :=
  events.filterMap Event.caller?

end Shared

/-- The turn of a call, of which some were made before. -/
def turn (s : RoundRobin α) (before : Nat) (caller : κ) : Turn κ α :=
  ⟨caller, s.turnAt before, pickAt s.nodes (s.turnAt before)⟩

namespace Shared

/-- Answers only move turns from one list to the other. -/
theorem turns_step_answer (u : Shared κ α) (i : Nat) :
    (u.step (.answer i)).selector = u.selector ∧ (u.step (.answer i)).turns.Perm u.turns := by
  rw [step]
  cases hturn : u.underway[i]? with
  | none => exact ⟨rfl, List.Perm.refl _⟩
  | some turn =>
    obtain ⟨hi, rfl⟩ := List.getElem?_eq_some_iff.1 hturn
    refine ⟨rfl, ?_⟩
    rw [turns, turns, List.append_assoc, List.singleton_append]
    exact (List.getElem_cons_eraseIdx_perm hi).append_left _

/-- After some events the counter stands behind the values of all calls, and each call has the turn of
its own value. -/
theorem after_turns (hne : s.nodes ≠ []) (events : List (Event κ)) :
    ((fresh s).after events).selector.nodes = s.nodes ∧
      ((fresh s).after events).selector.counter.toNat =
        (s.counter.toNat + (callers events).length) % UInt64.size ∧
      ((fresh s).after events).turns.Perm ((callers events).mapIdx s.turn) := by
  induction events using List.reverseRecOn with
  | nil => exact ⟨rfl, (Nat.mod_eq_of_lt s.counter.toNat_lt).symm, List.Perm.refl _⟩
  | append_singleton events e ih =>
    obtain ⟨hnodes, hcounter, hturns⟩ := ih
    have hlast : (fresh s).after (events ++ [e]) = ((fresh s).after events).step e :=
      List.foldl_concat ..
    have hcallers : callers (events ++ [e]) = callers events ++ e.caller?.toList := by
      rw [callers, List.filterMap_append]
      cases e <;> rfl
    rw [hlast, hcallers]
    generalize (fresh s).after events = u at hnodes hcounter hturns
    cases e with
    | answer i =>
      obtain ⟨hselector, hperm⟩ := u.turns_step_answer i
      rw [Event.caller?, Option.toList_none, List.append_nil, hselector]
      exact ⟨hnodes, hcounter, hperm.trans hturns⟩
    | call caller =>
      obtain ⟨⟨nodes, counter⟩, underway, answered⟩ := u
      obtain rfl : nodes = s.nodes := hnodes
      have hplace : counter.toNat % s.nodes.length = s.turnAt (callers events).length := by
        rw [turnAt, ← hcounter]
      simp only [step, select_eq hne, turns, place, hplace, Event.caller?, Option.toList_some,
        List.mapIdx_concat, true_and]
      constructor
      · rw [UInt64.toNat_add, hcounter, List.length_append, List.length_singleton, ← Nat.add_assoc]
        exact Nat.mod_add_mod ..
      · rw [← List.append_assoc]
        exact hturns.append_right _

/-- How often a place has had its turn. -/
theorem count_place (hne : s.nodes ≠ []) (events : List (Event κ)) (i : Nat) :
    (((fresh s).after events).turns.map (·.place)).count i =
      Nat.count (fun k => s.turnAt k = i) (callers events).length := by
  rw [((after_turns hne events).2.2.map _).count_eq]
  induction callers events using List.reverseRecOn with
  | nil => rfl
  | append_singleton callers caller ih =>
    rw [List.mapIdx_concat, List.map_append, List.count_append, ih, List.length_append,
      List.length_singleton, Nat.count_succ, List.map_singleton, List.count_singleton]
    simp only [turn, beq_iff_eq]

/-- **Round robin is fair.** Let callers share a selector, whose counter may stand anywhere, and get their
answers in any order. Every call has one turn, and it returns the node of its place. Of as many calls as
make `K` laps, every node has exactly `K`, as long as the counter does not wrap among them, and if it
wraps once, at most one more or less. -/
theorem window_fair (s : RoundRobin α) (hne : s.nodes ≠ []) (events : List (Event κ)) :
    let turns := ((fresh s).after events).turns
    let n := s.nodes.length
    let start := s.counter.toNat
    (turns.map (·.caller)).Perm (callers events) ∧
    (∀ t ∈ turns, ∃ node, s.nodes[t.place]? = some node ∧ t.pick = .ok node) ∧
    ∀ K, (callers events).length = K * n →
      (start + K * n ≤ UInt64.size → ∀ i < n, (turns.map (·.place)).count i = K) ∧
      (UInt64.size < start + K * n → start + K * n ≤ 2 * UInt64.size → ∀ i < n,
        K ≤ (turns.map (·.place)).count i + 1 ∧ (turns.map (·.place)).count i ≤ K + 1) := by
  intro turns n start
  obtain ⟨-, -, hturns⟩ := after_turns hne events
  refine ⟨?_, fun t ht => ?_, fun K hK => ?_⟩
  · have hcallers : ((callers events).mapIdx s.turn).map (·.caller) = callers events :=
      List.ext_getElem (by simp) (by simp [turn])
    exact hcallers ▸ hturns.map (·.caller)
  · obtain ⟨k, hk, rfl⟩ := List.mem_mapIdx.1 (hturns.mem_iff.1 ht)
    obtain ⟨node, -, hnode⟩ := exists_getElem?_mod hne ((s.counter.toNat + k) % UInt64.size)
    exact ⟨node, hnode, by rw [turn, pickAt, turnAt, hnode]⟩
  · simp only [turns, count_place hne, hK]
    exact ⟨fun hle i hi => count_turnAt_laps hle hi,
      fun hlt hle i hi => count_turnAt_laps_wrap hlt hle hi⟩

/-- Two callers share three nodes for two laps. From five on each node is returned twice. From two below
the wrap on, each is returned once to three times. -/
theorem window_fair_two_laps :
    let s (counter : UInt64) : RoundRobin Nat := ⟨[⟨"a", 0, 1⟩, ⟨"b", 1, 1⟩, ⟨"c", 2, 1⟩], counter⟩
    let events : List (Event String) :=
      [.call "x", .call "y", .answer 1, .call "y", .call "x", .answer 0, .call "x", .call "y"]
    let places (counter : UInt64) := ((fresh (s counter)).after events).turns.map (·.place)
    (∀ counter, (s counter).nodes ≠ []) ∧ (callers events).length = 2 * 3 ∧
      (5 + 2 * 3 ≤ UInt64.size ∧ ∀ i < 3, (places 5).count i = 2) ∧
      (UInt64.size < 18446744073709551614 + 2 * 3 ∧
        18446744073709551614 + 2 * 3 ≤ 2 * UInt64.size ∧
        ∀ i < 3, 2 ≤ (places 18446744073709551614).count i + 1 ∧
          (places 18446744073709551614).count i ≤ 2 + 1) := by
  intro s events places
  have hne : ∀ counter, (s counter).nodes ≠ [] := fun _ => by simp [s]
  have hlength : (callers events).length = 2 * 3 := by decide
  obtain ⟨-, -, hfive⟩ := window_fair (s 5) (hne 5) events
  obtain ⟨-, -, hwrap⟩ := window_fair (s 18446744073709551614) (hne _) events
  exact ⟨hne, hlength, ⟨by decide, (hfive 2 hlength).1 (by decide)⟩, by decide, by decide,
    (hwrap 2 hlength).2 (by decide) (by decide)⟩

/-- The bounds over a wrap are attained. -/
example :
    let s : RoundRobin Nat := ⟨[⟨"a", 0, 1⟩, ⟨"b", 1, 1⟩, ⟨"c", 2, 1⟩], 18446744073709551614⟩
    let u : Shared Unit Nat := (fresh s).after (List.replicate 6 (.call ()))
    (List.range 3).map (u.turns.map (·.place)).count = [3, 1, 2] := by
  decide +kernel

end Shared

end RoundRobin

end TrafficGateway
