import Mathlib.Data.Finset.Card
import Mathlib.Data.Finset.Dedup
import Mathlib.Data.List.Dedup
import TrafficGateway.Regex.Cache

/-!
# What the cache of patterns remembers

The cache moves a text to the front whenever it is asked for and gives up texts at the back. What it holds
can be said by the history alone: the distinct texts that were asked for, the last first, as many of them as
there is room for (`RegexCache.texts_after`). So a text is compiled again exactly if the room was used up
by other texts since it was asked for last, and is given the very slot of that time otherwise
(`RegexCache.forgets_iff_crowded_out`). Texts that are no patterns are treated like all others.

## Main definitions

* `RegexCache.after`: the cache after a history.
* `RegexCache.recency`: the distinct texts of a history, the last first.
* `RegexCache.LastAsked`: when a text was asked for last, and what was asked for since.

## Main statements

* `RegexCache.texts_get`, `RegexCache.texts_after`: the texts after one request and, by induction, after a
  history.
* `RegexCache.forgets_iff_crowded_out`: what a request gives after any history, and when it compiles.
-/

namespace TrafficGateway

/-! ## The front of a list without repetitions -/

section Front

variable {α : Type} {a : α} {l rest : List α}

/-- Only one element is lost when an element is left out. -/
theorem length_sub_one_le_filter_ne [DecidableEq α] (h : l.Nodup) :
    l.length - 1 ≤ (l.filter fun b => b ≠ a).length := by
  have herase : l.erase a = l.filter fun b => b ≠ a := by
    rw [h.erase_eq_filter]
    exact List.filter_congr fun b _ => by rw [bne, beq_eq_decide, decide_not]
  exact herase ▸ List.le_length_erase

/-- Elements behind the first `n` have no part in the first `n` after another one was put in front. -/
theorem take_cons_filter_take [DecidableEq α] (h : l.Nodup) (n : Nat) :
    (a :: (l.take n).filter fun b => b ≠ a).take n = (a :: l.filter fun b => b ≠ a).take n := by
  cases n with
  | zero => rfl
  | succ n =>
    have hsplit : l.filter (fun b => b ≠ a) =
        (l.take (n + 1)).filter (fun b => b ≠ a) ++ (l.drop (n + 1)).filter fun b => b ≠ a := by
      rw [← List.filter_append, List.take_append_drop]
    rw [List.take_succ_cons, List.take_succ_cons, hsplit]
    by_cases hlong : n + 1 ≤ l.length
    · -- the first `n + 1` lose one element at most, so `n` of them are left
      have hfront := length_sub_one_le_filter_ne (a := a) ((List.take_sublist (n + 1) l).nodup h)
      rw [List.length_take, Nat.min_eq_left hlong] at hfront
      rw [List.take_append_of_le_length (by omega)]
    · rw [List.drop_eq_nil_of_le (by omega), List.filter_nil, List.append_nil]

theorem mem_take_append_cons (h : a ∉ l) (n : Nat) :
    a ∈ (l ++ a :: rest).take n ↔ l.length < n := by
  constructor
  · intro hmem
    by_contra hle
    rw [List.take_append_of_le_length (Nat.le_of_not_lt hle)] at hmem
    exact h (List.mem_of_mem_take hmem)
  · intro hlt
    obtain ⟨k, rfl⟩ := Nat.exists_eq_add_of_lt hlt
    rw [show l.length + k + 1 = l.length + (k + 1) by omega, List.take_length_add_append,
      List.take_succ_cons]
    exact List.mem_append_right _ List.mem_cons_self

end Front

/-- A text that denotes no pattern has no regular expression. -/
theorem Regex.read_eq_none {text : String} (h : readPattern text = none) : read text = none := by
  unfold read
  split
  · next pattern hpattern => cases h.symm.trans hpattern
  · rfl

namespace RegexCache

/-! ## Histories -/

/-- The distinct texts of a history, the one that was asked for last first. -/
def recency (history : List String) : List String :=
  history.dedup.reverse

/-- In a history a text was asked for last after some texts, and other texts were asked for since. -/
def LastAsked (history : List String) (text : String) (before since : List String) : Prop :=
  history = before ++ text :: since ∧ text ∉ since

variable {text other : String} {history before since : List String}

theorem mem_recency : text ∈ recency history ↔ text ∈ history := by
  rw [recency, List.mem_reverse, List.mem_dedup]

theorem nodup_recency (history : List String) : (recency history).Nodup :=
  List.nodup_reverse.2 (List.nodup_dedup history)

theorem length_recency (history : List String) :
    (recency history).length = history.toFinset.card := by
  rw [recency, List.length_reverse, List.card_toFinset]

/-- A text that is asked for goes to the front. -/
theorem recency_concat (history : List String) (text : String) :
    recency (history ++ [text]) = text :: (recency history).filter fun t => t ≠ text := by
  have hunion : history ∪ [text] = (history.dedup.filter fun t => t ≠ text) ++ [text] := by
    induction history with
    | nil => rfl
    | cons t history ih =>
      rw [List.cons_union, ih, List.dedup_cons]
      rcases eq_or_ne t text with rfl | ht
      · by_cases hmem : t ∈ history <;> simp [List.insert, hmem]
      · by_cases hmem : t ∈ history <;> simp [List.insert, hmem, ht]
  rw [recency, List.dedup_append, show [text].dedup = [text] from rfl, hunion, recency,
    List.reverse_append, List.filter_reverse]
  rfl

/-- The texts that were asked for since a text was asked for last are those in front of it. -/
theorem exists_recency_eq (h : LastAsked history text before since) :
    ∃ rest, recency history = recency since ++ text :: rest := by
  obtain ⟨rfl, hnew⟩ := h
  have hsuffix : text :: since.dedup <:+ (before ++ text :: since).dedup := by
    rw [List.dedup_append, List.dedup_cons_of_notMem hnew]
    exact List.suffix_union_right _ _
  obtain ⟨rest, hrest⟩ := List.reverse_prefix.2 hsuffix
  refine ⟨rest, ?_⟩
  rw [recency, ← hrest, List.reverse_cons, recency]
  simp

section Cache

variable [RegexEngine] {c : RegexCache}

/-- The cache after it was asked for some texts, one after the other. -/
def after (c : RegexCache) (history : List String) : RegexCache :=
  history.foldl (fun c text => (c.get text).2) c

/-- The texts that a cache holds, the one that was asked for last first. -/
def texts (c : RegexCache) : List String :=
  c.slots.map (·.text)

@[simp] theorem after_concat (c : RegexCache) (history : List String) (text : String) :
    c.after (history ++ [text]) = ((c.after history).get text).2 := by
  simp [after, List.foldl_append]

/-! ## One request -/

theorem find?_eq_none_iff : c.find? text = none ↔ text ∉ c.texts := by
  simp [find?, texts]

theorem text_of_find? {slot : RegexSlot} (h : c.find? text = some slot) : slot.text = text := by
  simpa using List.find?_some h

/-- A text that the cache holds is moved to the front, with its slot. -/
theorem get_of_mem (h : text ∈ c.texts) :
    ∃ slot, c.find? text = some slot ∧ (c.get text).1 = slot ∧
      (c.get text).2.slots = slot :: c.slots.filter (fun s => s.text ≠ text) ∧
      (c.get text).2.capacity = c.capacity ∧ (c.get text).2.compilations = c.compilations := by
  unfold get
  split
  · next slot hslot =>
    refine ⟨slot, hslot, rfl, ?_, rfl, rfl⟩
    show slot :: c.slots.filter (fun s => s.text ≠ slot.text) = _
    rw [text_of_find? hslot]
  · next hnone => exact absurd h (find?_eq_none_iff.1 hnone)

/-- A text that the cache does not hold is compiled and put to the front. -/
theorem get_of_not_mem (h : text ∉ c.texts) :
    (c.get text).1.text = text ∧
      (c.get text).2.slots = ((c.get text).1 :: c.slots).take c.capacity ∧
      (c.get text).2.capacity = c.capacity ∧
      (c.get text).2.compilations = c.compilations + 1 := by
  unfold get
  split
  · next slot hslot => exact absurd (find?_eq_none_iff.2 h) (by simp [hslot])
  · exact ⟨rfl, rfl, rfl, rfl⟩

theorem get_text (c : RegexCache) (text : String) : (c.get text).1.text = text := by
  by_cases h : text ∈ c.texts
  · obtain ⟨slot, hslot, hget, -⟩ := get_of_mem h
    exact hget ▸ text_of_find? hslot
  · exact (get_of_not_mem h).1

/-- The cache gives what a fresh compilation gives. -/
theorem get_regex (c : RegexCache) (text : String) :
    (c.get text).1.regex = RegexEngine.read text := by
  rw [(c.get text).1.regex_eq, get_text]

@[simp] theorem get_capacity (c : RegexCache) (text : String) :
    (c.get text).2.capacity = c.capacity := by
  by_cases h : text ∈ c.texts
  · obtain ⟨slot, -, -, -, hcapacity, -⟩ := get_of_mem h
    exact hcapacity
  · exact (get_of_not_mem h).2.2.1

theorem get_compilations (c : RegexCache) (text : String) :
    (c.get text).2.compilations = c.compilations + if text ∈ c.texts then 0 else 1 := by
  split
  · next h =>
    obtain ⟨slot, -, -, -, -, hcompilations⟩ := get_of_mem h
    exact hcompilations
  · next h => exact (get_of_not_mem h).2.2.2

/-- The text comes to the front, and the others behind it keep their order as far as there is room. -/
theorem texts_get (c : RegexCache) (text : String) :
    (c.get text).2.texts = (text :: c.texts.filter fun t => t ≠ text).take c.capacity := by
  by_cases h : text ∈ c.texts
  · obtain ⟨slot, hslot, -, hslots, hcapacity, -⟩ := get_of_mem h
    have htexts : (c.get text).2.texts = text :: c.texts.filter fun t => t ≠ text := by
      rw [texts, hslots, List.map_cons, text_of_find? hslot, texts, List.filter_map]
      rfl
    have hroom := (c.get text).2.length_le
    rw [← List.length_map (f := RegexSlot.text), ← texts, hcapacity, htexts] at hroom
    rw [htexts, List.take_of_length_le hroom]
  · obtain ⟨htext, hslots, -, -⟩ := get_of_not_mem h
    have hothers : c.texts.filter (fun t => t ≠ text) = c.texts :=
      List.filter_eq_self.2 fun t ht => decide_eq_true fun heq => h (heq ▸ ht)
    rw [texts, hslots, List.map_take, List.map_cons, htext, hothers, texts]

/-- The slot that was given is kept. -/
theorem find?_get_self (c : RegexCache) (text : String) :
    (c.get text).2.find? text = some (c.get text).1 := by
  have hfront : ∃ rest, (c.get text).2.slots = (c.get text).1 :: rest := by
    by_cases h : text ∈ c.texts
    · obtain ⟨slot, -, hget, hslots, -⟩ := get_of_mem h
      exact ⟨_, hget ▸ hslots⟩
    · obtain ⟨-, hslots, -⟩ := get_of_not_mem h
      obtain ⟨room, hroom⟩ := Nat.exists_eq_succ_of_ne_zero (Nat.pos_iff_ne_zero.1 c.capacity_pos)
      exact ⟨_, by rw [hslots, hroom, List.take_succ_cons]⟩
  obtain ⟨rest, hrest⟩ := hfront
  rw [find?, hrest, List.find?_cons_of_pos (by simp [get_text])]

/-- Another text that is still there has the slot that it had. -/
theorem find?_get_of_ne (hne : other ≠ text) (h : other ∈ (c.get text).2.texts) :
    (c.get text).2.find? other = c.find? other := by
  by_cases hmem : text ∈ c.texts
  · obtain ⟨slot, hslot, -, hslots, -⟩ := get_of_mem hmem
    rw [find?, hslots, List.find?_cons_of_neg (by simp [text_of_find? hslot, hne.symm]), find?,
      List.find?_filter]
    refine congrArg (fun p => c.slots.find? p) (funext fun s => ?_)
    by_cases hs : s.text = other
    · simp [hs, hne]
    · simp [hs]
  · obtain ⟨htext, hslots, -⟩ := get_of_not_mem hmem
    cases hfind : (c.get text).2.find? other with
    | none => exact absurd h (find?_eq_none_iff.1 hfind)
    | some slot =>
      -- the slots that are left are the front of those with the new one
      have hall : ((c.get text).1 :: c.slots).find? (fun s => s.text = other) = some slot := by
        refine (List.take_prefix c.capacity _).find?_eq_some ?_
        rw [← hslots]
        exact hfind
      rwa [List.find?_cons_of_neg (by simp [htext, hne.symm]), eq_comm] at hall

/-! ## All requests -/

@[simp] theorem after_capacity (c : RegexCache) (history : List String) :
    (c.after history).capacity = c.capacity := by
  induction history using List.reverseRecOn with
  | nil => rfl
  | append_singleton history text ih => rw [after_concat, get_capacity, ih]

/-- The cache holds the texts that were asked for last, as many as there is room for. -/
theorem texts_after (capacity : Nat) (history : List String) :
    ((ofCapacity capacity).after history).texts = (recency history).take (max capacity 1) := by
  induction history using List.reverseRecOn with
  | nil => exact List.take_nil.symm
  | append_singleton history text ih =>
    rw [after_concat, texts_get, ih, after_capacity, recency_concat]
    exact take_cons_filter_take (nodup_recency history) _

/-- A text is still there exactly if fewer other texts than there is room for were asked for since. -/
theorem mem_texts_after_iff (capacity : Nat) (h : LastAsked history text before since) :
    text ∈ ((ofCapacity capacity).after history).texts ↔ since.toFinset.card < max capacity 1 := by
  obtain ⟨rest, hrest⟩ := exists_recency_eq h
  rw [texts_after, hrest, mem_take_append_cons (fun hmem => h.2 (mem_recency.1 hmem)),
    length_recency]

/-- As long as a text is there it has the slot that it was given. -/
theorem find?_after (capacity : Nat) (h : LastAsked history text before since)
    (hroom : since.toFinset.card < max capacity 1) :
    ((ofCapacity capacity).after history).find? text =
      some (((ofCapacity capacity).after before).get text).1 := by
  induction since using List.reverseRecOn generalizing history with
  | nil =>
    rw [h.1, after_concat]
    exact find?_get_self _ text
  | append_singleton since last ih =>
    have hmem := (mem_texts_after_iff capacity h).2 hroom
    obtain ⟨rfl, hnew⟩ := h
    have hne : text ≠ last := fun heq => hnew (by simp [heq])
    have hearlier : LastAsked (before ++ text :: since) text before since :=
      ⟨rfl, fun hmem => hnew (List.mem_append_left _ hmem)⟩
    have hfewer : since.toFinset.card ≤ (since ++ [last]).toFinset.card :=
      Finset.card_le_card fun t ht => by simp_all
    rw [show before ++ text :: (since ++ [last]) = (before ++ text :: since) ++ [last] by simp,
      after_concat] at hmem ⊢
    rw [find?_get_of_ne hne hmem]
    exact ih hearlier (Nat.lt_of_le_of_lt hfewer hroom)

/-- **The cache is transparent and forgets only what it has no room for.** After any history every text
is given what compiling it afresh gives; the cache holds as many slots as distinct texts were asked for,
up to its room; a new text is compiled; and a text that was asked for before is compiled again exactly if
so many distinct other texts were asked for since that they fill the room, and is given the slot of that
time otherwise. Whether the text is a pattern makes no difference. -/
theorem forgets_iff_crowded_out (capacity : Nat) (history : List String) (text : String) :
    let cache := (ofCapacity capacity).after history
    let room := max capacity 1
    (cache.get text).1.regex = RegexEngine.read text ∧
      cache.size = min room history.toFinset.card ∧
      (text ∉ history → (cache.get text).2.compilations = cache.compilations + 1) ∧
      ∀ before since, LastAsked history text before since →
        (room ≤ since.toFinset.card →
          (cache.get text).2.compilations = cache.compilations + 1) ∧
        (since.toFinset.card < room →
          (cache.get text).2.compilations = cache.compilations ∧
            (cache.get text).1 = (((ofCapacity capacity).after before).get text).1) := by
  intro cache room
  have htexts : cache.texts = (recency history).take room := texts_after capacity history
  refine ⟨cache.get_regex text, ?_, fun hnew => ?_, fun before since h => ⟨fun hfull => ?_,
    fun hroom => ?_⟩⟩
  · have hsize : cache.size = cache.texts.length := (List.length_map _).symm
    rw [hsize, htexts, List.length_take, length_recency]
  · have hmissing : text ∉ cache.texts := fun hmem =>
      hnew (mem_recency.1 (List.mem_of_mem_take (htexts ▸ hmem)))
    rw [get_compilations, if_neg hmissing]
  · have hmissing : text ∉ cache.texts := fun hmem =>
      Nat.not_lt.2 hfull ((mem_texts_after_iff capacity h).1 hmem)
    rw [get_compilations, if_neg hmissing]
  · have hmem : text ∈ cache.texts := (mem_texts_after_iff capacity h).2 hroom
    refine ⟨by rw [get_compilations, if_pos hmem, Nat.add_zero], ?_⟩
    obtain ⟨slot, hslot, hget, -⟩ := get_of_mem hmem
    exact hget.trans (Option.some.inj (hslot.symm.trans (find?_after capacity h hroom)))

end Cache

/-- A text that is no pattern was asked for, and one other text since. With room for two it has kept its
slot; with room for one it is compiled again, as a text is that was never asked for. -/
theorem unreadable_text_is_kept :
    Regex.read "([" = none ∧ LastAsked ["([", "a"] "([" [] ["a"] ∧ "b" ∉ ["([", "a"] ∧
      ["a"].toFinset.card < max 2 1 ∧ max 1 1 ≤ ["a"].toFinset.card ∧
      (let cache := (ofCapacity 2).after ["([", "a"]
       (cache.get "([").2.compilations = cache.compilations ∧
         (cache.get "([").1 = ((ofCapacity 2).get "([").1 ∧
         (cache.get "b").2.compilations = cache.compilations + 1) ∧
      (let cache := (ofCapacity 1).after ["([", "a"]
       (cache.get "([").2.compilations = cache.compilations + 1) := by
  have hread : Regex.read "([" = none := Regex.read_eq_none (by cbv)
  have hlast : LastAsked ["([", "a"] "([" [] ["a"] := ⟨rfl, by decide⟩
  have hnew : "b" ∉ ["([", "a"] := by decide
  have hroom : ["a"].toFinset.card < max 2 1 := by decide
  have hfull : max 1 1 ≤ ["a"].toFinset.card := by decide
  obtain ⟨-, -, -, htwo⟩ := forgets_iff_crowded_out 2 ["([", "a"] "(["
  obtain ⟨-, -, hfresh, -⟩ := forgets_iff_crowded_out 2 ["([", "a"] "b"
  obtain ⟨-, -, -, hone⟩ := forgets_iff_crowded_out 1 ["([", "a"] "(["
  obtain ⟨hkept, hsame⟩ := (htwo [] ["a"] hlast).2 hroom
  exact ⟨hread, hlast, hnew, hroom, hfull, ⟨hkept, hsame, hfresh hnew⟩,
    (hone [] ["a"] hlast).1 hfull⟩

end RegexCache

end TrafficGateway
