import Mathlib.Data.Finset.Card
import TrafficGateway.Proofs.Route.Trie

/-!
# Prefix tries are maps with prefix search

What a trie holds after some insertions is told by the list of these insertions alone: under a text
stands what was last inserted under it, whatever was inserted in between and in whatever order the tree
has grown. So a lookup is one in the list (`PrefixTrie.get?_after`), and a search answers with what was
last inserted under the prefix that its policy wants (`PrefixTrie.behaves_as_map`).

## Main definitions

* `lastUnder`: what was last inserted under a text.
* `PrefixTrie.after`: the trie after some insertions.
* `MatchPolicy.Wants`: the inserted prefix of a path that a policy wants.
-/

namespace TrafficGateway

variable {α : Type}

/-- What was last inserted under a text. -/
def lastUnder (insertions : List (String × α)) (text : String) : Option α :=
  insertions.reverse.lookup text

/-- Of some texts, the one that a policy wants among the prefixes of a path. -/
def MatchPolicy.Wants (policy : MatchPolicy) (texts : List String) (path p : String) : Prop :=
  p ∈ texts ∧ p.toList <+: path.toList ∧
    ∀ q ∈ texts, q.toList <+: path.toList → policy.Prefers p.length q.length

@[simp] theorem lastUnder_nil (text : String) : lastUnder ([] : List (String × α)) text = none :=
  rfl

theorem lastUnder_concat (insertions : List (String × α)) (e : String × α) (text : String) :
    lastUnder (insertions ++ [e]) text =
      if e.1 = text then some e.2 else lastUnder insertions text := by
  rw [lastUnder, List.reverse_append, List.reverse_singleton, List.singleton_append, List.lookup_cons]
  by_cases h : e.1 = text
  · rw [if_pos h, beq_iff_eq.2 h.symm]
  · rw [if_neg h, beq_eq_false_iff_ne.2 (Ne.symm h)]
    rfl

/-- Something was inserted under a text exactly if the text is among those of the insertions. -/
theorem isSome_lastUnder_iff {insertions : List (String × α)} {text : String} :
    (lastUnder insertions text).isSome = true ↔ text ∈ insertions.map Prod.fst := by
  induction insertions using List.reverseRecOn with
  | nil => simp
  | append_singleton insertions e ih =>
    rw [lastUnder_concat, List.map_append, List.mem_append, ← ih]
    by_cases h : e.1 = text
    · simp [h]
    · simp [h, Ne.symm h]

/-- A path has one prefix that a policy wants. -/
theorem MatchPolicy.Wants.unique {policy : MatchPolicy} {texts : List String} {path p q : String}
    (hp : policy.Wants texts path p) (hq : policy.Wants texts path q) : p = q := by
  obtain ⟨hp_mem, hp_path, hp_best⟩ := hp
  obtain ⟨hq_mem, hq_path, hq_best⟩ := hq
  have hlength : p.length = q.length := (hp_best q hq_mem hq_path).antisymm (hq_best p hp_mem hp_path)
  rw [← String.length_toList, ← String.length_toList] at hlength
  exact String.toList_inj.1 ((List.prefix_of_prefix_length_le hp_path hq_path hlength.le).eq_of_length
    hlength)

/-! ## The answer of an insertion -/

/-- An insertion answers with what a lookup would have found. -/
theorem Trie.getThenInsert_eq (a : α) (t : Trie α) (cs : List Char) :
    t.getThenInsert a cs = (t.get? cs, t.insert a cs) := by
  induction cs generalizing t with
  | nil =>
    cases t
    rfl
  | cons c cs ih => rw [getThenInsert, ih, get?_child?_getD, insert]

namespace PrefixTrie

theorem getThenInsert_eq (t : PrefixTrie α) (text : String) (a : α) :
    t.getThenInsert text a = (t.get? text, t.insert text a) := by
  rw [getThenInsert, Trie.getThenInsert_eq, insert, contains, get?]
  cases t.root.get? text.toList <;> rfl

/-! ## Runs of insertions -/

/-- The trie after some insertions. -/
def after (insertions : List (String × α)) : PrefixTrie α :=
  insertions.foldl (fun t e => (t.getThenInsert e.1 e.2).2) {}

theorem after_concat (insertions : List (String × α)) (e : String × α) :
    after (insertions ++ [e]) = (after insertions).insert e.1 e.2 := by
  rw [after, List.foldl_concat, getThenInsert_eq]
  rfl

/-- Under a text stands what was last inserted under it. -/
theorem get?_after (insertions : List (String × α)) (text : String) :
    (after insertions).get? text = lastUnder insertions text := by
  induction insertions using List.reverseRecOn with
  | nil => exact get?_fresh text
  | append_singleton insertions e ih => rw [after_concat, get?_insert, ih, lastUnder_concat]

theorem contains_after_iff {insertions : List (String × α)} {text : String} :
    (after insertions).contains text = true ↔ text ∈ insertions.map Prod.fst := by
  rw [contains, get?_after, isSome_lastUnder_iff]

/-- Every text is counted once. -/
theorem size_after (insertions : List (String × α)) :
    (after insertions).size = (insertions.map Prod.fst).toFinset.card := by
  induction insertions using List.reverseRecOn with
  | nil => rfl
  | append_singleton insertions e ih =>
    have htexts : ((insertions ++ [e]).map Prod.fst).toFinset =
        Insert.insert e.1 (insertions.map Prod.fst).toFinset := by
      ext text
      simp
    rw [after_concat, size_insert, ih, htexts, Finset.card_insert_eq_ite]
    simp only [contains_after_iff, List.mem_toFinset]

/-- A search finds what was last inserted under the prefix that the policy wants. -/
theorem search_after_eq_some_iff {insertions : List (String × α)} {policy : MatchPolicy}
    {path : String} {a : α} :
    (after insertions).search policy path = some a ↔
      ∃ p, policy.Wants (insertions.map Prod.fst) path p ∧ lastUnder insertions p = some a := by
  have hspec := (after insertions).search_spec policy path
  simp only [get?_after] at hspec
  have hstored : ∀ q, q ∈ insertions.map Prod.fst ↔ ∃ b, lastUnder insertions q = some b := fun q => by
    rw [← isSome_lastUnder_iff, Option.isSome_iff_exists]
  cases hsearch : (after insertions).search policy path with
  | none =>
    rw [hsearch] at hspec
    refine ⟨nofun, fun ⟨p, ⟨_, hpath, _⟩, ha⟩ => ?_⟩
    rw [hspec p hpath] at ha
    cases ha
  | some b =>
    rw [hsearch] at hspec
    obtain ⟨p, hpath, hb, hbest⟩ := hspec
    have hwants : policy.Wants (insertions.map Prod.fst) path p := by
      refine ⟨(hstored p).2 ⟨b, hb⟩, hpath, fun q hq hq_path => ?_⟩
      obtain ⟨c, hc⟩ := (hstored q).1 hq
      exact hbest q c hq_path hc
    constructor
    · rintro hab
      exact ⟨p, hwants, hb.trans hab⟩
    · rintro ⟨q, hq, ha⟩
      rw [← hb, ← ha, hwants.unique hq]

theorem search_after_eq_none_iff {insertions : List (String × α)} {policy : MatchPolicy}
    {path : String} :
    (after insertions).search policy path = none ↔
      ∀ p ∈ insertions.map Prod.fst, ¬p.toList <+: path.toList := by
  have hspec := (after insertions).search_spec policy path
  simp only [get?_after] at hspec
  cases hsearch : (after insertions).search policy path with
  | none =>
    rw [hsearch] at hspec
    refine ⟨fun _ p hp hpath => ?_, fun _ => rfl⟩
    rw [← isSome_lastUnder_iff, hspec p hpath] at hp
    cases hp
  | some b =>
    rw [hsearch] at hspec
    obtain ⟨p, hpath, hb, -⟩ := hspec
    refine ⟨nofun, fun h => absurd hpath (h p ?_)⟩
    rw [← isSome_lastUnder_iff, hb]
    rfl

/-- **A prefix trie behaves as a map with prefix search.** After any insertions a search answers with
what was last inserted under the longest, or under the shortest, inserted prefix of the path, and with
nothing exactly if none of its prefixes was inserted. Exactly the inserted texts are contained, a further
insertion answers with what was last inserted under its text, and the size is the number of distinct
texts. -/
theorem behaves_as_map (insertions : List (String × α)) :
    (∀ policy path a, (after insertions).search policy path = some a ↔
      ∃ p, policy.Wants (insertions.map Prod.fst) path p ∧ lastUnder insertions p = some a) ∧
    (∀ policy path, (after insertions).search policy path = none ↔
      ∀ p ∈ insertions.map Prod.fst, ¬p.toList <+: path.toList) ∧
    (∀ p, (after insertions).contains p = true ↔ p ∈ insertions.map Prod.fst) ∧
    (∀ p a, ((after insertions).getThenInsert p a).1 = lastUnder insertions p) ∧
    (after insertions).size = (insertions.map Prod.fst).toFinset.card := by
  refine ⟨fun policy path a => search_after_eq_some_iff, fun policy path => search_after_eq_none_iff,
    fun p => contains_after_iff, fun p a => ?_, size_after insertions⟩
  rw [getThenInsert_eq]
  exact get?_after insertions p

/-- Prefixes may be inserted again, also the empty one, and characters need not be of one byte. -/
example :
    let t := after [("/api", 1), ("", 2), ("/é", 3), ("/api", 4)]
    t.search .longest "/apis" = some 4 ∧ t.search .shortest "/apis" = some 2 ∧
      t.search .longest "/éa" = some 3 ∧ t.size = 3 := by
  decide +kernel

end PrefixTrie

end TrafficGateway
