import TrafficGateway.Route.Trie

/-!
# Prefix search in tries

A trie stands for the function from texts to payloads that `get?` reads off it. Insertion changes
this function at one text (`get?_insert`), and search picks, among the stored prefixes of a text,
the one that the policy prefers (`search_spec`). Nothing else is ever needed of the tree itself.

## Main statements

* `Trie.get?_insert`, `PrefixTrie.get?_insert`: a lookup after an insertion.
* `Trie.search_spec`, `PrefixTrie.search_spec`: what is found, and that it is the best.
* `PrefixTrie.size_insert`: a new text is counted once.
-/

namespace TrafficGateway

/-- Does the policy want a stored prefix of `m` characters at least as much as one of `n`? -/
def MatchPolicy.Prefers : MatchPolicy → Nat → Nat → Prop
  | .longest, m, n => n ≤ m
  | .shortest, m, n => m ≤ n

theorem MatchPolicy.Prefers.antisymm {policy : MatchPolicy} {m n : Nat}
    (h : policy.Prefers m n) (h' : policy.Prefers n m) : m = n := by
  cases policy with
  | longest => exact Nat.le_antisymm h' h
  | shortest => exact Nat.le_antisymm h h'

namespace Trie

variable {α : Type}

/-! ## Lookup after insertion -/

@[simp] theorem payload_setChild (t : Trie α) (c : Char) (s : Trie α) :
    (t.setChild c s).payload = t.payload := by
  cases t
  rfl

theorem child?_setChild (t : Trie α) (c d : Char) (s : Trie α) :
    (t.setChild c s).child? d = if c = d then some s else t.child? d := by
  obtain ⟨p, children⟩ := t
  by_cases h : c = d
  · simp [setChild, child?, h]
  · have hfind : ((children.filter fun e => e.1 != c).find? fun e => e.1 == d) =
        children.find? fun e => e.1 == d := by
      rw [List.find?_filter]
      congr 1
      funext e
      by_cases he : e.1 = d
      · have hne : d ≠ c := fun hdc => h hdc.symm
        simp [he, hne]
      · simp [he]
    simp only [setChild, child?, List.find?_cons]
    rw [show (c == d) = false from by simpa using h, hfind, if_neg h]

@[simp] theorem get?_nil (t : Trie α) : t.get? [] = t.payload := by
  cases t
  rfl

theorem get?_cons (t : Trie α) (c : Char) (cs : List Char) :
    t.get? (c :: cs) = (t.child? c).bind fun s => s.get? cs := by
  simp only [get?]
  cases t.child? c <;> rfl

@[simp] theorem get?_empty (cs : List Char) : (empty : Trie α).get? cs = none := by
  cases cs with
  | nil => rfl
  | cons c cs => rfl

/-- An absent subtree reads as the empty one. -/
theorem get?_child?_getD (t : Trie α) (c : Char) (cs : List Char) :
    ((t.child? c).getD empty).get? cs = t.get? (c :: cs) := by
  rw [get?_cons]
  cases t.child? c with
  | none => exact get?_empty cs
  | some s => rfl

theorem get?_insert (a : α) (t : Trie α) (cs ds : List Char) :
    (t.insert a cs).get? ds = if cs = ds then some a else t.get? ds := by
  induction cs generalizing t ds with
  | nil =>
    obtain ⟨p, children⟩ := t
    cases ds with
    | nil => rfl
    | cons d ds => simp [insert, get?_cons, child?]
  | cons c cs ih =>
    cases ds with
    | nil => simp [insert]
    | cons d ds =>
      rw [insert, get?_cons, child?_setChild]
      by_cases h : c = d
      · subst h
        rw [if_pos rfl, Option.bind_some, ih, get?_child?_getD]
        simp
      · rw [if_neg h, ← get?_cons]
        simp [h]

/-! ## Search -/

/-- A search goes on below the first character, and the payload of the root comes in last or first. -/
theorem search_cons (policy : MatchPolicy) (t : Trie α) (c : Char) (cs : List Char) :
    t.search policy (c :: cs) =
      match policy with
      | .longest => ((t.child? c).bind fun s => s.search policy cs).or t.payload
      | .shortest => t.payload.or ((t.child? c).bind fun s => s.search policy cs) := by
  cases policy <;> cases h : t.child? c <;> simp [search, h]

/-- What a search answers: a payload that is stored under a prefix of the text which the policy wants
at least as much as any other stored prefix, or nothing when no prefix is stored. -/
def Answers (stored : List Char → Option α) (policy : MatchPolicy) (cs : List Char) :
    Option α → Prop
  | some a => ∃ p, p <+: cs ∧ stored p = some a ∧
      ∀ q b, q <+: cs → stored q = some b → policy.Prefers p.length q.length
  | none => ∀ q, q <+: cs → stored q = none

/-- A search among the longer prefixes answers for the prefixes with at least one character; the empty
prefix comes last under the longest policy and first under the shortest. -/
theorem Answers.cons {stored : List Char → Option α} {policy : MatchPolicy} {c : Char}
    {cs : List Char} {deeper : Option α} :
    Answers (fun q => stored (c :: q)) policy cs deeper →
    Answers stored policy (c :: cs)
      (match policy with
        | .longest => deeper.or (stored [])
        | .shortest => (stored []).or deeper) := by
  intro h
  cases policy with
  | longest =>
    cases deeper with
    | some a =>
      obtain ⟨p, hp, hstored, hbest⟩ := h
      refine ⟨c :: p, List.cons_prefix_cons.2 ⟨rfl, hp⟩, hstored, fun q b hq hb => ?_⟩
      rcases List.prefix_cons_iff.1 hq with rfl | ⟨q, rfl, hq'⟩
      · exact Nat.zero_le _
      · exact Nat.succ_le_succ (hbest q b hq' hb)
    | none =>
      show Answers stored .longest (c :: cs) (stored [])
      cases hroot : stored [] with
      | some a =>
        refine ⟨[], List.nil_prefix, hroot, fun q b hq hb => ?_⟩
        rcases List.prefix_cons_iff.1 hq with rfl | ⟨q, rfl, hq'⟩
        · exact Nat.le_refl _
        · exact absurd hb (by simp [h q hq'])
      | none =>
        intro q hq
        rcases List.prefix_cons_iff.1 hq with rfl | ⟨q, rfl, hq'⟩
        · exact hroot
        · exact h q hq'
  | shortest =>
    show Answers stored .shortest (c :: cs) ((stored []).or deeper)
    cases hroot : stored [] with
    | some a => exact ⟨[], List.nil_prefix, hroot, fun q b _ _ => Nat.zero_le _⟩
    | none =>
      cases deeper with
      | some a =>
        obtain ⟨p, hp, hstored, hbest⟩ := h
        refine ⟨c :: p, List.cons_prefix_cons.2 ⟨rfl, hp⟩, hstored, fun q b hq hb => ?_⟩
        rcases List.prefix_cons_iff.1 hq with rfl | ⟨q, rfl, hq'⟩
        · exact absurd hb (by simp [hroot])
        · exact Nat.succ_le_succ (hbest q b hq' hb)
      | none =>
        intro q hq
        rcases List.prefix_cons_iff.1 hq with rfl | ⟨q, rfl, hq'⟩
        · exact hroot
        · exact h q hq'

/-- **Search is exact**: it answers with the stored prefix that the policy prefers. -/
theorem search_spec (policy : MatchPolicy) (t : Trie α) (cs : List Char) :
    Answers t.get? policy cs (t.search policy cs) := by
  induction cs generalizing t with
  | nil =>
    show Answers t.get? policy [] t.payload
    cases h : t.payload with
    | none =>
      intro q hq
      rw [List.prefix_nil.1 hq, get?_nil, h]
    | some a =>
      refine ⟨[], List.nil_prefix, by rw [get?_nil, h], fun q b hq _ => ?_⟩
      rw [List.prefix_nil.1 hq]
      cases policy <;> exact Nat.le_refl _
  | cons c cs ih =>
    -- Below the first character the trie stands for what is stored behind it.
    have hdeeper : Answers (fun q => t.get? (c :: q)) policy cs
        ((t.child? c).bind fun s => s.search policy cs) := by
      simp only [get?_cons]
      cases t.child? c with
      | none => exact fun _ _ => rfl
      | some s => exact ih s
    have h := Answers.cons hdeeper
    rw [get?_nil] at h
    rw [search_cons]
    exact h

end Trie

namespace PrefixTrie

variable {α : Type}

@[simp] theorem get?_fresh (text : String) : ({} : PrefixTrie α).get? text = none :=
  Trie.get?_empty text.toList

theorem get?_insert (t : PrefixTrie α) (text other : String) (a : α) :
    (t.insert text a).get? other = if text = other then some a else t.get? other := by
  rw [get?, insert, Trie.get?_insert]
  simp only [String.toList_inj]
  rfl

theorem size_insert (t : PrefixTrie α) (text : String) (a : α) :
    (t.insert text a).size = if t.contains text then t.size else t.size + 1 :=
  rfl

/-- What is found is stored under a prefix of the text, the one that the policy prefers; when nothing
is found no prefix of the text is stored. -/
theorem search_spec (t : PrefixTrie α) (policy : MatchPolicy) (text : String) :
    match t.search policy text with
    | some a => ∃ p : String, p.toList <+: text.toList ∧ t.get? p = some a ∧
        ∀ (q : String) (b : α), q.toList <+: text.toList → t.get? q = some b →
          policy.Prefers p.length q.length
    | none => ∀ q : String, q.toList <+: text.toList → t.get? q = none := by
  have h := Trie.search_spec policy t.root text.toList
  rw [search]
  cases hs : t.root.search policy text.toList with
  | none =>
    rw [hs] at h
    exact fun q hq => h q.toList hq
  | some a =>
    rw [hs] at h
    obtain ⟨p, hp, hstored, hbest⟩ := h
    refine ⟨String.ofList p, by simpa using hp, by simpa [get?] using hstored, fun q b hq hb => ?_⟩
    simpa only [String.length_toList, String.length_ofList] using hbest q.toList b hq hb

end PrefixTrie

end TrafficGateway
