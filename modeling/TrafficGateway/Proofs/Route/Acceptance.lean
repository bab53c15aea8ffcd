import TrafficGateway.Proofs.Outcome
import TrafficGateway.Proofs.Route.Buckets

/-!
# Which expressions are accepted

An expression is accepted when it compiles. Whether it does is decided in two passes, one over the shape
of the tree and one that compiles its leaves; taken together they ask one thing of every node
(`Matchers.compiles_iff_admissible`).

What is asked is less than the rules for nodes (`ExprConfig.IsAdmissible`). A node with children may carry
a key or a value, although it compares nothing, and a leaf of buckets may leave out the name of its
header. These are the only nodes that pass and should not (`ExprConfig.IsOverlooked`), so that acceptance
follows the rules unless an accepted expression has one of them.

## Main definitions

* `ExprConfig.nodes`: all nodes of an expression.
* `ExprConfig.IsAdmissible`: the rules for nodes.
* `ExprConfig.IsOverlooked`: the nodes that break them and pass.
-/

namespace TrafficGateway

/-! ## Sources -/

namespace Fetcher

/-- The names of the known sources. -/
def knownSources : List String :=
  ["header", "cookie", "host", "path", "headerHashMod"]

/-- A leaf can read from a source with a key: the known sources have rules for their keys, any other name
has to be that of one of the gateway's own. -/
inductive IsReadable (custom : List CustomFetcher) : String → String → Prop
  | host {key : String} : IsReadable custom "host" key
  | path {key : String} : IsReadable custom "path" key
  | header {key : String} (named : key ≠ "") : IsReadable custom "header" key
  | cookie {key : String} (named : key ≠ "") : IsReadable custom "cookie" key
  | buckets {key name : String} {modulus : Nat} (isKey : BucketKey key name modulus)
      (named : name ≠ "") : IsReadable custom "headerHashMod" key
  | custom {source key : String} (other : source ∉ knownSources) (nonempty : source ≠ "")
      (registered : ∃ f ∈ custom, f.name = source) : IsReadable custom source key

variable {custom : List CustomFetcher} {source key : String}

theorem BucketKey.key_ne_empty {name : String} {modulus : Nat} (h : BucketKey key name modulus)
    (named : name ≠ "") : key ≠ "" := by
  cases h with
  | plain => exact named
  | counted => simp

theorem IsReadable.source_ne_empty (h : IsReadable custom source key) : source ≠ "" := by
  cases h with
  | custom _ nonempty => exact nonempty
  | _ => decide

theorem ofSource_custom (other : source ∉ knownSources) : ofSource custom source key =
    match custom.find? fun f => f.name == source with
    | some f => .ok (.custom f key)
    | none => .error (.unsupportedSource source) := by
  unfold ofSource
  extract_lets keyed
  split
  case h_6 => rfl
  all_goals exact absurd (by decide) other

/-- A source of one's own can be read from if it is registered. -/
theorem ofSource_custom_ok_iff (other : source ∉ knownSources) :
    (∃ f, ofSource custom source key = .ok f) ↔ ∃ f ∈ custom, f.name = source := by
  rw [ofSource_custom other]
  cases hfind : custom.find? fun f => f.name == source with
  | some f =>
    have hname : f.name = source := by simpa using List.find?_some hfind
    exact iff_of_true ⟨_, rfl⟩ ⟨f, List.mem_of_find?_eq_some hfind, hname⟩
  | none =>
    refine iff_of_false nofun ?_
    rintro ⟨f, hf, hname⟩
    exact absurd hname (by simpa using List.find?_eq_none.1 hfind f hf)

/-- Buckets can be read with any key that is one, whatever its name is. -/
theorem ofSource_buckets_ok_iff : (∃ f, ofSource custom "headerHashMod" key = .ok f) ↔
    key ≠ "" ∧ ∃ name modulus, BucketKey key name modulus := by
  by_cases hne : key = ""
  · simp [ofSource, hne]
  · simp only [ofSource_buckets custom hne, readBuckets_ok_iff, ne_eq, hne, not_false_eq_true, true_and]
    constructor
    · rintro ⟨-, name, modulus, isKey, -⟩
      exact ⟨name, modulus, isKey⟩
    · rintro ⟨name, modulus, isKey⟩
      exact ⟨_, name, modulus, isKey, rfl⟩

/-- What a named source gives: it can be read from, or it is that of buckets and its key names no header. -/
theorem ofSource_ok_iff (hsource : source ≠ "") : (∃ f, ofSource custom source key = .ok f) ↔
    IsReadable custom source key ∨
      source = "headerHashMod" ∧ key ≠ "" ∧ ∃ modulus, BucketKey key "" modulus := by
  constructor
  · intro hok
    by_cases hknown : source ∈ knownSources
    · simp only [knownSources, List.mem_cons, List.not_mem_nil, or_false] at hknown
      obtain rfl | rfl | rfl | rfl | rfl := hknown
      · exact .inl (.header fun h => by simp [ofSource, h] at hok)
      · exact .inl (.cookie fun h => by simp [ofSource, h] at hok)
      · exact .inl .host
      · exact .inl .path
      · obtain ⟨hne, name, modulus, isKey⟩ := ofSource_buckets_ok_iff.1 hok
        by_cases hname : name = ""
        · exact .inr ⟨rfl, hne, modulus, hname ▸ isKey⟩
        · exact .inl (.buckets isKey hname)
    · exact .inl (.custom hknown hsource ((ofSource_custom_ok_iff hknown).1 hok))
  · rintro (hreadable | ⟨rfl, hne, modulus, isKey⟩)
    · cases hreadable with
      | host | path => exact ⟨_, rfl⟩
      | header named | cookie named => exact ⟨_, by simp [ofSource, named]; rfl⟩
      | buckets isKey named =>
        exact ofSource_buckets_ok_iff.2 ⟨isKey.key_ne_empty named, _, _, isKey⟩
      | custom other _ registered => exact (ofSource_custom_ok_iff other).2 registered
    · exact ofSource_buckets_ok_iff.2 ⟨hne, _, _, isKey⟩

end Fetcher

/-! ## Operators -/

namespace Comparator

/-- The names of the operators. -/
def knownOperators : List String :=
  ["eq", "neq", "in", "contains", "regex", "empty", "notEmpty"]

theorem ofOperator_unknown {operator : String} (h : operator ∉ knownOperators) (value : String) :
    ofOperator operator value = .error (.unsupportedOperator operator) := by
  unfold ofOperator
  split
  case h_8 => rfl
  all_goals exact absurd (by decide) h

/-- An operator can be applied to a value: it is known, and the value of `regex` is a regular
expression. -/
def IsApplicable [RegexEngine] (operator value : String) : Prop :=
  operator ∈ knownOperators ∧ (operator = "regex" → (RegexEngine.read value).isSome)

end Comparator

/-! ## Nodes -/

namespace ExprConfig

mutual

/-- The nodes of an expression. -/
def nodes : ExprConfig → List ExprConfig
  | ⟨source, key, operator, value, all, any⟩ =>
    ⟨source, key, operator, value, all, any⟩ :: (nodesOf all ++ nodesOf any)

/-- The nodes of some expressions. -/
def nodesOf : List ExprConfig → List ExprConfig
  | [] => []
  | e :: es => nodes e ++ nodesOf es

end

/-- A node has children of one kind. -/
def HasChildren (e : ExprConfig) : Prop :=
  e.all ≠ [] ∧ e.any = [] ∨ e.all = [] ∧ e.any ≠ []

variable {custom : List CustomFetcher} {e : ExprConfig} {es : List ExprConfig}

theorem validateAll_cons_ok : validateAll (e :: es) = .ok () ↔
    e.validate = .ok () ∧ validateAll es = .ok () := by
  rw [validateAll, bind_eq_ok_iff]
  exact ⟨fun ⟨_, h⟩ => h, fun h => ⟨(), h⟩⟩

/-- The shape of a node with children is that of its children, if it is no comparison. -/
theorem validate_of_hasChildren (h : e.HasChildren) : e.validate = .ok () ↔
    (e.source = "" ∧ e.operator = "") ∧ validateAll e.all = .ok () ∧ validateAll e.any = .ok () := by
  obtain ⟨source, key, operator, value, all, any⟩ := e
  have hbare : (!source.isEmpty || !operator.isEmpty) = false ↔ source = "" ∧ operator = "" := by
    simp
  have hlist {first rest : List ExprConfig} : (do validateAll first; validateAll rest) = .ok () ↔
      validateAll first = .ok () ∧ validateAll rest = .ok () := by
    rw [bind_eq_ok_iff]
    exact ⟨fun ⟨_, h⟩ => h, fun h => ⟨(), h⟩⟩
  cases all <;> cases any
  case nil.nil => exact absurd rfl (h.elim (·.1) (·.2))
  case cons.cons => exact absurd h (by simp [HasChildren])
  all_goals
    rw [← hbare, ← hlist, validate]
    · cases !source.isEmpty || !operator.isEmpty <;> simp
    all_goals simp

variable [RegexEngine]

/-- The rules for nodes. A node without children compares what can be read with a value. A node with
children has children of one kind, and nothing of a comparison. -/
inductive IsAdmissible (custom : List CustomFetcher) (e : ExprConfig) : Prop
  | comparison (childless : e.all = [] ∧ e.any = [])
      (readable : Fetcher.IsReadable custom e.source e.key)
      (applicable : Comparator.IsApplicable e.operator e.value)
  | junction (children : e.HasChildren)
      (bare : e.source = "" ∧ e.key = "" ∧ e.operator = "" ∧ e.value = "")

/-- The nodes that break the rules and are not refused: with children and a key or a value, and without
children and with a key that has no name of a header. -/
inductive IsOverlooked (e : ExprConfig) : Prop
  | stray (children : e.HasChildren) (bare : e.source = "" ∧ e.operator = "")
      (stray : e.key ≠ "" ∨ e.value ≠ "")
  | nameless {modulus : Nat} (childless : e.all = [] ∧ e.any = [])
      (source : e.source = "headerHashMod") (isKey : Fetcher.BucketKey e.key "" modulus)
      (nonempty : e.key ≠ "") (applicable : Comparator.IsApplicable e.operator e.value)

theorem IsAdmissible.not_overlooked (h : e.IsAdmissible custom) : ¬e.IsOverlooked := by
  cases h with
  | comparison childless readable =>
    rintro (⟨children⟩ | ⟨-, source, isKey, -⟩)
    · exact children.elim (·.1 childless.1) (·.2 childless.2)
    · generalize e.source = name at readable source
      cases readable with
      | buckets isKey' named => exact named (isKey'.name_unique isKey)
      | custom other => exact other (by rw [source]; decide)
      | _ => exact absurd source (by decide)
  | junction children bare =>
    rintro (⟨-, -, stray⟩ | ⟨childless⟩)
    · exact stray.elim (absurd bare.2.1) (absurd bare.2.2.2)
    · exact children.elim (·.1 childless.1) (·.2 childless.2)

/-- What is asked of a node of an expression that compiles. -/
def Passes (custom : List CustomFetcher) (e : ExprConfig) : Prop :=
  e.IsAdmissible custom ∨ e.IsOverlooked

/-- Of a node with children it is asked that it has neither a source nor an operator. -/
theorem passes_of_hasChildren (h : e.HasChildren) :
    e.Passes custom ↔ e.source = "" ∧ e.operator = "" := by
  have hchildren : ¬(e.all = [] ∧ e.any = []) := fun hnone => h.elim (·.1 hnone.1) (·.2 hnone.2)
  constructor
  · rintro ((⟨childless⟩ | ⟨-, bare⟩) | (⟨-, bare⟩ | ⟨childless⟩))
    · exact absurd childless hchildren
    · exact ⟨bare.1, bare.2.2.1⟩
    · exact bare
    · exact absurd childless hchildren
  · rintro ⟨hsource, hoperator⟩
    by_cases hstray : e.key = "" ∧ e.value = ""
    · exact .inl (.junction h ⟨hsource, hstray.1, hoperator, hstray.2⟩)
    · exact .inr (.stray h ⟨hsource, hoperator⟩ (not_and_or.1 hstray))

/-- A node with children of both kinds is refused. -/
theorem refused_of_both (custom : List CustomFetcher) (e : ExprConfig) (hall : e.all ≠ [])
    (hany : e.any ≠ []) : e.validate ≠ .ok () ∧ ¬e.Passes custom := by
  obtain ⟨source, key, operator, value, all, any⟩ := e
  obtain ⟨a, as, rfl⟩ := List.exists_cons_of_ne_nil hall
  obtain ⟨b, bs, rfl⟩ := List.exists_cons_of_ne_nil hany
  refine ⟨by simp [validate], ?_⟩
  rintro ((⟨childless⟩ | ⟨children⟩) | (⟨children⟩ | ⟨childless⟩))
  · exact hall childless.1
  · exact children.elim (hany ·.2) (hall ·.1)
  · exact children.elim (hany ·.2) (hall ·.1)
  · exact hall childless.1

end ExprConfig

namespace Matchers

open ExprConfig

section Engine

variable [RegexEngine] {custom : List CustomFetcher} {e : ExprConfig} {es : List ExprConfig}
  {cache : RegexCache}

/-- A comparison compiles if it can be read what it compares and its operator can be applied. -/
theorem compileLeaf_ok_iff : (∃ c, (compileLeaf custom e cache).1 = .ok c) ↔
    (∃ f, Fetcher.ofSource custom e.source e.key = .ok f) ∧
      Comparator.IsApplicable e.operator e.value := by
  constructor
  · rintro ⟨c, h⟩
    obtain ⟨f, comparator, hf, hcomparator, hpattern, -⟩ := compileLeaf_ok h
    refine ⟨⟨f, hf⟩, ?_, fun hregex => ?_⟩
    · by_contra hunknown
      rw [Comparator.ofOperator_unknown hunknown] at hcomparator
      cases hcomparator
    · rw [hregex] at hcomparator
      obtain rfl := Except.ok.inj hcomparator
      obtain ⟨r, hr⟩ := hpattern
      rw [hr]
      rfl
  · rintro ⟨⟨f, hf⟩, hknown, hpattern⟩
    simp only [Comparator.knownOperators, List.mem_cons, List.not_mem_nil, or_false] at hknown
    obtain h | h | h | h | h | h | h := hknown
    all_goals simp only [compileLeaf, hf, h, Comparator.ofOperator]
    case inr.inr.inr.inr.inl =>
      obtain ⟨r, hr⟩ := Option.isSome_iff_exists.1 (hpattern h)
      rw [← cache.get_regex] at hr
      rw [hr]
      exact ⟨_, rfl⟩
    all_goals exact ⟨_, rfl⟩

/-- Trees compile one by one, whatever the cache holds. -/
theorem compileTrees_cons_ok_iff : (∃ cs, (compileTrees custom (e :: es) cache).1 = .ok cs) ↔
    (∃ c, (compileTree custom e cache).1 = .ok c) ∧
      ∃ cs, (compileTrees custom es cache).1 = .ok cs := by
  rw [compileTrees]
  rcases hfirst : compileTree custom e cache with ⟨_ | c, cache'⟩
  · simp
  · have hrest := compileTrees_fst custom es cache' cache
    simp only [map_eq_ok_iff, hrest]
    simp

/-- A node with children compiles if they do, and a node without children if it can be compared. -/
theorem compileTree_ok_iff {source key operator value : String} {all any : List ExprConfig}
    (hone : all = [] ∨ any = []) :
    (∃ c, (compileTree custom ⟨source, key, operator, value, all, any⟩ cache).1 = .ok c) ↔
      if all = [] ∧ any = [] then
        ∃ c, (compileLeaf custom ⟨source, key, operator, value, [], []⟩ cache).1 = .ok c
      else (∃ cs, (compileTrees custom all cache).1 = .ok cs) ∧
        ∃ cs, (compileTrees custom any cache).1 = .ok cs := by
  cases all with
  | nil =>
    cases any with
    | nil => simp [compileTree]
    | cons e es => simp [compileTree, map_eq_ok_iff, compileTrees]
  | cons e es =>
    obtain rfl := hone.resolve_left (List.cons_ne_nil e es)
    simp [compileTree, map_eq_ok_iff, compileTrees]

/-- A node without children passes if it has a source and an operator and compiles. -/
theorem leaf_passes_iff (custom : List CustomFetcher) (e : ExprConfig) (cache : RegexCache)
    (h : e.all = [] ∧ e.any = []) :
    (e.validate = .ok () ∧ ∃ c, (compileLeaf custom e cache).1 = .ok c) ↔ e.Passes custom := by
  have hvalidate : e.validate = .ok () ↔ e.source ≠ "" ∧ e.operator ≠ "" := by
    obtain ⟨source, key, operator, value, all, any⟩ := e
    obtain ⟨rfl, rfl⟩ := h
    rw [validate]
    simp
  have hchildren : ¬e.HasChildren := fun hchildren => hchildren.elim (·.1 h.1) (·.2 h.2)
  rw [hvalidate, compileLeaf_ok_iff]
  constructor
  · rintro ⟨⟨hsource, -⟩, hreads, happlicable⟩
    obtain hreadable | ⟨hbuckets, hne, modulus, isKey⟩ := (Fetcher.ofSource_ok_iff hsource).1 hreads
    · exact .inl (.comparison h hreadable happlicable)
    · exact .inr (.nameless h hbuckets isKey hne happlicable)
  · have hoperator (happlicable : Comparator.IsApplicable e.operator e.value) : e.operator ≠ "" := by
      intro hempty
      exact absurd (hempty ▸ happlicable.1) (by decide)
    rintro ((⟨-, hreadable, happlicable⟩ | ⟨children⟩) |
      (⟨children⟩ | ⟨-, hbuckets, isKey, hne, happlicable⟩))
    · have hsource := hreadable.source_ne_empty
      exact ⟨⟨hsource, hoperator happlicable⟩,
        (Fetcher.ofSource_ok_iff hsource).2 (.inl hreadable), happlicable⟩
    · exact absurd children hchildren
    · exact absurd children hchildren
    · have hsource : e.source ≠ "" := by rw [hbuckets]; decide
      exact ⟨⟨hsource, hoperator happlicable⟩,
        (Fetcher.ofSource_ok_iff hsource).2 (.inr ⟨hbuckets, hne, _, isKey⟩), happlicable⟩

mutual

/-- **An expression has the right shape and compiles if every node passes.** -/
theorem accepted_iff (custom : List CustomFetcher) : ∀ (e : ExprConfig) (cache : RegexCache),
    (e.validate = .ok () ∧ ∃ c, (compileTree custom e cache).1 = .ok c) ↔
      ∀ n ∈ e.nodes, n.Passes custom
  | ⟨source, key, operator, value, all, any⟩, cache => by
    have hall := acceptedAll_iff custom all cache
    have hany := acceptedAll_iff custom any cache
    rw [nodes, List.forall_mem_cons, List.forall_mem_append, ← hall, ← hany]
    -- Both passes ask for children of one kind, of none, or of both.
    by_cases hchildren : HasChildren ⟨source, key, operator, value, all, any⟩
    · have hone : all = [] ∨ any = [] := hchildren.elim (.inr ·.2) (.inl ·.1)
      have hnot : ¬(all = [] ∧ any = []) := fun hnone =>
        hchildren.elim (·.1 hnone.1) (·.2 hnone.2)
      rw [validate_of_hasChildren hchildren, passes_of_hasChildren hchildren,
        compileTree_ok_iff hone, if_neg hnot]
      tauto
    · by_cases hnone : all = [] ∧ any = []
      · have hleaf := leaf_passes_iff custom ⟨source, key, operator, value, all, any⟩ cache hnone
        obtain ⟨rfl, rfl⟩ := hnone
        rw [← hleaf, compileTree]
        simp [validateAll, compileTrees]
      · have hboth : all ≠ [] ∧ any ≠ [] := by
          unfold HasChildren at hchildren
          tauto
        obtain ⟨hvalidate, hpasses⟩ :=
          refused_of_both custom ⟨source, key, operator, value, all, any⟩ hboth.1 hboth.2
        exact ⟨fun h => absurd h.1 hvalidate, fun h => absurd h.1 hpasses⟩

/-- The same for lists of expressions. -/
theorem acceptedAll_iff (custom : List CustomFetcher) : ∀ (es : List ExprConfig) (cache : RegexCache),
    (validateAll es = .ok () ∧ ∃ cs, (compileTrees custom es cache).1 = .ok cs) ↔
      ∀ n ∈ nodesOf es, n.Passes custom
  | [], cache => by simp [validateAll, compileTrees, nodesOf]
  | e :: es, cache => by
    rw [nodesOf, List.forall_mem_append, ← accepted_iff custom e cache,
      ← acceptedAll_iff custom es cache, validateAll_cons_ok, compileTrees_cons_ok_iff]
    tauto

end

/-- An expression compiles if every node passes. -/
theorem compile_ok_iff (m : Matchers) (e : ExprConfig) :
    (∃ c, (m.compile e).1 = .ok c) ↔ ∀ n ∈ e.nodes, n.Passes m.custom := by
  rw [← accepted_iff m.custom e m.cache]
  unfold compile
  cases e.validate <;> simp

/-- **Acceptance asks the same of every node.** An expression compiles exactly if each of its nodes, at
any depth, obeys the rules or is one of those that are overlooked. So acceptance follows the rules exactly
if no accepted expression has a node that is overlooked: one with children and a key or a value of its
own, or one of buckets whose key leaves out the name of the header. -/
theorem compiles_iff_admissible (m : Matchers) (e : ExprConfig) :
    ((∃ c, (m.compile e).1 = .ok c) ↔ ∀ n ∈ e.nodes, n.IsAdmissible m.custom ∨ n.IsOverlooked) ∧
      (((∃ c, (m.compile e).1 = .ok c) ↔ ∀ n ∈ e.nodes, n.IsAdmissible m.custom) ↔
        ((∃ c, (m.compile e).1 = .ok c) → ∀ n ∈ e.nodes, ¬n.IsOverlooked)) := by
  have hexact : (∃ c, (m.compile e).1 = .ok c) ↔
      ∀ n ∈ e.nodes, n.IsAdmissible m.custom ∨ n.IsOverlooked := compile_ok_iff m e
  refine ⟨hexact, ?_⟩
  constructor
  · exact fun hrules hok n hn => (hrules.1 hok n hn).not_overlooked
  · intro hnone
    constructor
    · exact fun hok n hn => (hexact.1 hok n hn).resolve_right (hnone hok n hn)
    · exact fun hrules => hexact.2 fun n hn => .inl (hrules n hn)

end Engine

/-- A key on a node with children is overlooked, and so is a key of buckets without a name. -/
theorem overlooked_nodes_compile :
    let host : ExprConfig := { source := "host", operator := "eq", value := "a" }
    let junction : ExprConfig := { key := "k", all := [host] }
    let nameless : ExprConfig := { source := "headerHashMod", key := "%5", operator := "in", value := "0" }
    ((∃ c, (({} : Matchers).compile junction).1 = .ok c) ∧ junction ∈ junction.nodes ∧
      ¬junction.IsAdmissible []) ∧
    (∃ c, (({} : Matchers).compile nameless).1 = .ok c) ∧ nameless ∈ nameless.nodes ∧
      ¬nameless.IsAdmissible [] := by
  intro host junction nameless
  have hjunction : junction.IsOverlooked :=
    .stray (.inl ⟨List.cons_ne_nil _ _, rfl⟩) ⟨rfl, rfl⟩ (.inl (by decide))
  have hkey : Fetcher.BucketKey "%5" "" 5 :=
    @Fetcher.BucketKey.counted "" "5" 5 (by decide) (by decide) (by decide)
  have hnameless : nameless.IsOverlooked :=
    .nameless ⟨rfl, rfl⟩ rfl hkey (by decide) ⟨by decide, by decide⟩
  have hhost : host.IsAdmissible [] :=
    .comparison ⟨rfl, rfl⟩ .host ⟨by decide, by decide⟩
  refine ⟨⟨?_, by simp [nodes, junction], fun h => h.not_overlooked hjunction⟩, ?_,
    by simp [nodes, nameless], fun h => h.not_overlooked hnameless⟩
  · refine (compile_ok_iff {} junction).2 (List.forall_mem_cons.2 ⟨.inr hjunction, ?_⟩)
    exact List.forall_mem_singleton.2 (.inl hhost)
  · exact (compile_ok_iff {} nameless).2 (List.forall_mem_singleton.2 (.inr hnameless))

end Matchers

end TrafficGateway
