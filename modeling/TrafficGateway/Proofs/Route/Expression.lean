import TrafficGateway.Proofs.Outcome
import TrafficGateway.Proofs.Regex.Cache
import TrafficGateway.Route.Condition

/-!
# The meaning of expressions

An expression is compiled once and evaluated for every request, with the patterns taken from a cache
that other evaluations change. None of this shows in its value: a compiled expression is true of a
request exactly if the description it was compiled from is (`Matchers.evaluate_compile`), whatever the
cache holds.

The meaning of a description is said by `ExprConfig.holds`, which reads neither conditions nor caches.
The meaning of a condition, `Condition.holds`, stands between the two. What the compiler builds is a
relation of descriptions and conditions (`Matchers.Builds`); whatever is said of compiled expressions is
an induction on it.

## Main definitions

* `Condition.holds`, `ExprConfig.holds`: the truth of a condition and of an expression.
* `Matchers.Builds`: the condition that an expression compiles into.

## Main statements

* `Condition.evaluate_holds`: evaluation does not depend on the cache.
* `Matchers.evaluate_compile`: a compiled expression means what its description means.
* `Matchers.compile_fst_congr`: what an expression compiles into does not depend on the cache.
-/

namespace TrafficGateway

variable [RegexEngine]

/-! ## Leaves -/

/-- Does a text pass the comparison, every pattern being compiled afresh? -/
def Comparator.passes (actual : String) : Comparator → Bool
  | .equals value => actual == value
  | .differs value => actual != value
  | .oneOf values => values.contains actual
  | .contains value => hasInfix value.toList actual.toList
  | .regex pattern => (RegexEngine.read pattern).any fun r => RegexEngine.isMatch r actual
  | .empty => actual.isEmpty
  | .notEmpty => !actual.isEmpty

theorem Comparator.test_fst (c : Comparator) (actual : String) (cache : RegexCache) :
    (c.test actual cache).1 = c.passes actual := by
  cases c with
  | regex pattern =>
    have hslot := cache.get_regex pattern
    simp only [test, passes]
    rw [← hslot]
    cases (cache.get pattern).1.regex <;> rfl
  | _ => rfl

/-- Does the comparison have the regular expression that it needs? -/
def Comparator.HasPattern : Comparator → Prop
  | .regex pattern => ∃ r, RegexEngine.read pattern = some r
  | _ => True

/-! ## Conditions -/

namespace Condition

mutual

/-- Is a condition true of a request? -/
def holds (v : RequestView) : Condition → Bool
  | leaf fetcher comparator => comparator.passes (fetcher.fetch v)
  | all conditions => holdsAll v conditions
  | any conditions => holdsAny v conditions

/-- Are all conditions true of a request? -/
def holdsAll (v : RequestView) : List Condition → Bool
  | [] => true
  | c :: cs => holds v c && holdsAll v cs

/-- Is one of the conditions true of a request? -/
def holdsAny (v : RequestView) : List Condition → Bool
  | [] => false
  | c :: cs => holds v c || holdsAny v cs

end

mutual

/-- Evaluation finds the truth of a condition, whatever the cache holds. -/
theorem evaluate_holds (v : RequestView) :
    ∀ (c : Condition) (cache : RegexCache), (evaluate v c cache).holds = c.holds v
  | leaf fetcher comparator, cache => by
    simp only [evaluate, holds]
    exact comparator.test_fst (fetcher.fetch v) cache
  | all conditions, cache => by
    simp only [evaluate, holds]
    exact evaluateAll_holds v conditions cache
  | any conditions, cache => by
    simp only [evaluate, holds]
    exact evaluateAny_holds v conditions cache

/-- Stopping at the first condition that does not hold does not change the conjunction. -/
theorem evaluateAll_holds (v : RequestView) :
    ∀ (cs : List Condition) (cache : RegexCache), (evaluateAll v cs cache).holds = holdsAll v cs
  | [], _ => by simp only [evaluateAll, holdsAll]
  | c :: cs, cache => by
    have hfirst := evaluate_holds v c cache
    simp only [evaluateAll, holdsAll]
    cases hc : holds v c with
    | true =>
      rw [if_pos (hfirst.trans hc), Bool.true_and]
      exact evaluateAll_holds v cs (evaluate v c cache).cache
    | false =>
      rw [if_neg (by rw [hfirst, hc]; exact Bool.false_ne_true), Bool.false_and]
      exact hfirst.trans hc

/-- Stopping at the first condition that holds does not change the disjunction. -/
theorem evaluateAny_holds (v : RequestView) :
    ∀ (cs : List Condition) (cache : RegexCache), (evaluateAny v cs cache).holds = holdsAny v cs
  | [], _ => by simp only [evaluateAny, holdsAny]
  | c :: cs, cache => by
    have hfirst := evaluate_holds v c cache
    simp only [evaluateAny, holdsAny]
    cases hc : holds v c with
    | true =>
      rw [if_pos (hfirst.trans hc), Bool.true_or]
      exact hfirst.trans hc
    | false =>
      rw [if_neg (by rw [hfirst, hc]; exact Bool.false_ne_true), Bool.false_or]
      exact evaluateAny_holds v cs (evaluate v c cache).cache

end

end Condition

/-! ## Descriptions -/

namespace ExprConfig

/-- Is a comparison true of a request? One that names no source or no operator never is. -/
def comparisonHolds (custom : List CustomFetcher) (v : RequestView)
    (source key operator value : String) : Bool :=
  match Fetcher.ofSource custom source key, Comparator.ofOperator operator value with
  | .ok fetcher, .ok comparator => comparator.passes (fetcher.fetch v)
  | _, _ => false

mutual

/-- Is an expression true of a request? A node without children compares, one with children demands
all or any of them. -/
def holds (custom : List CustomFetcher) (v : RequestView) : ExprConfig → Bool
  | ⟨source, key, operator, value, [], []⟩ => comparisonHolds custom v source key operator value
  | ⟨_, _, _, _, [], any⟩ => holdsAny custom v any
  | ⟨_, _, _, _, all, _⟩ => holdsAll custom v all

/-- Are all expressions true of a request? -/
def holdsAll (custom : List CustomFetcher) (v : RequestView) : List ExprConfig → Bool
  | [] => true
  | e :: es => holds custom v e && holdsAll custom v es

/-- Is one of the expressions true of a request? -/
def holdsAny (custom : List CustomFetcher) (v : RequestView) : List ExprConfig → Bool
  | [] => false
  | e :: es => holds custom v e || holdsAny custom v es

end

end ExprConfig

namespace Matchers

/-! ## What is compiled -/

mutual

/-- The condition that an expression compiles into: a leaf over its source and its operator, whose
pattern is there, or all or any of what its children compile into. -/
inductive Builds (custom : List CustomFetcher) : ExprConfig → Condition → Prop
  | leaf {source key operator value : String} {fetcher : Fetcher} {comparator : Comparator}
      (hf : Fetcher.ofSource custom source key = .ok fetcher)
      (hc : Comparator.ofOperator operator value = .ok comparator)
      (hpattern : comparator.HasPattern) :
      Builds custom ⟨source, key, operator, value, [], []⟩ (.leaf fetcher comparator)
  | any {source key operator value : String} {e : ExprConfig} {es : List ExprConfig}
      {cs : List Condition} (hcs : BuildsAll custom (e :: es) cs) :
      Builds custom ⟨source, key, operator, value, [], e :: es⟩ (.any cs)
  | all {source key operator value : String} {e : ExprConfig} {es any : List ExprConfig}
      {cs : List Condition} (hcs : BuildsAll custom (e :: es) cs) :
      Builds custom ⟨source, key, operator, value, e :: es, any⟩ (.all cs)

/-- The conditions that expressions compile into, one by one. -/
inductive BuildsAll (custom : List CustomFetcher) : List ExprConfig → List Condition → Prop
  | nil : BuildsAll custom [] []
  | cons {e : ExprConfig} {es : List ExprConfig} {c : Condition} {cs : List Condition}
      (hc : Builds custom e c) (hcs : BuildsAll custom es cs) : BuildsAll custom (e :: es) (c :: cs)

end

variable {custom : List CustomFetcher} {e : ExprConfig} {es : List ExprConfig} {c : Condition}
  {cs : List Condition} {cache : RegexCache}

/-- What a compiled comparison is. -/
theorem compileLeaf_ok (h : (compileLeaf custom e cache).1 = .ok c) :
    ∃ fetcher comparator, Fetcher.ofSource custom e.source e.key = .ok fetcher ∧
      Comparator.ofOperator e.operator e.value = .ok comparator ∧ comparator.HasPattern ∧
        c = .leaf fetcher comparator := by
  unfold compileLeaf at h
  split at h
  · cases h
  · cases h
  · next fetcher comparator hf hc =>
    cases comparator with
    | regex pattern =>
      have hread := cache.get_regex pattern
      simp only at h
      cases hslot : (cache.get pattern).1.regex with
      | some r =>
        rw [hslot] at h hread
        exact ⟨fetcher, _, hf, hc, ⟨r, hread.symm⟩, (Except.ok.inj h).symm⟩
      | none =>
        rw [hslot] at h
        cases h
    | _ => exact ⟨fetcher, _, hf, hc, trivial, (Except.ok.inj h).symm⟩

/-- The parts of a list that was compiled. -/
theorem compileTrees_cons_ok (h : (compileTrees custom (e :: es) cache).1 = .ok cs) :
    ∃ c rest cache', (compileTree custom e cache).1 = .ok c ∧
      (compileTrees custom es cache').1 = .ok rest ∧ cs = c :: rest := by
  rw [compileTrees] at h
  split at h
  · cases h
  · next c cache' hc =>
    obtain ⟨rest, hrest, rfl⟩ := map_eq_ok_iff.1 h
    exact ⟨c, rest, cache', by rw [hc], hrest, rfl⟩

mutual

/-- A tree compiles into what it builds. -/
theorem builds_of_compileTree : ∀ (e : ExprConfig) (cache : RegexCache) (c : Condition),
    (compileTree custom e cache).1 = .ok c → Builds custom e c
  | ⟨source, key, operator, value, [], []⟩, cache, c, h => by
    obtain ⟨fetcher, comparator, hf, hc, hpattern, rfl⟩ := compileLeaf_ok h
    exact .leaf hf hc hpattern
  | ⟨_, _, _, _, [], e :: es⟩, cache, c, h => by
    simp only [compileTree] at h
    obtain ⟨cs, hcs, rfl⟩ := map_eq_ok_iff.1 h
    exact .any (buildsAll_of_compileTrees (e :: es) cache cs hcs)
  | ⟨_, _, _, _, e :: es, _⟩, cache, c, h => by
    simp only [compileTree] at h
    obtain ⟨cs, hcs, rfl⟩ := map_eq_ok_iff.1 h
    exact .all (buildsAll_of_compileTrees (e :: es) cache cs hcs)

/-- So do trees, one by one. -/
theorem buildsAll_of_compileTrees :
    ∀ (es : List ExprConfig) (cache : RegexCache) (cs : List Condition),
      (compileTrees custom es cache).1 = .ok cs → BuildsAll custom es cs
  | [], cache, cs, h => by
    simp only [compileTrees, Except.ok.injEq] at h
    exact h ▸ .nil
  | e :: es, cache, cs, h => by
    obtain ⟨c, rest, cache', hc, hrest, rfl⟩ := compileTrees_cons_ok h
    exact .cons (builds_of_compileTree e cache c hc) (buildsAll_of_compileTrees es cache' rest hrest)

end

mutual

/-- What an expression builds is true of the requests that the expression is true of. -/
theorem Builds.holds (v : RequestView) : ∀ {e : ExprConfig} {c : Condition},
    Builds custom e c → c.holds v = e.holds custom v
  | _, _, .leaf hf hc _ => by
    simp only [Condition.holds, ExprConfig.holds, ExprConfig.comparisonHolds, hf, hc]
  | _, _, .any hcs => by
    simp only [Condition.holds, ExprConfig.holds]
    exact (hcs.holds v).2
  | _, _, .all hcs => by
    simp only [Condition.holds, ExprConfig.holds]
    exact (hcs.holds v).1

/-- The same for lists, read as conjunctions and as disjunctions. -/
theorem BuildsAll.holds (v : RequestView) : ∀ {es : List ExprConfig} {cs : List Condition},
    BuildsAll custom es cs →
      Condition.holdsAll v cs = ExprConfig.holdsAll custom v es ∧
        Condition.holdsAny v cs = ExprConfig.holdsAny custom v es
  | _, _, .nil => ⟨rfl, rfl⟩
  | _, _, .cons hc hcs => by
    obtain ⟨hall, hany⟩ := hcs.holds v
    simp only [Condition.holdsAll, Condition.holdsAny, ExprConfig.holdsAll, ExprConfig.holdsAny,
      hc.holds v, hall, hany, and_self]

end

theorem builds_of_compile {m : Matchers} (h : (m.compile e).1 = .ok c) : Builds m.custom e c := by
  unfold compile at h
  split at h
  · cases h
  · exact builds_of_compileTree e m.cache c h

/-- Compiling makes no source known and forgets none. -/
@[simp] theorem compile_custom (m : Matchers) (e : ExprConfig) :
    (m.compile e).2.custom = m.custom := by
  unfold compile
  split <;> rfl

/-- **A compiled expression means what its description means**, for every request and every state of
the cache of patterns. -/
theorem evaluate_compile {m : Matchers} (h : (m.compile e).1 = .ok c) (v : RequestView)
    (cache : RegexCache) : (c.evaluate v cache).holds = e.holds m.custom v :=
  (c.evaluate_holds v cache).trans ((builds_of_compile h).holds v)

/-! ### The cache while compiling -/

/-- Whether a comparison compiles, and into what, does not depend on the cache. -/
theorem compileLeaf_fst (custom : List CustomFetcher) (e : ExprConfig) (cache cache' : RegexCache) :
    (compileLeaf custom e cache).1 = (compileLeaf custom e cache').1 := by
  unfold compileLeaf
  cases Fetcher.ofSource custom e.source e.key with
  | error fault => rfl
  | ok fetcher =>
    cases Comparator.ofOperator e.operator e.value with
    | error fault => rfl
    | ok comparator =>
      cases comparator with
      | regex pattern =>
        have hslot : (cache.get pattern).1.regex = (cache'.get pattern).1.regex := by
          rw [cache.get_regex, cache'.get_regex]
        dsimp only
        rw [hslot]
        cases (cache'.get pattern).1.regex <;> rfl
      | _ => rfl

mutual

theorem compileTree_fst (custom : List CustomFetcher) :
    ∀ (e : ExprConfig) (cache cache' : RegexCache),
      (compileTree custom e cache).1 = (compileTree custom e cache').1
  | ⟨source, key, operator, value, [], []⟩, cache, cache' => by
    simp only [compileTree]
    exact compileLeaf_fst custom _ cache cache'
  | ⟨_, _, _, _, [], e :: es⟩, cache, cache' => by
    simp only [compileTree]
    rw [compileTrees_fst custom (e :: es) cache cache']
  | ⟨_, _, _, _, e :: es, _⟩, cache, cache' => by
    simp only [compileTree]
    rw [compileTrees_fst custom (e :: es) cache cache']

theorem compileTrees_fst (custom : List CustomFetcher) :
    ∀ (es : List ExprConfig) (cache cache' : RegexCache),
      (compileTrees custom es cache).1 = (compileTrees custom es cache').1
  | [], _, _ => by simp only [compileTrees]
  | e :: es, cache, cache' => by
    have hfirst := compileTree_fst custom e cache cache'
    simp only [compileTrees]
    rcases hc : compileTree custom e cache with ⟨c, after⟩
    rcases hc' : compileTree custom e cache' with ⟨c', after'⟩
    rw [hc, hc'] at hfirst
    obtain rfl : c = c' := hfirst
    cases c with
    | error fault => rfl
    | ok c =>
      dsimp only
      rw [compileTrees_fst custom es after after']

end

/-- What an expression compiles into depends on the sources that are known, and on nothing else. -/
theorem compile_fst_congr {m m' : Matchers} (h : m.custom = m'.custom) (e : ExprConfig) :
    (m.compile e).1 = (m'.compile e).1 := by
  unfold compile
  cases e.validate with
  | error fault => rfl
  | ok _ =>
    dsimp only
    rw [h]
    exact compileTree_fst m'.custom e m.cache m'.cache

end Matchers

end TrafficGateway
