import Mathlib
import TrafficGateway.Proofs.Outcome
import TrafficGateway.Proofs.Route.Expression

/-!
# How expressions are evaluated

A compiled expression is evaluated from left to right, and evaluation stops as soon as the value is
known: at the first child that is false where all are demanded, at the first that is true where one is
enough. Which leaves are read on the way follows from the description of the expression alone
(`ExprConfig.readings`). None of the comparisons that are made on the way lacks its regular expression,
since the patterns of an expression that was compiled have been compiled once.

## Main statements

* `Matchers.Builds.visited`: the leaves that are read are those of the description.
* `Matchers.Builds.hasPattern`: every pattern in a compiled expression can be compiled.
* `Matchers.evaluate_faithful`: value, leaves and patterns together, for every engine of regular
  expressions.
-/

namespace TrafficGateway

section Engine

variable [RegexEngine]

namespace ExprConfig

/-- What a comparison reads. -/
def comparisonReadings (custom : List CustomFetcher) (source key : String) : List Fetcher :=
  match Fetcher.ofSource custom source key with
  | .ok fetcher => [fetcher]
  | .error _ => []

mutual

/-- What is read from a request to find out whether an expression is true of it, in order. -/
def readings (custom : List CustomFetcher) (v : RequestView) : ExprConfig → List Fetcher
  | ⟨source, key, _, _, [], []⟩ => comparisonReadings custom source key
  | ⟨_, _, _, _, [], any⟩ => readingsAny custom v any
  | ⟨_, _, _, _, all, _⟩ => readingsAll custom v all

/-- What is read for a conjunction: nothing behind the first expression that is false. -/
def readingsAll (custom : List CustomFetcher) (v : RequestView) : List ExprConfig → List Fetcher
  | [] => []
  | e :: es =>
    readings custom v e ++ if holds custom v e then readingsAll custom v es else []

/-- What is read for a disjunction: nothing behind the first expression that is true. -/
def readingsAny (custom : List CustomFetcher) (v : RequestView) : List ExprConfig → List Fetcher
  | [] => []
  | e :: es =>
    readings custom v e ++ if holds custom v e then [] else readingsAny custom v es

end

end ExprConfig

namespace Condition

mutual

/-- The comparisons at the leaves of a condition. -/
def comparators : Condition → List Comparator
  | leaf _ comparator => [comparator]
  | all conditions => comparatorsOf conditions
  | any conditions => comparatorsOf conditions

/-- The comparisons at the leaves of conditions. -/
def comparatorsOf : List Condition → List Comparator
  | [] => []
  | c :: cs => comparators c ++ comparatorsOf cs

end

end Condition

namespace Matchers

variable {custom : List CustomFetcher}

/-! ## Leaves that are read -/

mutual

/-- What an expression builds reads what the expression says, whatever the cache holds. -/
theorem Builds.visited (v : RequestView) : ∀ {e : ExprConfig} {c : Condition}, Builds custom e c →
    ∀ cache, (c.evaluate v cache).visited = e.readings custom v
  | _, _, .leaf hf _ _, cache => by
    simp only [Condition.evaluate, ExprConfig.readings, ExprConfig.comparisonReadings, hf]
  | _, _, .any hcs, cache => by
    simp only [Condition.evaluate, ExprConfig.readings]
    exact (hcs.visited v cache).2
  | _, _, .all hcs, cache => by
    simp only [Condition.evaluate, ExprConfig.readings]
    exact (hcs.visited v cache).1

/-- The same for lists, read as conjunctions and as disjunctions. -/
theorem BuildsAll.visited (v : RequestView) : ∀ {es : List ExprConfig} {cs : List Condition},
    BuildsAll custom es cs → ∀ cache,
      (Condition.evaluateAll v cs cache).visited = ExprConfig.readingsAll custom v es ∧
        (Condition.evaluateAny v cs cache).visited = ExprConfig.readingsAny custom v es
  | _, _, .nil, _ => ⟨rfl, rfl⟩
  | _, _, @BuildsAll.cons _ _ e _ c _ hc hcs, cache => by
    have hholds := (c.evaluate_holds v cache).trans (hc.holds v)
    obtain ⟨hall, hany⟩ := hcs.visited v (c.evaluate v cache).cache
    simp only [Condition.evaluateAll, Condition.evaluateAny, ExprConfig.readingsAll,
      ExprConfig.readingsAny, hholds]
    -- Only one of the two goes on behind the first tree.
    cases e.holds custom v with
    | true => simp only [if_true, hc.visited v cache, hall, List.append_nil, and_self]
    | false => simp [hc.visited v cache, hany]

end

/-! ## Patterns -/

mutual

/-- Every pattern in what an expression builds can be compiled. -/
theorem Builds.hasPattern : ∀ {e : ExprConfig} {c : Condition}, Builds custom e c →
    ∀ k ∈ c.comparators, k.HasPattern
  | _, _, .leaf _ _ hpattern, k, hk => by
    simp only [Condition.comparators, List.mem_singleton] at hk
    exact hk ▸ hpattern
  | _, _, .any hcs, k, hk => by
    simp only [Condition.comparators] at hk
    exact hcs.hasPattern k hk
  | _, _, .all hcs, k, hk => by
    simp only [Condition.comparators] at hk
    exact hcs.hasPattern k hk

/-- The same for lists. -/
theorem BuildsAll.hasPattern : ∀ {es : List ExprConfig} {cs : List Condition}, BuildsAll custom es cs →
    ∀ k ∈ Condition.comparatorsOf cs, k.HasPattern
  | _, _, .nil, k, hk => by
    simp only [Condition.comparatorsOf, List.not_mem_nil] at hk
  | _, _, .cons hc hcs, k, hk => by
    simp only [Condition.comparatorsOf, List.mem_append] at hk
    exact hk.elim (hc.hasPattern k) (hcs.hasPattern k)

end

/-- A pattern that can be compiled is found in every cache. -/
theorem get_regex_isSome {pattern : String} (h : (Comparator.regex pattern).HasPattern)
    (cache : RegexCache) : (cache.get pattern).1.regex.isSome := by
  obtain ⟨r, hr⟩ := h
  rw [cache.get_regex, hr]
  rfl

/-- **A compiled expression is evaluated as its description says.** For every request and every state
of the cache, its value is the one of the description, and the leaves that are read for it are those
from left to right up to the one that decides. No comparison in it is ever made without its regular
expression: whatever the cache holds by then, it gives one for the pattern. -/
theorem evaluate_faithful {m : Matchers} {e : ExprConfig} {c : Condition}
    (h : (m.compile e).1 = .ok c) (v : RequestView) (cache : RegexCache) :
    (c.evaluate v cache).holds = e.holds m.custom v ∧
      (c.evaluate v cache).visited = e.readings m.custom v ∧
      ∀ pattern, .regex pattern ∈ c.comparators →
        ∀ cache' : RegexCache, (cache'.get pattern).1.regex.isSome := by
  have hbuilds := builds_of_compile h
  refine ⟨evaluate_compile h v cache, hbuilds.visited v cache, fun pattern hp cache' => ?_⟩
  exact get_regex_isSome (hbuilds.hasPattern _ hp) cache'

end Matchers

end Engine

/-- A text that denotes a pattern has a regular expression. -/
theorem Regex.read_of_readPattern {text : String} {p : Pattern} (h : readPattern text = some p) :
    read text = some ⟨text, p, h⟩ := by
  unfold read
  split
  · next q hq =>
    cases h.symm.trans hq
    rfl
  · next hq => cases h.symm.trans hq

namespace Matchers

/-- An expression over two known sources and one of the gateway's own, which is not read where the host
decides. -/
theorem evaluate_faithful_probe :
    let probe : CustomFetcher := ⟨"probe", fun _ key => some key⟩
    let e : ExprConfig :=
      { all :=
          [{ source := "path", operator := "regex", value := "^/o" },
            { any :=
                [{ source := "host", operator := "eq", value := "shop" },
                  { source := "probe", key := "k", operator := "eq", value := "k" }] }] }
    let c : Condition :=
      .all [.leaf .path (.regex "^/o"),
        .any [.leaf .host (.equals "shop"), .leaf (.custom probe "k") (.equals "k")]]
    let v : RequestView := { path := "/orders", host := "shop" }
    (({ custom := [probe] } : Matchers).compile e).1 = .ok c ∧ ∀ cache : RegexCache,
      (c.evaluate v cache).holds = true ∧ (c.evaluate v cache).visited = [.path, .host] ∧
        (cache.get "^/o").1.regex.isSome := by
  intro probe e c v
  let r : Regex :=
    { text := "^/o"
      pattern := .seq (.assertion .textStart) (.seq (.set (.range 47 47)) (.set (.range 111 111)))
      readPattern_text := by cbv }
  have hread : RegexEngine.read "^/o" = some r := Regex.read_of_readPattern r.readPattern_text
  have hpath : RegexEngine.isMatch r "/orders" = true := by cbv
  have hcompile : (({ custom := [probe] } : Matchers).compile e).1 = .ok c := by
    simp [Matchers.compile, ExprConfig.validate, ExprConfig.validateAll, compileTree, compileTrees,
      compileLeaf, Fetcher.ofSource, Comparator.ofOperator, RegexCache.get_regex, hread, e, c, probe]
    rfl
  refine ⟨hcompile, fun cache => ?_⟩
  obtain ⟨hholds, hvisited, hregex⟩ := evaluate_faithful hcompile v cache
  refine ⟨hholds.trans ?_, hvisited.trans ?_, hregex "^/o" (List.mem_cons_self ..) cache⟩
  · simp [ExprConfig.holds, ExprConfig.holdsAll, ExprConfig.holdsAny, ExprConfig.comparisonHolds,
      Fetcher.ofSource, Comparator.ofOperator, Comparator.passes, Fetcher.fetch, Fetcher.fetch?,
      hread, hpath, e, v]
  · simp [ExprConfig.readings, ExprConfig.readingsAll, ExprConfig.readingsAny,
      ExprConfig.comparisonReadings, ExprConfig.holds, ExprConfig.holdsAny,
      ExprConfig.comparisonHolds, Fetcher.ofSource,
      Comparator.ofOperator, Comparator.passes, Fetcher.fetch, Fetcher.fetch?, hread, hpath, e, v]

end Matchers

end TrafficGateway
