import TrafficGateway.Route.Comparator
import TrafficGateway.Route.Fetcher
import TrafficGateway.Route.Spec

/-!
# Conditions

Expressions that have been checked and compiled. Evaluation goes from left to right and stops as
soon as the value is known.

## Main definitions

* `Condition`: a compiled expression.
* `Matchers`: what compiling and evaluating need, the sources of the gateway's own and the cache of
  patterns.
* `Matchers.compile`: the condition of an expression.
* `Condition.evaluate`: its value for a request, and the leaves that were read for it.
-/

namespace TrafficGateway

/-- A compiled expression. -/
inductive Condition where
  | leaf (fetcher : Fetcher) (comparator : Comparator)
  | all (conditions : List Condition)
  | any (conditions : List Condition)

variable [RegexEngine]

/-- The sources of a gateway's own and the cache of patterns. -/
structure Matchers where
  custom : List CustomFetcher := []
  cache : RegexCache := .empty

/-- The value of a condition, the leaves that were read for it in order, and the cache after it. -/
structure Evaluation where
  holds : Bool
  visited : List Fetcher
  cache : RegexCache

namespace Condition

mutual

/-- The value of a condition for a request. -/
def evaluate (v : RequestView) : Condition → RegexCache → Evaluation
  | leaf fetcher comparator, cache =>
    let (holds, cache) := comparator.test (fetcher.fetch v) cache
    ⟨holds, [fetcher], cache⟩
  | all conditions, cache => evaluateAll v conditions cache
  | any conditions, cache => evaluateAny v conditions cache

/-- Do all conditions hold? The first that does not hold ends the evaluation. -/
def evaluateAll (v : RequestView) : List Condition → RegexCache → Evaluation
  | [], cache => ⟨true, [], cache⟩
  | c :: cs, cache =>
    let first := evaluate v c cache
    if first.holds then
      let rest := evaluateAll v cs first.cache
      { rest with visited := first.visited ++ rest.visited }
    else first

/-- Does one of the conditions hold? The first that holds ends the evaluation. -/
def evaluateAny (v : RequestView) : List Condition → RegexCache → Evaluation
  | [], cache => ⟨false, [], cache⟩
  | c :: cs, cache =>
    let first := evaluate v c cache
    if first.holds then first
    else
      let rest := evaluateAny v cs first.cache
      { rest with visited := first.visited ++ rest.visited }

end

end Condition

namespace Matchers

/-- Makes a source of the gateway's own known, in place of one of the same name. -/
def register (m : Matchers) (f : CustomFetcher) : Matchers :=
  { m with custom := f :: m.custom.filter fun g => g.name != f.name }

/-- Compiles a comparison: its source first, then its operator, then its pattern. -/
def compileLeaf (custom : List CustomFetcher) (e : ExprConfig) (cache : RegexCache) :
    Except RouteError Condition × RegexCache :=
  match Fetcher.ofSource custom e.source e.key, Comparator.ofOperator e.operator e.value with
  | .error fault, _ => (.error fault, cache)
  | _, .error fault => (.error fault, cache)
  | .ok fetcher, .ok comparator =>
    match comparator with
    | .regex pattern =>
      let (slot, cache) := cache.get pattern
      match slot.regex with
      | some _ => (.ok (.leaf fetcher comparator), cache)
      | none => (.error (.invalid (.badPattern pattern)), cache)
    | _ => (.ok (.leaf fetcher comparator), cache)

mutual

/-- Compiles a tree of comparisons. -/
def compileTree (custom : List CustomFetcher) :
    ExprConfig → RegexCache → Except RouteError Condition × RegexCache
  | ⟨source, key, operator, value, all, any⟩, cache =>
    match all, any with
    | [], [] => compileLeaf custom ⟨source, key, operator, value, [], []⟩ cache
    | [], any =>
      let (children, cache) := compileTrees custom any cache
      (children.map .any, cache)
    | all, _ =>
      let (children, cache) := compileTrees custom all cache
      (children.map .all, cache)

/-- Compiles trees, up to the first fault. -/
def compileTrees (custom : List CustomFetcher) :
    List ExprConfig → RegexCache → Except RouteError (List Condition) × RegexCache
  | [], cache => (.ok [], cache)
  | e :: es, cache =>
    match compileTree custom e cache with
    | (.error fault, cache) => (.error fault, cache)
    | (.ok c, cache) =>
      let (cs, cache) := compileTrees custom es cache
      (cs.map (c :: ·), cache)

end

/-- The condition of an expression, whose shape is checked first. -/
def compile (m : Matchers) (e : ExprConfig) : Except RouteError Condition × Matchers :=
  match e.validate with
  | .error fault => (.error fault, m)
  | .ok _ =>
    let (condition, cache) := compileTree m.custom e m.cache
    (condition, { m with cache })

end Matchers

end TrafficGateway
