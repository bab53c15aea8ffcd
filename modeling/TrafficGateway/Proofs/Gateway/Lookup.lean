import Mathlib.Data.List.Pairwise
import TrafficGateway.Proofs.Gateway.Registration
import TrafficGateway.Proofs.Route.Table

/-!
# Which route claims a request

A gateway finds routes through a dictionary of whole paths, a trie of prefixes and a sorted list of
conditions, all of them filled by one registration after the other. Read off the list of accepted
routes alone, the answer is: the route with exactly the path of the request; else the one whose path
is the prefix that the policy prefers; else, among the expressions that are true of the request, one
of the highest priority and the earliest of these.

The two agree after any registrations, accepted and refused in any order (`find_iff_claimed`). The
invariant `Reflects` ties each of the three structures to the accepted routes; a registration that is
accepted extends the list of routes at its end, and one that is refused leaves the table alone.

## Main definitions

* `AcceptedRoute`, `Gateway.accepted`: the routes that were accepted, in order.
* `Claimed`: which of them claims a request.
* `Reflects`: the table holds exactly the accepted routes.
-/

namespace TrafficGateway

/-- A route that a gateway has accepted, and the transport that it got. -/
structure AcceptedRoute where
  config : RouteConfig
  transport : Transport

namespace AcceptedRoute

/-- Is the route one for exactly this path? -/
def IsFull (path : String) (a : AcceptedRoute) : Prop :=
  a.config.matchType = "fullMatch" ∧ a.config.path = path

/-- Is the route one for all paths that begin with this one? -/
def IsLeading (path : String) (a : AcceptedRoute) : Prop :=
  a.config.matchType = "prefixMatch" ∧ a.config.path = path

/-- Is the route one for the paths that begin with a prefix of this one? -/
def LeadsTo (path : String) (a : AcceptedRoute) : Prop :=
  a.config.matchType = "prefixMatch" ∧ a.config.path.toList <+: path.toList

/-- Is the route one with an expression that is true of the request? -/
def IsTrue (custom : List CustomFetcher) (v : RequestView) (a : AcceptedRoute) : Prop :=
  a.config.matchType = "exprMatch" ∧ ∃ e, a.config.expr = some e ∧ e.holds custom v = true

/-- Are the routes of the same kind, and for the same path? -/
def SharesPath (a b : AcceptedRoute) : Prop :=
  a.config.matchType = b.config.matchType ∧
    (a.config.matchType = "fullMatch" ∨ a.config.matchType = "prefixMatch") ∧
    a.config.path = b.config.path

/-- Among the routes with a property the route has the highest priority, and those before it have a
lower one. -/
def IsStrongest (p : AcceptedRoute → Prop) (routes : List AcceptedRoute) (a : AcceptedRoute) :
    Prop :=
  ∃ before after, routes = before ++ a :: after ∧ p a ∧
    (∀ b ∈ before, p b → b.config.priority < a.config.priority) ∧
    ∀ b ∈ after, p b → b.config.priority ≤ a.config.priority

end AcceptedRoute

open AcceptedRoute

/-- The transport of the route, out of some accepted ones, that claims a request. -/
inductive Claimed (policy : MatchPolicy) (custom : List CustomFetcher)
    (routes : List AcceptedRoute) (v : RequestView) : Option Transport → Prop where
  /-- A route for exactly the path goes first. -/
  | full {a : AcceptedRoute} (mem : a ∈ routes) (isFull : a.IsFull v.path) :
      Claimed policy custom routes v (some a.transport)
  /-- Then the longest or the shortest prefix of the path. -/
  | leading {a : AcceptedRoute} (noFull : ∀ b ∈ routes, ¬b.IsFull v.path) (mem : a ∈ routes)
      (leads : a.LeadsTo v.path)
      (best : ∀ b ∈ routes, b.LeadsTo v.path →
        policy.Prefers a.config.path.length b.config.path.length) :
      Claimed policy custom routes v (some a.transport)
  /-- Then the earliest of the true expressions with the highest priority. -/
  | expression {a : AcceptedRoute} (noFull : ∀ b ∈ routes, ¬b.IsFull v.path)
      (noLeading : ∀ b ∈ routes, ¬b.LeadsTo v.path)
      (strongest : IsStrongest (IsTrue custom v) routes a) :
      Claimed policy custom routes v (some a.transport)
  /-- Otherwise no route does. -/
  | unclaimed (noFull : ∀ b ∈ routes, ¬b.IsFull v.path)
      (noLeading : ∀ b ∈ routes, ¬b.LeadsTo v.path)
      (noTrue : ∀ b ∈ routes, ¬b.IsTrue custom v) :
      Claimed policy custom routes v none

namespace Gateway

/-- The gateway as it is before any route is registered, whatever else it knows. -/
def withoutRoutes (g : Gateway) (policy : MatchPolicy) : Gateway :=
  { g with table := { policy }, registered := 0 }

/-- The route as the gateway accepts it, unless it refuses it. -/
def accept? (g : Gateway) (r : RouteConfig) : Option AcceptedRoute :=
  match (g.register r).1, g.transportFor r with
  | .ok _, .ok transport => some ⟨r, transport⟩
  | _, _ => none

/-- The routes of a list that the gateway accepts, in order. -/
def accepted : List RouteConfig → Gateway → List AcceptedRoute
  | [], _ => []
  | r :: rs, g => (g.accept? r).toList ++ accepted rs (g.register r).2

/-- The gateway after it was asked for the routes of some requests. -/
def afterFinds (g : Gateway) (views : List RequestView) : Gateway :=
  views.foldl (fun g v => (g.find v).2) g

end Gateway

/-! ## The strongest route of a list that grows -/

namespace AcceptedRoute

variable {p : AcceptedRoute → Prop} {routes : List AcceptedRoute} {a b : AcceptedRoute}

theorem IsStrongest.le (h : IsStrongest p routes a) (hb : b ∈ routes) (hp : p b) :
    b.config.priority ≤ a.config.priority := by
  obtain ⟨before, after, rfl, -, hbefore, hafter⟩ := h
  rcases List.mem_append.1 hb with hb | hb
  · exact Int32.le_of_lt (hbefore b hb hp)
  · rcases List.mem_cons.1 hb with rfl | hb
    · exact Int32.le_rfl
    · exact hafter b hb hp

/-- A route that is not stronger changes nothing when it comes last. -/
theorem IsStrongest.snoc (h : IsStrongest p routes a)
    (hb : p b → b.config.priority ≤ a.config.priority) : IsStrongest p (routes ++ [b]) a := by
  obtain ⟨before, after, rfl, hp, hbefore, hafter⟩ := h
  refine ⟨before, after ++ [b], by simp, hp, hbefore, fun c hc hpc => ?_⟩
  rcases List.mem_append.1 hc with hc | hc
  · exact hafter c hc hpc
  · rw [List.mem_singleton.1 hc] at hpc ⊢
    exact hb hpc

theorem isStrongest_last (hp : p a)
    (h : ∀ b ∈ routes, p b → b.config.priority < a.config.priority) :
    IsStrongest p (routes ++ [a]) a :=
  ⟨routes, [], rfl, hp, h, by simp⟩

/-- There is at most one strongest route. -/
theorem IsStrongest.unique (ha : IsStrongest p routes a) (hb : IsStrongest p routes b) : a = b := by
  obtain ⟨before, after, rfl, hpa, hbefore, hafter⟩ := ha
  obtain ⟨before', after', heq, hpb, hbefore', hafter'⟩ := hb
  rcases List.append_eq_append_iff.1 heq with ⟨l, rfl, hl⟩ | ⟨l, rfl, hl⟩
  · cases l with
    | nil => exact (List.cons.inj hl).1
    | cons c l =>
      -- `a` comes before `b` and is as strong, so `b` is not the earliest
      obtain ⟨rfl, rfl⟩ := List.cons.inj hl
      have hlt := hbefore' a (by simp) hpa
      have hle := hafter b (by simp) hpb
      exact absurd (Int32.lt_of_lt_of_le hlt hle) Int32.lt_irrefl
  · cases l with
    | nil => exact (List.cons.inj hl).1.symm
    | cons c l =>
      obtain ⟨rfl, rfl⟩ := List.cons.inj hl
      have hlt := hbefore b (by simp) hpb
      have hle := hafter' a (by simp) hpa
      exact absurd (Int32.lt_of_lt_of_le hlt hle) Int32.lt_irrefl

end AcceptedRoute

/-! ## The invariant of registrations -/

/-- The table holds exactly the accepted routes: each structure those of its kind, with their
transports and, for expressions, with their meaning. -/
structure Reflects (policy : MatchPolicy) (custom : List CustomFetcher)
    (t : RouteTable Transport) (routes : List AcceptedRoute) : Prop where
  policy : t.policy = policy
  full : ∀ path x, t.exact.get? path = some x ↔ ∃ a ∈ routes, a.IsFull path ∧ a.transport = x
  leading : ∀ path x, t.leading.get? path = some x ↔
    ∃ a ∈ routes, a.IsLeading path ∧ a.transport = x
  descending : RouteTable.Descending t.conditions
  expression : ∀ v, match t.conditions.find? fun e => e.condition.holds v with
    | some e => ∃ a, IsStrongest (IsTrue custom v) routes a ∧ a.transport = e.payload ∧
        a.config.priority = e.priority
    | none => ∀ a ∈ routes, ¬a.IsTrue custom v
  distinct : routes.Pairwise fun a b => ¬a.SharesPath b
  size : t.size = routes.length

namespace Reflects

variable {policy : MatchPolicy} {custom : List CustomFetcher} {t u : RouteTable Transport}
  {routes : List AcceptedRoute} {a : AcceptedRoute}

theorem initial (policy : MatchPolicy) (custom : List CustomFetcher) :
    Reflects policy custom { policy } [] where
  policy := rfl
  full path x := by simp [Dict.empty, Dict.get?]
  leading path x := by simp
  descending := List.Pairwise.nil
  expression v := by simp
  distinct := List.Pairwise.nil
  size := rfl

/-- A new route at the end adds its own payload to those of its kind. -/
theorem exists_snoc_iff {p : AcceptedRoute → Prop} :
    (∃ b ∈ routes ++ [a], p b) ↔ (∃ b ∈ routes, p b) ∨ p a := by
  simp [or_and_right, exists_or]

/-- A route that is no true expression leaves the expressions as they are. -/
theorem expression_snoc (h : Reflects policy custom t routes) (ha : a.config.matchType ≠ "exprMatch")
    (v : RequestView) :
    match t.conditions.find? fun e => e.condition.holds v with
    | some e => ∃ b, IsStrongest (IsTrue custom v) (routes ++ [a]) b ∧ b.transport = e.payload ∧
        b.config.priority = e.priority
    | none => ∀ b ∈ routes ++ [a], ¬b.IsTrue custom v := by
  have hold := h.expression v
  have hfalse : ¬a.IsTrue custom v := fun htrue => ha htrue.1
  cases hfind : t.conditions.find? fun e => e.condition.holds v with
  | some e =>
    rw [hfind] at hold
    obtain ⟨b, hb, hpayload, hpriority⟩ := hold
    exact ⟨b, hb.snoc fun htrue => absurd htrue hfalse, hpayload, hpriority⟩
  | none =>
    rw [hfind] at hold
    intro b hb
    rcases List.mem_append.1 hb with hb | hb
    · exact hold b hb
    · rw [List.mem_singleton.1 hb]
      exact hfalse

/-- A route that shares its path with no earlier one keeps the paths distinct. -/
theorem distinct_snoc (h : Reflects policy custom t routes) (ha : ∀ b ∈ routes, ¬b.SharesPath a) :
    (routes ++ [a]).Pairwise fun a b => ¬a.SharesPath b := by
  refine List.pairwise_append.2 ⟨h.distinct, List.pairwise_singleton _ _, fun b hb c hc => ?_⟩
  rw [List.mem_singleton.1 hc]
  exact ha b hb

/-- A route for a whole path was accepted. -/
theorem snoc_full (h : Reflects policy custom t routes) (ha : a.config.matchType = "fullMatch")
    (hu : t.insertExact a.config.path a.transport = .ok u) :
    Reflects policy custom u (routes ++ [a]) := by
  obtain ⟨hfree, rfl⟩ := RouteTable.insertExact_ok_iff.1 hu
  refine { policy := h.policy, full := fun path x => ?_, leading := fun path x => ?_,
           descending := h.descending, expression := h.expression_snoc (by rw [ha]; decide),
           distinct := h.distinct_snoc ?_, size := ?_ }
  · rw [exists_snoc_iff, ← h.full, Dict.get?_insert]
    by_cases hpath : a.config.path = path
    · subst hpath
      simp [hfree, IsFull, ha]
    · simp [hpath, IsFull]
  · rw [exists_snoc_iff, ← h.leading]
    simp [IsLeading, ha]
  · rintro b hb ⟨hkind, -, hpath⟩
    have hsome := (h.full a.config.path b.transport).2 ⟨b, hb, ⟨hkind.trans ha, hpath⟩, rfl⟩
    exact absurd hsome (by simp [hfree])
  · have hsize := h.size
    simp only [RouteTable.size, Dict.size_insert, Dict.contains_eq_isSome, hfree,
      List.length_append, List.length_singleton] at hsize ⊢
    simp only [Option.isSome_none, Bool.false_eq_true, if_false]
    omega

/-- A route for a prefix was accepted. -/
theorem snoc_leading (h : Reflects policy custom t routes) (ha : a.config.matchType = "prefixMatch")
    (hu : t.insertLeading a.config.path a.transport = .ok u) :
    Reflects policy custom u (routes ++ [a]) := by
  obtain ⟨hfree, rfl⟩ := RouteTable.insertLeading_ok_iff.1 hu
  refine { policy := h.policy, full := fun path x => ?_, leading := fun path x => ?_,
           descending := h.descending, expression := h.expression_snoc (by rw [ha]; decide),
           distinct := h.distinct_snoc ?_, size := ?_ }
  · rw [exists_snoc_iff, ← h.full]
    simp [IsFull, ha]
  · rw [exists_snoc_iff, ← h.leading, PrefixTrie.get?_insert]
    by_cases hpath : a.config.path = path
    · subst hpath
      simp [hfree, IsLeading, ha]
    · simp [hpath, IsLeading]
  · rintro b hb ⟨hkind, -, hpath⟩
    have hsome := (h.leading a.config.path b.transport).2 ⟨b, hb, ⟨hkind.trans ha, hpath⟩, rfl⟩
    exact absurd hsome (by simp [hfree])
  · have hsize := h.size
    simp only [RouteTable.size, PrefixTrie.size_insert, PrefixTrie.contains, hfree,
      List.length_append, List.length_singleton] at hsize ⊢
    simp only [Option.isSome_none, Bool.false_eq_true, if_false]
    omega

/-- A route with an expression was accepted. -/
theorem snoc_expression (h : Reflects policy custom t routes) (ha : a.config.matchType = "exprMatch")
    {e : ExprConfig} (he : a.config.expr = some e) {c : Condition}
    (hc : ∀ v, c.holds v = e.holds custom v) :
    Reflects policy custom (t.insertCondition c a.config.priority a.transport) (routes ++ [a]) := by
  have htrue : ∀ v, a.IsTrue custom v ↔ c.holds v = true := by
    intro v
    rw [hc v]
    refine ⟨?_, fun h => ⟨ha, e, he, h⟩⟩
    rintro ⟨-, e', he', h⟩
    rw [Option.some.inj (he.symm.trans he')]
    exact h
  refine { policy := h.policy, full := fun path x => ?_, leading := fun path x => ?_,
           descending := RouteTable.insertByPriority_descending _ h.descending,
           expression := fun v => ?_, distinct := h.distinct_snoc ?_, size := ?_ }
  · rw [exists_snoc_iff, RouteTable.insertCondition, ← h.full]
    simp [IsFull, ha]
  · rw [exists_snoc_iff, RouteTable.insertCondition, ← h.leading]
    simp [IsLeading, ha]
  · have hold := h.expression v
    rw [RouteTable.insertCondition, RouteTable.find?_insertByPriority _ _ h.descending]
    cases hfind : t.conditions.find? fun e => e.condition.holds v with
    | none =>
      rw [hfind] at hold
      cases hcv : c.holds v with
      | true =>
        exact ⟨a, isStrongest_last ((htrue v).2 hcv) fun b hb hbtrue => absurd hbtrue (hold b hb),
          rfl, rfl⟩
      | false =>
        intro b hb
        rcases List.mem_append.1 hb with hb | hb
        · exact hold b hb
        · rw [List.mem_singleton.1 hb, htrue, hcv]
          exact Bool.false_ne_true
    | some f =>
      rw [hfind] at hold
      obtain ⟨b, hb, hpayload, hpriority⟩ := hold
      by_cases hnew : c.holds v = true ∧ f.priority < a.config.priority
      · -- the new expression is true and stronger than all true ones before it
        simp only [Option.all_some, hnew.1, hnew.2, decide_true, Bool.and_self, if_true]
        refine ⟨a, isStrongest_last ((htrue v).2 hnew.1) fun b' hb' hb'true => ?_, rfl, rfl⟩
        exact Int32.lt_of_le_of_lt (hb.le hb' hb'true) (hpriority ▸ hnew.2)
      · -- the old answer stands, and the new route is not stronger where it is true
        have hcond : (c.holds v && (some f).all fun g => g.priority < a.config.priority) = false := by
          simpa using hnew
        rw [hcond]
        refine ⟨b, hb.snoc fun hatrue => ?_, hpayload, hpriority⟩
        rw [hpriority]
        exact Int32.not_lt.1 fun hlt => hnew ⟨(htrue v).1 hatrue, hlt⟩
  · rintro b hb ⟨hkind, hpathKind, -⟩
    rw [hkind, ha] at hpathKind
    exact absurd hpathKind (by decide)
  · have hsize := h.size
    simp only [RouteTable.size, RouteTable.insertCondition, RouteTable.length_insertByPriority,
      List.length_append, List.length_singleton] at hsize ⊢
    omega

/-- What a lookup finds in the table claims the request. -/
theorem claimed (h : Reflects policy custom t routes) (v : RequestView) (cache : RegexCache) :
    Claimed policy custom routes v (t.find v cache).payload := by
  rw [RouteTable.find_payload, h.policy]
  cases hfull : t.exact.get? v.path with
  | some x =>
    obtain ⟨a, ha, hisFull, rfl⟩ := (h.full v.path x).1 hfull
    exact .full ha hisFull
  | none =>
    have noFull : ∀ b ∈ routes, ¬b.IsFull v.path := by
      intro b hb hisFull
      have hsome := (h.full v.path b.transport).2 ⟨b, hb, hisFull, rfl⟩
      exact absurd hsome (by simp [hfull])
    -- the search of the trie speaks of stored paths, the claim of routes
    have hstored : ∀ b ∈ routes, b.LeadsTo v.path →
        t.leading.get? b.config.path = some b.transport := fun b hb hleads =>
      (h.leading _ _).2 ⟨b, hb, ⟨hleads.1, rfl⟩, rfl⟩
    have hsearch := t.leading.search_spec policy v.path
    cases hleading : t.leading.search policy v.path with
    | some x =>
      rw [hleading] at hsearch
      obtain ⟨p, hp, hget, hbest⟩ := hsearch
      obtain ⟨a, ha, ⟨hkind, rfl⟩, rfl⟩ := (h.leading p x).1 hget
      exact .leading noFull ha ⟨hkind, hp⟩ fun b hb hleads =>
        hbest b.config.path b.transport hleads.2 (hstored b hb hleads)
    | none =>
      rw [hleading] at hsearch
      have noLeading : ∀ b ∈ routes, ¬b.LeadsTo v.path := by
        intro b hb hleads
        have hnone := hsearch b.config.path hleads.2
        exact absurd (hstored b hb hleads) (by simp [hnone])
      have hexpression := h.expression v
      cases hfind : t.conditions.find? fun e => e.condition.holds v with
      | some e =>
        rw [hfind] at hexpression
        obtain ⟨a, ha, hpayload, -⟩ := hexpression
        simp only [Option.or_none, Option.none_or, Option.map_some, ← hpayload]
        exact .expression noFull noLeading ha
      | none =>
        rw [hfind] at hexpression
        exact .unclaimed noFull noLeading hexpression

end Reflects

/-! ## At most one route claims a request -/

theorem eq_of_sharesPath {routes : List AcceptedRoute} {a b : AcceptedRoute}
    (h : routes.Pairwise fun a b => ¬a.SharesPath b) (ha : a ∈ routes) (hb : b ∈ routes)
    (hshares : a.SharesPath b) : a = b := by
  by_contra hne
  have hsymm : Std.Symm fun a b : AcceptedRoute => ¬a.SharesPath b :=
    ⟨fun a b hab hba => hab ⟨hba.1.symm, hba.1 ▸ hba.2.1, hba.2.2.symm⟩⟩
  exact h.forall ha hb hne hshares

theorem Claimed.unique {policy : MatchPolicy} {custom : List CustomFetcher}
    {routes : List AcceptedRoute} {v : RequestView} {x y : Option Transport}
    (h : routes.Pairwise fun a b => ¬a.SharesPath b) (hx : Claimed policy custom routes v x)
    (hy : Claimed policy custom routes v y) : x = y := by
  cases hx with
  | @full a ha hisFull =>
    cases hy with
    | @full b hb hisFull' =>
      have hshares : a.SharesPath b :=
        ⟨hisFull.1.trans hisFull'.1.symm, .inl hisFull.1, hisFull.2.trans hisFull'.2.symm⟩
      rw [eq_of_sharesPath h ha hb hshares]
    | leading noFull => exact absurd hisFull (noFull a ha)
    | expression noFull => exact absurd hisFull (noFull a ha)
    | unclaimed noFull => exact absurd hisFull (noFull a ha)
  | @leading a noFull ha hleads hbest =>
    cases hy with
    | full hb hisFull => exact absurd hisFull (noFull _ hb)
    | @leading b _ hb hleads' hbest' =>
      -- both are prefixes of one path and each is preferred to the other
      have hlength : a.config.path.toList.length = b.config.path.toList.length := by
        rw [String.length_toList, String.length_toList]
        exact (hbest b hb hleads').antisymm (hbest' a ha hleads)
      have hprefix : a.config.path.toList <+: b.config.path.toList :=
        List.prefix_of_prefix_length_le hleads.2 hleads'.2 (Nat.le_of_eq hlength)
      have hpath := hprefix.eq_of_length hlength
      have hshares : a.SharesPath b :=
        ⟨hleads.1.trans hleads'.1.symm, .inr hleads.1, String.toList_inj.1 hpath⟩
      rw [eq_of_sharesPath h ha hb hshares]
    | expression _ noLeading => exact absurd hleads (noLeading a ha)
    | unclaimed _ noLeading => exact absurd hleads (noLeading a ha)
  | @expression a noFull noLeading ha =>
    cases hy with
    | full hb hisFull => exact absurd hisFull (noFull _ hb)
    | leading _ hb hleads => exact absurd hleads (noLeading _ hb)
    | expression _ _ hb => rw [ha.unique hb]
    | unclaimed _ _ noTrue =>
      obtain ⟨before, after, rfl, htrue, -⟩ := ha
      exact absurd htrue (noTrue a (by simp))
  | unclaimed noFull noLeading noTrue =>
    cases hy with
    | full hb hisFull => exact absurd hisFull (noFull _ hb)
    | leading _ hb hleads => exact absurd hleads (noLeading _ hb)
    | expression _ _ hb =>
      obtain ⟨before, after, rfl, htrue, -⟩ := hb
      exact absurd htrue (noTrue _ (by simp))
    | unclaimed => rfl

/-! ## Registrations, one by one and all -/

namespace Gateway

variable {policy : MatchPolicy} {routes : List AcceptedRoute}

/-- One registration: a route that is accepted comes last, a refused one leaves no trace here. -/
theorem reflects_register (g : Gateway) (r : RouteConfig)
    (h : Reflects policy g.matchers.custom g.table routes) :
    Reflects policy g.matchers.custom (g.register r).2.table (routes ++ (g.accept? r).toList) := by
  rcases g.register_cases r with
    ⟨spec, compiled, transport, hspec, hmeans, htransport, hplace, hok, -⟩ | ⟨⟨e, he⟩, htable, -⟩
  · obtain ⟨hmatch, -, -, hpath, hpriority⟩ := RouteConfig.validate_eq_ok_iff.1 hspec
    have haccept : (g.accept? r).toList = [⟨r, transport⟩] := by
      simp only [accept?, hok, htransport, Option.toList]
    have hdescribes := RouteConfig.validateMatch_ok hmatch
    rw [haccept]
    rw [hpath, hpriority] at hplace
    -- a route goes where its description says; the other pairs contradict `hmeans`
    cases hm : spec.matcher with
    | full =>
      rw [hm] at hmeans hdescribes
      cases compiled with
      | full => exact h.snoc_full hdescribes hplace
      | leading => exact hmeans.elim
      | condition c => exact hmeans.elim
    | leading =>
      rw [hm] at hmeans hdescribes
      cases compiled with
      | full => exact hmeans.elim
      | leading => exact h.snoc_leading hdescribes hplace
      | condition c => exact hmeans.elim
    | expression e =>
      rw [hm] at hmeans hdescribes
      cases compiled with
      | full => exact hmeans.elim
      | leading => exact hmeans.elim
      | condition c =>
        rw [← Except.ok.inj hplace]
        exact h.snoc_expression (a := ⟨r, transport⟩) hdescribes.1 hdescribes.2 hmeans
  · -- a refused route may have filled the cache of patterns, which the table does not show
    have haccept : g.accept? r = none := by simp only [accept?, he]
    rw [haccept, htable]
    simpa using h

theorem registered_register (g : Gateway) (r : RouteConfig) :
    (g.register r).2.registered = g.registered + (g.accept? r).toList.length ∧
      (g.accept? r).toList.map (·.config) = if (g.register r).1.isOk then [r] else [] := by
  rcases g.register_cases r with
    ⟨spec, compiled, transport, -, -, htransport, -, hok, hcount⟩ | ⟨⟨e, he⟩, -, hcount⟩
  · simp only [accept?, hok, htransport, hcount]
    exact ⟨rfl, rfl⟩
  · simp only [accept?, he, hcount]
    exact ⟨rfl, rfl⟩

theorem reflects_registerAll (rs : List RouteConfig) (g : Gateway)
    (h : Reflects policy g.matchers.custom g.table routes) :
    Reflects policy g.matchers.custom (registerAll rs g).2.table (routes ++ g.accepted rs) := by
  induction rs generalizing g routes with
  | nil => simpa [registerAll, accepted] using h
  | cons r rs ih =>
    have hstep := g.reflects_register r h
    rw [← g.register_custom r] at hstep ⊢
    rw [registerAll, accepted, ← List.append_assoc]
    exact ih (g.register r).2 hstep

theorem registered_registerAll (rs : List RouteConfig) (g : Gateway) :
    (registerAll rs g).2.registered = g.registered + (g.accepted rs).length := by
  induction rs generalizing g with
  | nil => rfl
  | cons r rs ih =>
    rw [registerAll, accepted, List.length_append, ← Nat.add_assoc, ← (g.registered_register r).1]
    exact ih (g.register r).2

/-- The accepted routes are those whose registrations succeeded, in order. -/
theorem accepted_map_config (rs : List RouteConfig) (g : Gateway) :
    (g.accepted rs).map (·.config) =
      ((rs.zip (registerAll rs g).1).filter fun p => p.2.isOk).map (·.1) := by
  induction rs generalizing g with
  | nil => rfl
  | cons r rs ih =>
    rw [accepted, List.map_append, (g.registered_register r).2, ih, registerAll]
    simp only [List.zip_cons_cons, List.filter_cons]
    split <;> rfl

/-- A route is accepted as it is, with the transport that the gateway has for it. -/
theorem accept?_eq_some {g : Gateway} {r : RouteConfig} {a : AcceptedRoute}
    (h : g.accept? r = some a) : a.config = r ∧ g.transportFor r = .ok a.transport := by
  rw [accept?] at h
  split at h
  · next htransport =>
    obtain rfl := Option.some.inj h
    exact ⟨rfl, htransport⟩
  · cases h

/-- An accepted route was accepted by the gateway of one moment, and after that the rest of the routes was
registered. What every registration keeps held at that moment too. -/
theorem exists_before_of_mem_accepted {P : Gateway → Prop} {g : Gateway} {rs : List RouteConfig}
    {a : AcceptedRoute} (hkeeps : ∀ g r, P g → P (g.register r).2) (hg : P g)
    (h : a ∈ g.accepted rs) :
    ∃ (before : Gateway) (rest : List RouteConfig), P before ∧ before.accept? a.config = some a ∧
      (registerAll rs g).2 = (registerAll rest (before.register a.config).2).2 := by
  induction rs generalizing g with
  | nil => exact absurd h List.not_mem_nil
  | cons r rs ih =>
    rw [accepted, List.mem_append, Option.mem_toList] at h
    obtain h | h := h
    · have hconfig := (accept?_eq_some h).1
      subst hconfig
      exact ⟨g, rs, hg, h, rfl⟩
    · exact ih (hkeeps g r hg) h

@[simp] theorem afterFinds_table (g : Gateway) (views : List RequestView) :
    (g.afterFinds views).table = g.table := by
  induction views generalizing g with
  | nil => rfl
  | cons v views ih => exact ih (g.find v).2

/-- **Lookups refine their declarative meaning**: after any registrations and any earlier lookups, a
gateway finds the transport of the route that claims the request, as said of the accepted routes
alone. No two of these share a path and a kind that goes by paths, and all of them are counted. -/
theorem find_iff_claimed (g : Gateway) (policy : MatchPolicy) (rs : List RouteConfig) :
    let start := g.withoutRoutes policy
    let built := (registerAll rs start).2
    let routes := start.accepted rs
    (∀ earlier v found, ((built.afterFinds earlier).find v).1 = found ↔
        Claimed policy g.matchers.custom routes v found) ∧
      routes.map (·.config) =
        ((rs.zip (registerAll rs start).1).filter fun p => p.2.isOk).map (·.1) ∧
      routes.Pairwise (fun a b => ¬a.SharesPath b) ∧
      built.registered = routes.length ∧ built.table.size = routes.length := by
  intro start built routes
  have hinitial : Reflects policy start.matchers.custom start.table [] := .initial policy _
  have h : Reflects policy g.matchers.custom built.table routes :=
    reflects_registerAll rs start hinitial
  refine ⟨fun earlier v found => ?_, accepted_map_config rs start, h.distinct, ?_, h.size⟩
  · have hclaimed : Claimed policy g.matchers.custom routes v
        ((built.afterFinds earlier).find v).1 := by
      rw [find, afterFinds_table]
      exact h.claimed v _
    exact ⟨fun heq => heq ▸ hclaimed, fun hfound => hclaimed.unique h.distinct hfound⟩
  · rw [registered_registerAll rs start]
    exact Nat.zero_add _

end Gateway

end TrafficGateway
