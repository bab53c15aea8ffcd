import TrafficGateway.Gateway.Registration
import TrafficGateway.Proofs.Outcome
import TrafficGateway.Proofs.Route.Expression

/-!
# What a registration does

A registration goes through the check of the description, the compilation of its expression, the
connection of its target and the placement in the table, and can be refused at each of these. The one
statement that later proofs use, `Gateway.register_cases`, says what holds when all four succeed and
what is left alone when one does not.

## Main statements

* `RouteConfig.validate_eq_ok_iff`, `RouteConfig.validateMatch_ok`: what a checked description says.
* `Gateway.transportFor`: the transport of a route.
* `Gateway.register_cases`: a registration succeeded, or the table is as it was.
-/

namespace TrafficGateway

/-! ## Checked descriptions -/

namespace RouteConfig

theorem validate_eq_ok_iff {r : RouteConfig} {spec : RouteSpec} :
    r.validate = .ok spec ↔
      r.validateMatch = .ok spec.matcher ∧ r.validateTarget = .ok spec.target ∧
        r.validatePathRule spec.matcher = .ok spec.pathRule ∧ spec.path = r.path ∧
        spec.priority = r.priority := by
  unfold validate
  simp only [bind_eq_ok_iff]
  constructor
  · rintro ⟨matcher, hmatch, target, htarget, pathRule, hrule, h⟩
    obtain rfl := Except.ok.inj h
    exact ⟨hmatch, htarget, hrule, rfl, rfl⟩
  · rintro ⟨hmatch, htarget, hrule, hpath, hpriority⟩
    refine ⟨_, hmatch, _, htarget, _, hrule, ?_⟩
    rw [← hpath, ← hpriority]
    rfl

/-- What a description says whose match was checked: the kind is named, and an expression is there if
the kind wants one. -/
def Describes (r : RouteConfig) : RouteMatcher → Prop
  | .full => r.matchType = "fullMatch"
  | .leading => r.matchType = "prefixMatch"
  | .expression e => r.matchType = "exprMatch" ∧ r.expr = some e

theorem matchType_of_ofName {name : String} {m : MatchType} (h : MatchType.ofName name = .ok m) :
    name = match m with
      | .full => "fullMatch"
      | .leading => "prefixMatch"
      | .expression => "exprMatch" := by
  unfold MatchType.ofName at h
  split at h
  · obtain rfl := Except.ok.inj h
    rfl
  · obtain rfl := Except.ok.inj h
    rfl
  · obtain rfl := Except.ok.inj h
    rfl
  · cases h

theorem validateMatch_ok {r : RouteConfig} {m : RouteMatcher} (h : r.validateMatch = .ok m) :
    r.Describes m := by
  unfold validateMatch at h
  obtain ⟨kind, hkind, h⟩ := bind_eq_ok_iff.1 h
  have hname := matchType_of_ofName hkind
  cases kind with
  | full =>
    simp only at h
    split at h
    · cases h
    · obtain rfl := Except.ok.inj h
      exact hname
    · cases h
  | leading =>
    simp only at h
    split at h
    · cases h
    · obtain rfl := Except.ok.inj h
      exact hname
    · cases h
  | expression =>
    simp only at h
    split at h
    · cases h
    · next expr hexpr =>
      obtain ⟨_, -, h⟩ := bind_eq_ok_iff.1 h
      obtain rfl := Except.ok.inj h
      exact ⟨hname, hexpr⟩

end RouteConfig

/-- The compiled form of a match: of the same kind, and with the same meaning if it is an
expression. -/
def CompiledMatch.Means (custom : List CustomFetcher) : RouteMatcher → CompiledMatch → Prop
  | .full, .full => True
  | .leading, .leading => True
  | .expression e, .condition c => ∀ v, c.holds v = e.holds custom v
  | _, _ => False

namespace Gateway

/-! ## Parts of a registration -/

/-- Compiling a match makes no source known and forgets none. -/
theorem compileMatch_custom (m : Matchers) (matcher : RouteMatcher) :
    (compileMatch m matcher).2.custom = m.custom := by
  cases matcher with
  | expression e => exact Matchers.compile_custom m e
  | _ => rfl

theorem compileMatch_means {m : Matchers} {matcher : RouteMatcher} {compiled : CompiledMatch}
    (h : (compileMatch m matcher).1 = .ok compiled) :
    CompiledMatch.Means m.custom matcher compiled := by
  cases matcher with
  | full =>
    obtain rfl := Except.ok.inj h
    trivial
  | leading =>
    obtain rfl := Except.ok.inj h
    trivial
  | expression e =>
    obtain ⟨c, hc, rfl⟩ := map_eq_ok_iff.1 h
    intro v
    rw [← Matchers.evaluate_compile hc v .empty, Condition.evaluate_holds]

/-- Connecting a target does not read the matchers. -/
theorem connect_withMatchers (g : Gateway) (m : Matchers) (target : RouteTarget) :
    { g with matchers := m }.connect target =
      (g.connect target).map fun made => (made.1, { made.2 with matchers := m }) := by
  cases target with
  | mock spec => rfl
  | discovery service policy hashHeader => rfl
  | domain targets policy hashHeader =>
    simp only [connect]
    cases nodesOfTargets targets with
    | error e => rfl
    | ok nodes =>
      simp only [ok_bind]
      cases g.factory.build (g.factory.kindFor policy) nodes <;> rfl

/-- The nodes of fixed addresses have their names and weights. -/
theorem nodesOfTargets_ok {targets : List TargetConfig} {nodes : List (Node Endpoint)}
    (h : nodesOfTargets targets = .ok nodes) :
    nodes.map (fun n => (n.id, n.weight)) = targets.map fun t => (t.target, t.weight.toNat) := by
  induction targets generalizing nodes with
  | nil =>
    obtain rfl := Except.ok.inj h
    rfl
  | cons t ts ih =>
    obtain ⟨endpoint, -, h⟩ := bind_eq_ok_iff.1 h
    obtain ⟨rest, hrest, h⟩ := bind_eq_ok_iff.1 h
    obtain rfl := Except.ok.inj h
    rw [List.map_cons, List.map_cons, ih hrest]

/-- Fixed backends are connected by putting a selector over their nodes at the end of the list. -/
theorem connect_domain_ok {g : Gateway} {targets : List TargetConfig} {policy : BalancePolicy}
    {hashHeader : Option String} {made : TransportTarget × Gateway}
    (h : g.connect (.domain targets policy hashHeader) = .ok made) :
    ∃ nodes selector, nodesOfTargets targets = .ok nodes ∧
      g.factory.build (g.factory.kindFor policy) nodes = .ok selector ∧
      made = (.forward (.fixed g.selectors.length) hashHeader,
        { g with selectors := g.selectors ++ [selector] }) := by
  obtain ⟨nodes, hnodes, hmade⟩ := bind_eq_ok_iff.1 h
  cases hbuild : g.factory.build (g.factory.kindFor policy) nodes with
  | error e =>
    rw [hbuild] at hmade
    cases hmade
  | ok selector =>
    rw [hbuild] at hmade
    exact ⟨nodes, selector, hnodes, hbuild, (Except.ok.inj hmade).symm⟩

/-- The transport that the gateway would give to a route. -/
def transportFor (g : Gateway) (r : RouteConfig) : Except ForwardError Transport := do
  let spec ← r.validate.mapError .route
  let (target, _) ← g.connect spec.target
  return { name := r.name, pathRule := spec.pathRule, target }

/-! ## Whole registrations -/

/-- What became of a registration: the description passed the check, its match was compiled and its
transport was placed in the table, which is the one change of the table; or the route was refused, and
the table is as it was. -/
theorem register_cases (g : Gateway) (r : RouteConfig) :
    (∃ spec compiled transport, r.validate = .ok spec ∧
        CompiledMatch.Means g.matchers.custom spec.matcher compiled ∧
        g.transportFor r = .ok transport ∧
        place g.table spec.path spec.priority transport compiled = .ok (g.register r).2.table ∧
        (g.register r).1 = .ok () ∧ (g.register r).2.registered = g.registered + 1) ∨
      (∃ e, (g.register r).1 = .error e) ∧ (g.register r).2.table = g.table ∧
        (g.register r).2.registered = g.registered := by
  unfold register
  cases hspec : r.validate with
  | error e => exact .inr ⟨⟨_, rfl⟩, rfl, rfl⟩
  | ok spec =>
    rcases hcompiled : compileMatch g.matchers spec.matcher with ⟨e | compiled, matchers⟩
    · dsimp only
      rw [hcompiled]
      exact .inr ⟨⟨_, rfl⟩, rfl, rfl⟩
    · dsimp only
      rw [hcompiled]
      dsimp only
      rw [connect_withMatchers]
      cases hmade : g.connect spec.target with
      | error e => exact .inr ⟨⟨_, rfl⟩, rfl, rfl⟩
      | ok made =>
        dsimp only [Except.map]
        cases hplace : place g.table spec.path spec.priority
            ⟨r.name, spec.pathRule, made.1⟩ compiled with
        | error e => exact .inr ⟨⟨_, rfl⟩, rfl, rfl⟩
        | ok table =>
          refine .inl ⟨spec, compiled, ⟨r.name, spec.pathRule, made.1⟩, rfl,
            compileMatch_means (by rw [hcompiled]), ?_, hplace, rfl, rfl⟩
          simp only [transportFor, hspec, ok_mapError, ok_bind, hmade]
          rfl

/-- A registration makes no source known and forgets none. -/
theorem register_custom (g : Gateway) (r : RouteConfig) :
    (g.register r).2.matchers.custom = g.matchers.custom := by
  unfold register
  cases hspec : r.validate with
  | error e => rfl
  | ok spec =>
    have hcustom := compileMatch_custom g.matchers spec.matcher
    rcases hcompiled : compileMatch g.matchers spec.matcher with ⟨e | compiled, matchers⟩
    · dsimp only
      rw [hcompiled] at hcustom ⊢
      exact hcustom
    · dsimp only
      rw [hcompiled] at hcustom ⊢
      dsimp only
      rw [connect_withMatchers]
      cases g.connect spec.target with
      | error e => exact hcustom
      | ok made =>
        dsimp only [Except.map]
        cases place g.table spec.path spec.priority ⟨r.name, spec.pathRule, made.1⟩ compiled with
        | error e => exact hcustom
        | ok table => exact hcustom

theorem registerAll_custom (rs : List RouteConfig) (g : Gateway) :
    (registerAll rs g).2.matchers.custom = g.matchers.custom := by
  induction rs generalizing g with
  | nil => rfl
  | cons r rs ih => exact (ih (g.register r).2).trans (g.register_custom r)

end Gateway

end TrafficGateway
