import TrafficGateway.Proofs.Balance.Selector
import TrafficGateway.Proofs.Gateway.Refusal
import TrafficGateway.Proofs.Route.Acceptance

/-!
# Which routes are accepted

A route is accepted when its registration comes through all stages. Whether it does can be said of its
description and of the routes accepted before, without any of the stages: the match, the target, the
policy and the path rule are named and have what they need (`RouteConfig.IsServable`), and no accepted
route of the same kind has the path (`Gateway.register_ok_iff`).

## Main definitions

* `RouteConfig.HasMatch`, `HasTarget`, `HasPathRule`: what each choice needs.
* `RouteConfig.IsServable`: all that is asked of a description by itself.

## Main statements

* `Gateway.exists_prepare_iff`: a description is servable if it comes as far as the table.
* `Gateway.register_ok_iff`: a route is accepted after any registrations if it is servable and its path
  is not taken.
-/

namespace TrafficGateway

/-! ## Descriptions -/

namespace RouteConfig

/-- The route goes by a path, which is absolute, or by an expression, of which every node passes. -/
inductive HasMatch (custom : List CustomFetcher) (r : RouteConfig) : Prop
  | path (goes : r.GoesByPath) (absolute : r.path.toList.head? = some '/')
  | expression {e : ExprConfig} (kind : r.matchType = "exprMatch") (present : r.expr = some e)
      (passes : ∀ n ∈ e.nodes, n.Passes custom)

/-- The route sends its requests to a service with a name, to backends with weights and readable
addresses, or nowhere, with an answer that is what it claims to be. -/
inductive HasTarget (r : RouteConfig) : Prop
  | discovery (kind : r.targetType = "discovery") (named : r.serviceName ≠ "")
  | domain (kind : r.targetType = "domain") (nonempty : r.targets ≠ [])
      (weighted : ∀ t ∈ r.targets, t.target ≠ "" ∧ t.weight ≠ 0)
      (readable : ∀ t ∈ r.targets, ∃ endpoint, Endpoint.ofTarget t.target = .ok endpoint)
  | mock {m : MockContent} (kind : r.targetType = "mock") (present : r.mock = some m)
      (content : m.contentType = "string" ∨ m.contentType = "json" ∧ ∃ d, Json.read m.body = .ok d)
      (status : 100 ≤ m.statusCode.toNat ∧ m.statusCode.toNat ≤ 599)

/-- The route leaves paths alone, strips its own path, or replaces every path by one that it names. -/
inductive HasPathRule (r : RouteConfig) : Prop
  | copy (kind : r.pathRule = "" ∨ r.pathRule = "copyFullPath")
  | strip (kind : r.pathRule = "stripPrefix") (goes : r.GoesByPath)
  | replace (kind : r.pathRule = "replaceAny") (named : r.replacePath ≠ "")

/-- The names of the policies; round robin needs none. -/
def knownPolicies : List String :=
  ["", "round_robin", "weighted_round_robin", "hash_policy"]

/-- All that is asked of a description by itself. -/
structure IsServable (custom : List CustomFetcher) (r : RouteConfig) : Prop where
  hasMatch : r.HasMatch custom
  policy : r.policy ∈ knownPolicies
  hasTarget : r.HasTarget
  hasPathRule : r.HasPathRule

variable {r : RouteConfig} {matcher : RouteMatcher}

/-- The match of a description passes the check if its path is absolute or its expression is in shape. -/
theorem validateMatch_eq_ok_iff : r.validateMatch = .ok matcher ↔ r.Describes matcher ∧
    match matcher with
    | .expression e => e.validate = .ok ()
    | _ => r.path.toList.head? = some '/' := by
  constructor
  · intro h
    refine ⟨validateMatch_ok h, ?_⟩
    unfold validateMatch at h
    obtain ⟨kind, -, h⟩ := bind_eq_ok_iff.1 h
    cases kind with
    | full | leading =>
      simp only at h
      split at h
      · cases h
      · next hpath =>
        obtain rfl := Except.ok.inj h
        rw [hpath]
        rfl
      · cases h
    | expression =>
      simp only at h
      split at h
      · cases h
      · obtain ⟨_, hshape, h⟩ := bind_eq_ok_iff.1 h
        obtain rfl := Except.ok.inj h
        exact hshape
  · rintro ⟨hdescribes, hmore⟩
    unfold validateMatch
    cases matcher with
    | full | leading =>
      obtain ⟨rest, hpath⟩ := List.head?_eq_some_iff.1 hmore
      rw [show r.matchType = _ from hdescribes]
      simp only [MatchType.ofName, ok_bind, hpath]
    | expression e =>
      obtain ⟨hkind, hexpr⟩ := hdescribes
      have hshape : e.validate = .ok () := hmore
      rw [hkind]
      simp only [MatchType.ofName, ok_bind, hexpr, hshape]
      rfl

/-- The path rule of a description passes the check if it has what it needs. -/
theorem validatePathRule_ok_iff (hdescribes : r.Describes matcher) :
    (∃ rule, r.validatePathRule matcher = .ok rule) ↔ r.HasPathRule := by
  have hgoes : r.GoesByPath ↔ matcher.matchType ≠ .expression := by
    cases matcher with
    | full => exact iff_of_true (.inl hdescribes) nofun
    | leading => exact iff_of_true (.inr hdescribes) nofun
    | expression e =>
      refine iff_of_false ?_ fun h => h rfl
      rintro (h | h) <;> exact absurd (h.symm.trans hdescribes.1) (by decide)
  unfold validatePathRule
  constructor
  · rintro ⟨rule, h⟩
    obtain ⟨kind, hkind, h⟩ := bind_eq_ok_iff.1 h
    unfold PathRuleKind.ofName at hkind
    split at hkind <;> cases hkind
    · next hname => exact .copy (.inl hname)
    · next hname => exact .copy (.inr hname)
    · next hname =>
      refine .strip hname (hgoes.2 fun hexpr => ?_)
      simp [hexpr] at h
    · next hname =>
      refine .replace hname fun hempty => ?_
      simp [hempty] at h
  · intro h
    cases h with
    | copy kind =>
      obtain kind | kind := kind <;> rw [kind] <;> exact ⟨_, rfl⟩
    | strip kind goes =>
      rw [kind]
      simp only [PathRuleKind.ofName, ok_bind, hgoes.1 goes]
      exact ⟨_, rfl⟩
    | replace kind named =>
      rw [kind]
      simp only [PathRuleKind.ofName, ok_bind, String.isEmpty_iff, named]
      exact ⟨_, rfl⟩

/-- A kind of target has one name. -/
theorem targetType_ofName_eq_ok_iff {name : String} {kind : TargetType} :
    TargetType.ofName name = .ok kind ↔ name = kind.name := by
  constructor
  · intro h
    unfold TargetType.ofName at h
    split at h <;> cases h <;> rfl
  · rintro rfl
    cases kind <;> rfl

/-- A policy is known by its name. -/
theorem policy_ofName_ok_iff {name : String} :
    (∃ policy, BalancePolicy.ofName name = .ok policy) ↔ name ∈ knownPolicies := by
  unfold BalancePolicy.ofName
  split
  case h_5 hempty hround hweighted hhash =>
    refine iff_of_false nofun fun hknown => ?_
    simp only [knownPolicies, List.mem_cons, List.not_mem_nil, or_false] at hknown
    obtain h | h | h | h := hknown
    exacts [hempty h, hround h, hweighted h, hhash h]
  all_goals exact iff_of_true ⟨_, rfl⟩ (by decide)

/-- An answer passes the check if it is what it claims to be. -/
theorem mock_validate_ok_iff {m : MockContent} : (∃ spec, m.validate = .ok spec) ↔
    (m.contentType = "string" ∨ m.contentType = "json" ∧ ∃ d, Json.read m.body = .ok d) ∧
      100 ≤ m.statusCode.toNat ∧ m.statusCode.toNat ≤ 599 := by
  have hstatus {kind : ContentType} : (∃ spec, (if 100 ≤ m.statusCode.toNat ∧ m.statusCode.toNat ≤ 599 then
      (pure ⟨kind, m.statusCode, m.body⟩ : Except RouteError MockSpec)
      else .error (.invalid (.mockStatus m.statusCode.toNat))) = .ok spec) ↔
        100 ≤ m.statusCode.toNat ∧ m.statusCode.toNat ≤ 599 := by
    split
    · next h => exact iff_of_true ⟨_, rfl⟩ h
    · next h => exact iff_of_false nofun h
  unfold MockContent.validate ContentType.ofName
  split
  · next hjson =>
    rw [ok_bind, hjson]
    cases Json.read m.body with
    | error e => simp
    | ok d => simpa using hstatus
  · next htext =>
    rw [ok_bind, htext]
    simpa using hstatus
  · next hjson htext =>
    refine iff_of_false nofun ?_
    rintro ⟨h | ⟨h, -⟩, -⟩
    exacts [htext h, hjson h]

/-- Fixed addresses pass the check if each names an address and has weight. -/
theorem targets_validateAll_ok_iff {ts : List TargetConfig} :
    TargetConfig.validateAll ts = .ok () ↔ ∀ t ∈ ts, t.target ≠ "" ∧ t.weight ≠ 0 := by
  induction ts with
  | nil => simp [TargetConfig.validateAll]
  | cons t ts ih =>
    have hone : t.validate = .ok () ↔ t.target ≠ "" ∧ t.weight ≠ 0 := by
      unfold TargetConfig.validate
      by_cases hempty : t.target = "" <;> by_cases hweight : t.weight = 0 <;> simp [hempty, hweight]
    rw [TargetConfig.validateAll, bind_eq_ok_iff, List.forall_mem_cons, ← ih, ← hone]
    exact ⟨fun ⟨_, h⟩ => h, fun h => ⟨(), h⟩⟩

end RouteConfig

/-! ## Stages -/

namespace Gateway

variable {g : Gateway} {r : RouteConfig} {ts : List TargetConfig}

/-- There are nodes of fixed addresses if every address can be read. -/
theorem nodesOfTargets_ok_iff : (∃ nodes, nodesOfTargets ts = .ok nodes) ↔
    ∀ t ∈ ts, ∃ endpoint, Endpoint.ofTarget t.target = .ok endpoint := by
  induction ts with
  | nil => exact iff_of_true ⟨_, rfl⟩ nofun
  | cons t ts ih =>
    rw [List.forall_mem_cons, ← ih, nodesOfTargets]
    constructor
    · rintro ⟨nodes, h⟩
      obtain ⟨endpoint, hendpoint, h⟩ := bind_eq_ok_iff.1 h
      obtain ⟨rest, hrest, -⟩ := bind_eq_ok_iff.1 h
      exact ⟨⟨endpoint, hendpoint⟩, rest, hrest⟩
    · rintro ⟨⟨endpoint, hendpoint⟩, rest, hrest⟩
      rw [hendpoint, ok_bind, hrest]
      exact ⟨_, rfl⟩

/-- Fixed addresses with weights are connected if they can be read, whatever the policy is. -/
theorem connect_domain_ok_iff {policy : BalancePolicy} {hashHeader : Option String}
    (hweighted : ∀ t ∈ ts, t.target ≠ "" ∧ t.weight ≠ 0) :
    (∃ made, g.connect (.domain ts policy hashHeader) = .ok made) ↔
      ∀ t ∈ ts, ∃ endpoint, Endpoint.ofTarget t.target = .ok endpoint := by
  rw [← nodesOfTargets_ok_iff]
  constructor
  · rintro ⟨made, h⟩
    obtain ⟨nodes, _, hnodes, -⟩ := connect_domain_ok h
    exact ⟨nodes, hnodes⟩
  · rintro ⟨nodes, hnodes⟩
    have hpos : ∀ n ∈ nodes, 0 < n.weight := by
      intro n hn
      have hmem := List.mem_map_of_mem (f := fun n => (n.id, n.weight)) hn
      rw [nodesOfTargets_ok hnodes] at hmem
      obtain ⟨t, ht, heq⟩ := List.mem_map.1 hmem
      rw [← (Prod.mk.inj heq).2]
      exact Nat.pos_of_ne_zero fun hzero => (hweighted t ht).2 (UInt32.toNat_inj.1 hzero)
    obtain ⟨selector, hselector⟩ : ∃ s, g.factory.build (g.factory.kindFor policy) nodes = .ok s :=
      g.factory.build_ok fun _ => hpos
    rw [connect, hnodes, ok_bind, hselector]
    exact ⟨_, rfl⟩

/-- The target of a description passes the check and is connected if it has what it needs. -/
theorem exists_connect_iff :
    (∃ target made, r.validateTarget = .ok target ∧ g.connect target = .ok made) ↔
      r.policy ∈ RouteConfig.knownPolicies ∧ r.HasTarget := by
  unfold RouteConfig.validateTarget
  rw [← RouteConfig.policy_ofName_ok_iff]
  constructor
  · rintro ⟨target, made, htarget, hmade⟩
    obtain ⟨kind, hkind, htarget⟩ := bind_eq_ok_iff.1 htarget
    obtain ⟨policy, hpolicy, htarget⟩ := bind_eq_ok_iff.1 htarget
    refine ⟨⟨policy, hpolicy⟩, ?_⟩
    have hname := RouteConfig.targetType_ofName_eq_ok_iff.1 hkind
    cases kind with
    | discovery =>
      refine .discovery hname fun hempty => ?_
      simp [hempty] at htarget
    | domain =>
      by_cases hnone : r.targets = []
      · simp [hnone] at htarget
      · simp only [List.isEmpty_iff, hnone, if_false] at htarget
        obtain ⟨_, hchecked, htarget⟩ := bind_eq_ok_iff.1 htarget
        obtain rfl := Except.ok.inj htarget
        have hweighted := RouteConfig.targets_validateAll_ok_iff.1 hchecked
        exact .domain hname hnone hweighted ((connect_domain_ok_iff hweighted).1 ⟨made, hmade⟩)
    | mock =>
      cases hpresent : r.mock with
      | none => simp [hpresent] at htarget
      | some m =>
        simp only [hpresent] at htarget
        obtain ⟨spec, hspec, -⟩ := bind_eq_ok_iff.1 htarget
        obtain ⟨hcontent, hstatus⟩ := RouteConfig.mock_validate_ok_iff.1 ⟨spec, hspec⟩
        exact .mock hname hpresent hcontent hstatus
  · rintro ⟨⟨policy, hpolicy⟩, htarget⟩
    cases htarget with
    | discovery kind named =>
      have hkind : TargetType.ofName r.targetType = .ok .discovery :=
        RouteConfig.targetType_ofName_eq_ok_iff.2 kind
      rw [hkind, ok_bind, hpolicy, ok_bind]
      simp only [String.isEmpty_iff, named]
      exact ⟨_, _, rfl, rfl⟩
    | domain kind nonempty weighted readable =>
      have hkind : TargetType.ofName r.targetType = .ok .domain :=
        RouteConfig.targetType_ofName_eq_ok_iff.2 kind
      rw [hkind, ok_bind, hpolicy, ok_bind]
      simp only [List.isEmpty_iff, nonempty, RouteConfig.targets_validateAll_ok_iff.2 weighted, ok_bind]
      obtain ⟨made, hmade⟩ := (connect_domain_ok_iff weighted).2 readable
      exact ⟨_, made, rfl, hmade⟩
    | mock kind present content status =>
      have hkind : TargetType.ofName r.targetType = .ok .mock :=
        RouteConfig.targetType_ofName_eq_ok_iff.2 kind
      obtain ⟨spec, hspec⟩ := RouteConfig.mock_validate_ok_iff.2 ⟨content, status⟩
      rw [hkind, ok_bind, hpolicy, ok_bind]
      simp only [present, hspec, ok_bind]
      exact ⟨_, _, rfl, rfl⟩

/-- The match of a description passes the check and compiles if it has what it needs. -/
theorem exists_compileMatch_iff (m : Matchers) :
    (∃ matcher compiled, r.validateMatch = .ok matcher ∧ (compileMatch m matcher).1 = .ok compiled) ↔
      r.HasMatch m.custom := by
  constructor
  · rintro ⟨matcher, compiled, hmatch, hcompiled⟩
    obtain ⟨hdescribes, hmore⟩ := RouteConfig.validateMatch_eq_ok_iff.1 hmatch
    cases matcher with
    | full => exact .path (.inl hdescribes) hmore
    | leading => exact .path (.inr hdescribes) hmore
    | expression e =>
      obtain ⟨condition, hcondition, -⟩ := map_eq_ok_iff.1 hcompiled
      exact .expression hdescribes.1 hdescribes.2 ((m.compile_ok_iff e).1 ⟨condition, hcondition⟩)
  · intro h
    cases h with
    | path goes absolute =>
      obtain hfull | hleading := goes
      · exact ⟨.full, .full, RouteConfig.validateMatch_eq_ok_iff.2 ⟨hfull, absolute⟩, rfl⟩
      · exact ⟨.leading, .leading, RouteConfig.validateMatch_eq_ok_iff.2 ⟨hleading, absolute⟩, rfl⟩
    | @expression e kind present passes =>
      obtain ⟨condition, hcondition⟩ := (m.compile_ok_iff e).2 passes
      have hshape := ((Matchers.accepted_iff m.custom e m.cache).2 passes).1
      exact ⟨.expression e, .condition condition,
        RouteConfig.validateMatch_eq_ok_iff.2 ⟨⟨kind, present⟩, hshape⟩,
        map_eq_ok_iff.2 ⟨condition, hcondition, rfl⟩⟩

/-- A description comes as far as the table if it is servable. -/
theorem exists_prepare_iff : (∃ p, g.prepare r = .ok p) ↔ r.IsServable g.matchers.custom := by
  constructor
  · rintro ⟨p, hprepare⟩
    obtain ⟨hspec, hcompiled, made, hmade, -⟩ := prepare_eq_ok_iff.1 hprepare
    obtain ⟨hmatch, htarget, hrule, -⟩ := RouteConfig.validate_eq_ok_iff.1 hspec
    obtain ⟨hpolicy, hhasTarget⟩ := exists_connect_iff.1 ⟨_, made, htarget, hmade⟩
    exact
      { hasMatch := (exists_compileMatch_iff g.matchers).1 ⟨_, _, hmatch, hcompiled⟩
        policy := hpolicy
        hasTarget := hhasTarget
        hasPathRule :=
          (RouteConfig.validatePathRule_ok_iff (RouteConfig.validateMatch_ok hmatch)).1 ⟨_, hrule⟩ }
  · intro h
    obtain ⟨matcher, compiled, hmatch, hcompiled⟩ := (exists_compileMatch_iff g.matchers).2 h.hasMatch
    obtain ⟨target, made, htarget, hmade⟩ := (exists_connect_iff (g := g)).2 ⟨h.policy, h.hasTarget⟩
    obtain ⟨rule, hrule⟩ :=
      (RouteConfig.validatePathRule_ok_iff (RouteConfig.validateMatch_ok hmatch)).2 h.hasPathRule
    let spec : RouteSpec := ⟨matcher, r.path, r.priority, target, rule⟩
    have hspec : r.validate = .ok spec :=
      RouteConfig.validate_eq_ok_iff.2 ⟨hmatch, htarget, hrule, rfl, rfl⟩
    exact ⟨⟨spec, compiled, ⟨r.name, rule, made.1⟩, made.2.selectors⟩,
      prepare_eq_ok_iff.2 ⟨hspec, hcompiled, made, hmade, rfl, rfl⟩⟩

/-- A route is accepted if it comes as far as the table and the table takes it. -/
theorem register_ok_iff_place :
    (g.register r).1 = .ok () ↔ ∃ p table, g.prepare r = .ok p ∧ p.place g.table = .ok table := by
  have hstage := g.register_stages r
  revert hstage
  generalize g.register r = result
  obtain ⟨outcome, after⟩ := result
  intro hstage
  cases hstage with
  | unprepared hprepare =>
    refine iff_of_false nofun ?_
    rintro ⟨p, table, hp, -⟩
    cases hprepare.symm.trans hp
  | taken hprepare hplace =>
    refine iff_of_false nofun ?_
    rintro ⟨p, table, hp, htable⟩
    cases hprepare.symm.trans hp
    cases hplace.symm.trans htable
  | accepted hprepare hplace => exact iff_of_true rfl ⟨_, _, hprepare, hplace⟩

variable {policy : MatchPolicy} {routes : List AcceptedRoute}

/-- Where the entries are those of the accepted routes of a kind, one is free for a route of that kind
if none of them has its path. -/
theorem entry_eq_none_iff {entry : Option Transport} {kind : String} (hkind : r.matchType = kind)
    (hentry : ∀ x, entry = some x ↔
      ∃ a ∈ routes, (a.config.matchType = kind ∧ a.config.path = r.path) ∧ a.transport = x) :
    entry = none ↔ ∀ a ∈ routes, a.config.matchType = r.matchType → a.config.path ≠ r.path := by
  rw [hkind, Option.eq_none_iff_forall_ne_some]
  constructor
  · intro hfree a ha hsame htaken
    exact hfree a.transport ((hentry _).2 ⟨a, ha, ⟨hsame, htaken⟩, rfl⟩)
  · intro hnone x hx
    obtain ⟨a, ha, ⟨hsame, htaken⟩, -⟩ := (hentry x).1 hx
    exact hnone a ha hsame htaken

/-- The table takes a route if no accepted one of its kind has the path. -/
theorem exists_place_iff {p : Prepared} (h : Reflects policy g.matchers.custom g.table routes)
    (hp : g.prepare r = .ok p) :
    (∃ table, p.place g.table = .ok table) ↔
      (r.GoesByPath → ∀ a ∈ routes, a.config.matchType = r.matchType → a.config.path ≠ r.path) := by
  obtain ⟨-, -, -, hpath, -⟩ := RouteConfig.validate_eq_ok_iff.1 (prepare_eq_ok hp).1
  unfold Prepared.place
  rw [hpath]
  obtain ⟨hkind, hc⟩ | ⟨hkind, hc⟩ | ⟨hkind, c, hc⟩ := kind_of_prepare hp <;> rw [hc]
  · have hgoes : r.GoesByPath := .inl hkind
    have hfree := entry_eq_none_iff hkind (h.full r.path)
    rw [place]
    simp only [RouteTable.insertExact_ok_iff, exists_and_left, exists_eq', and_true, hfree, hgoes,
      forall_const]
  · have hgoes : r.GoesByPath := .inr hkind
    have hfree := entry_eq_none_iff hkind (h.leading r.path)
    rw [place]
    simp only [RouteTable.insertLeading_ok_iff, exists_and_left, exists_eq', and_true, hfree, hgoes,
      forall_const]
  · refine iff_of_true ⟨_, rfl⟩ fun hgoes => ?_
    rcases hgoes with hfull | hleading
    · exact absurd (hfull.symm.trans hkind) (by decide)
    · exact absurd (hleading.symm.trans hkind) (by decide)

/-- **A route is accepted exactly if it is servable and its path is free.** After any registrations,
accepted and refused in any order, the gateway takes a route if its description has what its choices
need and, where it goes by a path, no route of the same kind that was accepted has that path. -/
theorem register_ok_iff (g : Gateway) (policy : MatchPolicy) (rs : List RouteConfig) (r : RouteConfig) :
    let start := g.withoutRoutes policy
    let built := (registerAll rs start).2
    (built.register r).1 = .ok () ↔
      r.IsServable g.matchers.custom ∧
        (r.GoesByPath →
          ∀ a ∈ start.accepted rs, a.config.matchType = r.matchType → a.config.path ≠ r.path) := by
  intro start built
  have hcustom : built.matchers.custom = g.matchers.custom := registerAll_custom rs start
  have hinitial : Reflects policy start.matchers.custom start.table [] := .initial policy _
  have h : Reflects policy built.matchers.custom built.table (start.accepted rs) := by
    rw [hcustom]
    exact reflects_registerAll rs start hinitial
  rw [register_ok_iff_place, ← hcustom, ← exists_prepare_iff]
  constructor
  · rintro ⟨p, table, hp, htable⟩
    exact ⟨⟨p, hp⟩, (exists_place_iff h hp).1 ⟨table, htable⟩⟩
  · rintro ⟨⟨p, hp⟩, hfree⟩
    obtain ⟨table, htable⟩ := (exists_place_iff h hp).2 hfree
    exact ⟨p, table, hp, htable⟩

end Gateway

end TrafficGateway
