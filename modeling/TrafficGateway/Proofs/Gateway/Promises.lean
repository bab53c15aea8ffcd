import TrafficGateway.Proofs.Forward.Target
import TrafficGateway.Proofs.Gateway.Later
import TrafficGateway.Proofs.Gateway.Stages

/-!
# What an accepted route can rely on

Serving a request has fallbacks of its own: a selector without nodes, a status that is no number of a
status, a path that does not begin with the prefix to be taken away, a route that the table has no entry for.
None of them is reached for an accepted route (`Gateway.Honours`), at any later time
(`Gateway.honours_of_accepted`). What the check of a description establishes is followed to where it is used:
the target and the path rule of the transport, the selector that was built over the fixed backends and stays
over them, and the entry in the list of conditions.

A registration only adds. Selectors come at the end of the list (`Gateway.selectors_register`), so the place
that a transport was given stays its own; and the conditions of the table are, up to their order, those of
the accepted routes with expressions (`Gateway.conditions_registerAll`).

## Main definitions

* `Gateway.Honours`: the route is served as its description says.
* `AcceptedRoute.entry?`: the entry of an accepted route in the list of conditions.

## Main statements

* `Gateway.accept?_cases`: one registration.
* `Gateway.honours_of_accepted`: what was accepted is served as described.
-/

namespace TrafficGateway

/-! ## Checked descriptions -/

theorem MockContent.validate_ok {content : MockContent} {spec : MockSpec}
    (h : content.validate = .ok spec) :
    ContentType.ofName content.contentType = .ok spec.contentType ∧
      spec.statusCode = content.statusCode ∧ spec.body = content.body ∧
      100 ≤ content.statusCode.toNat ∧ content.statusCode.toNat ≤ 599 ∧
      (spec.contentType = .json → ∃ d, Json.read content.body = .ok d) := by
  unfold MockContent.validate at h
  obtain ⟨kind, hkind, h⟩ := bind_eq_ok_iff.1 h
  split at h
  · cases h
  · next hjson =>
    split at h
    · next hstatus =>
      obtain rfl := Except.ok.inj h
      refine ⟨hkind, rfl, rfl, hstatus.1, hstatus.2, fun htype => ?_⟩
      cases hread : Json.read content.body with
      | ok d => exact ⟨d, rfl⟩
      | error e => exact absurd hread (hjson e htype)
    · cases h

namespace RouteConfig

variable {r : RouteConfig} {target : RouteTarget}

theorem targets_ne_nil (h : r.validateTarget = .ok target) (hdomain : r.targetType = "domain") :
    r.targets ≠ [] := by
  have hkind : TargetType.ofName r.targetType = .ok .domain := by
    rw [hdomain]
    rfl
  rw [validateTarget, hkind, ok_bind] at h
  obtain ⟨policy, -, h⟩ := bind_eq_ok_iff.1 h
  intro hnil
  rw [hnil] at h
  cases h

theorem validateTarget_mock (h : r.validateTarget = .ok target) (hmock : r.targetType = "mock") :
    ∃ content spec, r.mock = some content ∧ content.validate = .ok spec ∧ target = .mock spec := by
  have hkind : TargetType.ofName r.targetType = .ok .mock := by
    rw [hmock]
    rfl
  rw [validateTarget, hkind, ok_bind] at h
  obtain ⟨policy, -, h⟩ := bind_eq_ok_iff.1 h
  dsimp only at h
  split at h
  · cases h
  · next content hcontent =>
    obtain ⟨spec, hspec, h⟩ := bind_eq_ok_iff.1 h
    obtain rfl := Except.ok.inj h
    exact ⟨content, spec, hcontent, hspec, rfl⟩

theorem validatePathRule_stripPrefix {m : RouteMatcher} {rule : PathRule}
    (h : r.validatePathRule m = .ok rule) (hstrip : r.pathRule = "stripPrefix") :
    rule = .stripPrefix r.path := by
  have hkind : PathRuleKind.ofName r.pathRule = .ok .stripPrefix := by
    rw [hstrip]
    rfl
  rw [validatePathRule, hkind, ok_bind] at h
  dsimp only at h
  split at h
  · cases h
  · exact (Except.ok.inj h).symm

end RouteConfig

/-! ## One registration -/

/-- The entry of an accepted route in the list of conditions, if it goes by an expression. -/
def AcceptedRoute.entry? (m : Matchers) (a : AcceptedRoute) : Option (ConditionEntry Transport) :=
  if a.config.matchType = "exprMatch" then
    a.config.expr.bind fun e =>
      (m.compile e).1.toOption.map fun c => ⟨c, a.config.priority, a.transport⟩
  else none

theorem AcceptedRoute.entry?_of_ne {a : AcceptedRoute} (h : a.config.matchType ≠ "exprMatch")
    (m : Matchers) : a.entry? m = none := if_neg h

theorem AcceptedRoute.entry?_congr {m m' : Matchers} (h : m.custom = m'.custom) (a : AcceptedRoute) :
    a.entry? m = a.entry? m' := by
  unfold AcceptedRoute.entry?
  simp only [Matchers.compile_fst_congr h]

theorem RouteTable.insertByPriority_perm {α : Type} (e : ConditionEntry α)
    (es : List (ConditionEntry α)) : (insertByPriority e es).Perm (e :: es) := by
  induction es with
  | nil => exact .refl _
  | cons f es ih =>
    rw [insertByPriority]
    split
    · exact .refl _
    · exact (ih.cons f).trans (.swap e f es)

namespace Gateway

variable {g : Gateway} {r : RouteConfig} {rs : List RouteConfig} {a : AcceptedRoute} {place : Nat}
  {nodes : List (Node Endpoint)}

/-- A route is accepted with the transport that was prepared for it, or it is refused and the table and the
selectors are as they were. -/
theorem accept?_cases (g : Gateway) (r : RouteConfig) :
    (∃ p, g.prepare r = .ok p ∧ p.place g.table = .ok (g.register r).2.table ∧
        (g.register r).2.selectors = p.selectors ∧ g.accept? r = some ⟨r, p.transport⟩) ∨
      g.accept? r = none ∧ (g.register r).2.table = g.table ∧
        (g.register r).2.selectors = g.selectors := by
  have hnone : ∀ e, (g.register r).1 = .error e → g.accept? r = none := by
    intro e herror
    simp only [accept?, herror]
  have hsome : ∀ t, (g.register r).1 = .ok () → g.transportFor r = .ok t →
      g.accept? r = some ⟨r, t⟩ := by
    intro t hok ht
    simp only [accept?, hok, ht]
  have hstage := g.register_stages r
  revert hnone hsome hstage
  generalize g.register r = result
  obtain ⟨outcome, after⟩ := result
  intro hnone hsome hstage
  cases hstage with
  | @unprepared e _ hprepare hrouting =>
    exact .inr ⟨hnone e rfl, congrArg Routing.table hrouting, congrArg Routing.selectors hrouting⟩
  | @taken p e _ hprepare hplace hrouting =>
    exact .inr ⟨hnone _ rfl, congrArg Routing.table hrouting, congrArg Routing.selectors hrouting⟩
  | @accepted p table _ hprepare hplace hrouting =>
    have htable : after.table = table := congrArg Routing.table hrouting
    exact .inl ⟨p, hprepare, htable ▸ hplace, congrArg Routing.selectors hrouting,
      hsome _ rfl (transportFor_of_prepare hprepare)⟩

/-! ## Fixed backends -/

/-- The selector of fixed backends is put at the end of the list. -/
theorem connect_backs {targets : List TargetConfig} {policy : BalancePolicy}
    {hashHeader : Option String} {made : TransportTarget × Gateway}
    (h : g.connect (.domain targets policy hashHeader) = .ok made) :
    ∃ nodes, nodesOfTargets targets = .ok nodes ∧ made.2.Backs g.selectors.length nodes := by
  obtain ⟨nodes, selector, hnodes, hbuild, rfl⟩ := connect_domain_ok h
  refine ⟨nodes, hnodes, selector, ?_, SelectorFactory.over_of_build hbuild⟩
  exact List.getElem?_concat_length

theorem connect_selectors {target : RouteTarget} {made : TransportTarget × Gateway}
    (h : g.connect target = .ok made) : g.selectors <+: made.2.selectors := by
  cases target with
  | mock spec =>
    obtain rfl := Except.ok.inj h
    exact List.prefix_rfl
  | discovery service policy hashHeader =>
    obtain rfl := Except.ok.inj h
    exact List.prefix_rfl
  | domain targets policy hashHeader =>
    obtain ⟨nodes, selector, -, -, rfl⟩ := connect_domain_ok h
    exact List.prefix_append _ _

/-- A registration adds selectors behind those that there are. -/
theorem selectors_register (g : Gateway) (r : RouteConfig) :
    g.selectors <+: (g.register r).2.selectors := by
  rcases g.accept?_cases r with ⟨p, hprepare, -, hafter, -⟩ | ⟨-, -, hafter⟩
  · obtain ⟨-, -, made, hmade, -, hselectors⟩ := prepare_eq_ok_iff.1 hprepare
    rw [hafter, hselectors]
    exact connect_selectors hmade
  · rw [hafter]

theorem Backs.of_prefix {g' : Gateway} (h : g.Backs place nodes)
    (hfront : g.selectors <+: g'.selectors) : g'.Backs place nodes := by
  obtain ⟨s, hs, hover⟩ := h
  obtain ⟨rest, hrest⟩ := hfront
  refine ⟨s, ?_, hover⟩
  have hlt : place < g.selectors.length := (List.getElem?_eq_some_iff.1 hs).1
  rw [← hrest, List.getElem?_append_left hlt, hs]

theorem Backs.registerAll (h : g.Backs place nodes) (rs : List RouteConfig) :
    (Gateway.registerAll rs g).2.Backs place nodes := by
  induction rs generalizing g with
  | nil => exact h
  | cons r rs ih => exact ih (h.of_prefix (g.selectors_register r))

/-- A route to fixed backends has a selector over their nodes when it is accepted. -/
theorem backs_of_accept? (h : g.accept? r = some a) (hdomain : a.config.targetType = "domain") :
    ∃ place hashHeader nodes, a.transport.target = .forward (.fixed place) hashHeader ∧
      nodesOfTargets a.config.targets = .ok nodes ∧ nodes ≠ [] ∧
      (g.register r).2.Backs place nodes := by
  rcases g.accept?_cases r with ⟨p, hprepare, -, hafter, haccept⟩ | ⟨hnone, -⟩
  · obtain rfl := Option.some.inj (haccept.symm.trans h)
    obtain ⟨hspec, -, made, hmade, htransport, hselectors⟩ := prepare_eq_ok_iff.1 hprepare
    obtain ⟨-, htarget, -⟩ := RouteConfig.validate_eq_ok_iff.1 hspec
    obtain ⟨policy, hashHeader, hfixed⟩ := RouteConfig.validateTarget_domain htarget hdomain
    rw [hfixed] at hmade
    obtain ⟨nodes, hnodes, hbacks⟩ := connect_backs hmade
    have hkept : made.2.selectors <+: (g.register r).2.selectors := by rw [hafter, hselectors]
    refine ⟨g.selectors.length, hashHeader, nodes, ?_, hnodes, ?_, hbacks.of_prefix hkept⟩
    · show p.transport.target = _
      rw [htransport, connect_domain hmade]
    · rintro rfl
      -- Without nodes there would be no targets, which the check refuses.
      have htargets := nodesOfTargets_ok hnodes
      exact RouteConfig.targets_ne_nil htarget hdomain (List.map_eq_nil_iff.1 htargets.symm)
  · rw [hnone] at h
    cases h

/-- The selector is still there once all routes are registered. -/
theorem backs_of_mem_accepted (h : a ∈ g.accepted rs) (hdomain : a.config.targetType = "domain") :
    ∃ place hashHeader nodes, a.transport.target = .forward (.fixed place) hashHeader ∧
      nodesOfTargets a.config.targets = .ok nodes ∧ nodes ≠ [] ∧
      (registerAll rs g).2.Backs place nodes := by
  obtain ⟨before, rest, -, haccept, hrest⟩ :=
    exists_before_of_mem_accepted (P := fun _ => True) (fun _ _ _ => trivial) trivial h
  obtain ⟨place, hashHeader, nodes, htarget, hnodes, hne, hbacks⟩ := backs_of_accept? haccept hdomain
  rw [hrest]
  exact ⟨place, hashHeader, nodes, htarget, hnodes, hne, hbacks.registerAll rest⟩

/-! ## Conditions -/

/-- A route that is placed adds its entry to the conditions, if it goes by an expression. -/
theorem place_conditions {p : Prepared} {table : RouteTable Transport} (h : g.prepare r = .ok p)
    (hplace : p.place g.table = .ok table) :
    table.conditions.Perm
      (g.table.conditions ++ (AcceptedRoute.entry? g.matchers ⟨r, p.transport⟩).toList) := by
  obtain ⟨hspec, hcompiled, -⟩ := prepare_eq_ok_iff.1 h
  obtain ⟨hmatch, -, -, -, hpriority⟩ := RouteConfig.validate_eq_ok_iff.1 hspec
  have hdescribes := RouteConfig.validateMatch_ok hmatch
  unfold Prepared.place at hplace
  -- Routes that go by paths leave the conditions alone, and have no entry.
  cases hm : p.spec.matcher with
  | full =>
    rw [hm] at hcompiled hdescribes
    rw [← Except.ok.inj hcompiled] at hplace
    obtain ⟨-, rfl⟩ := RouteTable.insertExact_ok_iff.1 hplace
    have hpath : r.matchType = "fullMatch" := hdescribes
    rw [AcceptedRoute.entry?_of_ne (by rw [hpath]; decide), Option.toList_none, List.append_nil]
  | leading =>
    rw [hm] at hcompiled hdescribes
    rw [← Except.ok.inj hcompiled] at hplace
    obtain ⟨-, rfl⟩ := RouteTable.insertLeading_ok_iff.1 hplace
    have hpath : r.matchType = "prefixMatch" := hdescribes
    rw [AcceptedRoute.entry?_of_ne (by rw [hpath]; decide), Option.toList_none, List.append_nil]
  | expression e =>
    rw [hm] at hcompiled hdescribes
    have hcompiled : (g.matchers.compile e).1.map .condition = .ok p.compiled := hcompiled
    obtain ⟨c, hc, hcondition⟩ := map_eq_ok_iff.1 hcompiled
    rw [← hcondition] at hplace
    obtain rfl := Except.ok.inj hplace
    have hentry : AcceptedRoute.entry? g.matchers ⟨r, p.transport⟩ =
        some ⟨c, p.spec.priority, p.transport⟩ := by
      rw [AcceptedRoute.entry?, if_pos hdescribes.1, hdescribes.2, Option.bind_some, hc, hpriority]
      rfl
    rw [hentry]
    exact (RouteTable.insertByPriority_perm _ _).trans (List.perm_append_singleton _ _).symm

/-- **The conditions of a table are those of the accepted routes with expressions**, one for each, up to
their order. -/
theorem conditions_registerAll (rs : List RouteConfig) (g : Gateway) :
    (registerAll rs g).2.table.conditions.Perm
      (g.table.conditions ++ (g.accepted rs).filterMap (AcceptedRoute.entry? g.matchers)) := by
  induction rs generalizing g with
  | nil => exact .of_eq (List.append_nil _).symm
  | cons r rs ih =>
    have hentries : AcceptedRoute.entry? (g.register r).2.matchers = AcceptedRoute.entry? g.matchers :=
      funext (AcceptedRoute.entry?_congr (g.register_custom r))
    have hrest := ih (g.register r).2
    rw [hentries] at hrest
    rw [registerAll, accepted]
    refine hrest.trans ?_
    rcases g.accept?_cases r with ⟨p, hprepare, hplace, -, haccept⟩ | ⟨hnone, htable, -⟩
    · rw [haccept, List.filterMap_append, ← List.append_assoc]
      refine List.Perm.append_right _ ?_
      have hsingle : (some (⟨r, p.transport⟩ : AcceptedRoute)).toList.filterMap
          (AcceptedRoute.entry? g.matchers) =
            (AcceptedRoute.entry? g.matchers ⟨r, p.transport⟩).toList := by
        rw [Option.toList_some, List.filterMap_cons, List.filterMap_nil]
        cases AcceptedRoute.entry? g.matchers ⟨r, p.transport⟩ with
        | none => rfl
        | some entry => rfl
      rw [hsingle]
      exact place_conditions hprepare hplace
    · rw [hnone, htable]
      exact .refl _

/-- A route with an expression is accepted only if the expression compiles. -/
theorem compile_of_accept? (h : g.accept? r = some a) (hexpr : a.config.matchType = "exprMatch") :
    ∃ e c, a.config.expr = some e ∧ (g.matchers.compile e).1 = .ok c := by
  rcases g.accept?_cases r with ⟨p, hprepare, -, -, haccept⟩ | ⟨hnone, -⟩
  · obtain rfl := Option.some.inj (haccept.symm.trans h)
    obtain ⟨hspec, hcompiled, -⟩ := prepare_eq_ok_iff.1 hprepare
    obtain ⟨hmatch, -⟩ := RouteConfig.validate_eq_ok_iff.1 hspec
    have hdescribes := RouteConfig.validateMatch_ok hmatch
    have hkind : r.matchType = "exprMatch" := hexpr
    cases hm : p.spec.matcher with
    | full =>
      rw [hm, RouteConfig.Describes, hkind] at hdescribes
      exact absurd hdescribes (by decide)
    | leading =>
      rw [hm, RouteConfig.Describes, hkind] at hdescribes
      exact absurd hdescribes (by decide)
    | expression e =>
      rw [hm] at hcompiled hdescribes
      have hcompiled : (g.matchers.compile e).1.map .condition = .ok p.compiled := hcompiled
      obtain ⟨c, hc, -⟩ := map_eq_ok_iff.1 hcompiled
      exact ⟨e, c, hdescribes.2, hc⟩
  · rw [hnone] at h
    cases h

/-- The condition of an accepted route with an expression is in the table. -/
theorem condition_of_mem_accepted (h : a ∈ g.accepted rs)
    (hexpr : a.config.matchType = "exprMatch") :
    ∃ e c, a.config.expr = some e ∧ (g.matchers.compile e).1 = .ok c ∧
      ⟨c, a.config.priority, a.transport⟩ ∈ (registerAll rs g).2.table.conditions := by
  obtain ⟨before, -, hcustom, haccept, -⟩ :=
    exists_before_of_mem_accepted (P := fun before => before.matchers.custom = g.matchers.custom)
      (fun before r hbefore => (before.register_custom r).trans hbefore) rfl h
  obtain ⟨e, c, he, hc⟩ := compile_of_accept? haccept hexpr
  rw [Matchers.compile_fst_congr hcustom] at hc
  have hentry : a.entry? g.matchers = some ⟨c, a.config.priority, a.transport⟩ := by
    rw [AcceptedRoute.entry?, if_pos hexpr, he, Option.bind_some, hc]
    rfl
  refine ⟨e, c, he, hc, (conditions_registerAll rs g).mem_iff.2 ?_⟩
  exact List.mem_append_right _ (List.mem_filterMap.2 ⟨a, h, hentry⟩)

/-! ## Promises -/

/-- The gateway serves the route as its description says, and none of the fallbacks is reached: a choice
among fixed backends is one of them; a fixed answer has the status, the type and the text that are
described, and what is to be JSON is; a path that a prefix is taken from begins with it; and the condition
of an expression is in the table. -/
structure Honours (m : Matchers) (g : Gateway) (a : AcceptedRoute) : Prop where
  domain : a.config.targetType = "domain" →
    ∃ place hashHeader nodes, a.transport.target = .forward (.fixed place) hashHeader ∧
      nodesOfTargets a.config.targets = .ok nodes ∧
      ∀ c, ∃ node ∈ nodes, (resolve (.fixed place) c g).1 = .ok node.data
  mock : a.config.targetType = "mock" →
    ∃ content kind, a.config.mock = some content ∧
      ContentType.ofName content.contentType = .ok kind ∧
      (kind = .json → ∃ d, Json.read content.body = .ok d) ∧
      ∀ backends r, ∃ response, g.handle backends a.transport r = (.ok response, g) ∧
        response.status.code = content.statusCode.toNat ∧
        response.headers = [("content-type", HeaderValue.ofText kind.mime)] ∧
        response.body = [.data content.body.toUTF8.toList]
  stripPrefix : a.config.pathRule = "stripPrefix" →
    a.transport.pathRule = .stripPrefix a.config.path ∧
      ∀ v, (g.find v).1 = some a.transport →
        ∃ rest, dropPrefix? a.config.path.toList v.path.toList = some rest ∧
          a.transport.pathRule.apply v.path = String.ofList (rootedPath rest)
  expression : a.config.matchType = "exprMatch" →
    ∃ e c, a.config.expr = some e ∧ (m.compile e).1 = .ok c ∧
      ⟨c, a.config.priority, a.transport⟩ ∈ g.table.conditions

/-- The answer of a checked description is the one that is described. -/
theorem mock_of_mem_accepted (h : a ∈ g.accepted rs) (hmock : a.config.targetType = "mock") :
    ∃ content spec, a.config.mock = some content ∧ content.validate = .ok spec ∧
      a.transport.target = .mock spec := by
  obtain ⟨before, htransport⟩ := transportFor_of_mem_accepted h
  obtain ⟨spec, made, hspec, hmade, ht⟩ := transportFor_ok htransport
  obtain ⟨-, htarget, -⟩ := RouteConfig.validate_eq_ok_iff.1 hspec
  obtain ⟨content, answer, hcontent, hanswer, hfixed⟩ :=
    RouteConfig.validateTarget_mock htarget hmock
  rw [hfixed] at hmade
  obtain rfl := Except.ok.inj hmade
  exact ⟨content, answer, hcontent, hanswer, by rw [ht]⟩

theorem stripPrefix_of_mem_accepted (h : a ∈ g.accepted rs)
    (hstrip : a.config.pathRule = "stripPrefix") :
    a.transport.pathRule = .stripPrefix a.config.path := by
  obtain ⟨before, htransport⟩ := transportFor_of_mem_accepted h
  obtain ⟨spec, made, hspec, -, ht⟩ := transportFor_ok htransport
  obtain ⟨-, -, hrule, -⟩ := RouteConfig.validate_eq_ok_iff.1 hspec
  rw [ht]
  exact RouteConfig.validatePathRule_stripPrefix hrule hstrip

/-- A path that a request is claimed by begins with the prefix that the transport takes away. -/
theorem prefix_of_claimed {policy : MatchPolicy} {custom : List CustomFetcher} {v : RequestView}
    {t : Transport} {front : String} (h : Claimed policy custom (g.accepted rs) v (some t))
    (hrule : t.pathRule = .stripPrefix front) : front.toList <+: v.path.toList := by
  -- Of the routes that may have this transport, one has claimed the request.
  obtain ⟨b, hb, rfl, hleads⟩ := leads_of_claimed h
  obtain ⟨hfront, hkind⟩ := (pathRule_of_mem_accepted hb).2 front hrule
  rw [hfront]
  exact hleads hkind

theorem handle_mock {t : Transport} {content : MockContent} {spec : MockSpec}
    (ht : t.target = .mock spec) (hspec : content.validate = .ok spec) (g : Gateway)
    (backends : Backends) (r : Request) :
    ∃ response, g.handle backends t r = (.ok response, g) ∧
      response.status.code = content.statusCode.toNat ∧
      response.headers = [("content-type", HeaderValue.ofText spec.contentType.mime)] ∧
      response.body = [.data content.body.toUTF8.toList] := by
  obtain ⟨-, hstatus, hbody, hge, hle, -⟩ := MockContent.validate_ok hspec
  -- The number is one of a status, so that it does not become 200.
  have hcode : Status.ofNat? spec.statusCode.toNat =
      some ⟨content.statusCode.toNat, by omega, by omega⟩ := by
    rw [hstatus, Status.ofNat?, dif_pos (by omega)]
  refine ⟨spec.respond, ?_, ?_, rfl, ?_⟩
  · rw [handle, ht]
  · rw [MockSpec.respond, hcode]
    rfl
  · show [Frame.data spec.body.toUTF8.toList] = _
    rw [hbody]

/-- **What the check of a description promises is kept.** Whatever routes are registered, and whatever the
gateway is asked after that, an accepted route is served as its description says: its selector never fails,
its fixed answer is the one that is described, the prefix that it takes away is there, and its condition is
in the table. -/
theorem honours_of_accepted (g : Gateway) (policy : MatchPolicy) (rs : List RouteConfig) :
    let start := g.withoutRoutes policy
    ∀ a ∈ start.accepted rs, ∀ later, Later (registerAll rs start).2 later →
      later.Honours g.matchers a := by
  intro start a ha later hlater
  have htable := hlater.table_eq
  refine { domain := fun hdomain => ?_, mock := fun hmock => ?_, stripPrefix := fun hstrip => ?_,
           expression := fun hexpr => ?_ }
  · obtain ⟨place, hashHeader, nodes, htarget, hnodes, hne, hbacks⟩ := backs_of_mem_accepted ha hdomain
    exact ⟨place, hashHeader, nodes, htarget, hnodes, (hbacks.later hlater).exists_ok hne⟩
  · obtain ⟨content, spec, hcontent, hspec, htarget⟩ := mock_of_mem_accepted ha hmock
    obtain ⟨hkind, -, -, -, -, hjson⟩ := MockContent.validate_ok hspec
    exact ⟨content, spec.contentType, hcontent, hkind, hjson, handle_mock htarget hspec later⟩
  · have hrule := stripPrefix_of_mem_accepted ha hstrip
    refine ⟨hrule, fun v hfound => ?_⟩
    have hreflects : Reflects policy g.matchers.custom (registerAll rs start).2.table
        (start.accepted rs) := reflects_registerAll rs start (.initial policy _)
    have hclaimed : Claimed policy g.matchers.custom (start.accepted rs) v (some a.transport) := by
      rw [← hfound, find, htable]
      exact hreflects.claimed v _
    obtain ⟨rest, hrest⟩ := prefix_of_claimed hclaimed hrule
    have hdrop : dropPrefix? a.config.path.toList v.path.toList = some rest :=
      dropPrefix?_eq_some_iff.2 hrest.symm
    refine ⟨rest, hdrop, ?_⟩
    rw [hrule, PathRule.apply, PathRule.bare, hdrop, Option.getD_some]
  · rw [htable]
    exact condition_of_mem_accepted ha hexpr

/-- A route for the host `teapot`, with a fixed answer in JSON. -/
def teapotRoute : RouteConfig :=
  { matchType := "exprMatch", expr := some { source := "host", operator := "eq", value := "teapot" },
    targetType := "mock", mock := some { statusCode := 418, body := "[]" } }

/-- A route with a prefix and fixed backends, and one with an expression and a fixed answer, after a
lookup. -/
theorem teapot_and_api_honoured :
    let start := emptyGateway.withoutRoutes .longest
    let later := ((registerAll [teapotRoute, apiRoute] start).2.find ⟨"/api/users", "", []⟩).2
    let teapot : AcceptedRoute := ⟨teapotRoute, ⟨"expr:0", .copyFullPath, .mock ⟨.json, 418, "[]"⟩⟩⟩
    let api : AcceptedRoute := ⟨apiRoute, ⟨"/api", .stripPrefix "/api", .forward (.fixed 0) none⟩⟩
    (teapot ∈ start.accepted [teapotRoute, apiRoute] ∧ later.Honours {} teapot) ∧
      api ∈ start.accepted [teapotRoute, apiRoute] ∧ later.Honours {} api := by
  intro start later teapot api
  have haccepted : start.accepted [teapotRoute, apiRoute] = [teapot, api] := rfl
  have hlater : Later (registerAll [teapotRoute, apiRoute] start).2 later := .find .now _
  have hteapot : teapot ∈ start.accepted [teapotRoute, apiRoute] := by simp [haccepted]
  have hapi : api ∈ start.accepted [teapotRoute, apiRoute] := by simp [haccepted]
  exact ⟨⟨hteapot, honours_of_accepted emptyGateway .longest _ _ hteapot later hlater⟩,
    hapi, honours_of_accepted emptyGateway .longest _ _ hapi later hlater⟩

end Gateway

end TrafficGateway
