import TrafficGateway.Proofs.Gateway.Lookup

/-!
# The stages of a registration

A registration checks a description, compiles its match, connects its target and places the transport in
the table. `Gateway.register_cases` says what becomes of the table; here is everything that a registration
changes, stage by stage (`Gateway.register_stages`).

What registrations and lookups read of a gateway, its `Gateway.routing`, changes in the last stage only.
The cache of patterns and the services that were noted are not part of it, and so gateways that differ in
these alone accept, refuse and find the same (`Gateway.registerAll_congr`).

## Main definitions

* `Gateway.routing`: what registrations and lookups read.
* `Gateway.prepare`, `Prepared.place`: a registration up to the table, and the table after it.
* `Gateway.RegisterStage`: how far a registration comes.

## Main statements

* `Gateway.register_stages`: all that a registration can do.
* `Gateway.register_congr`, `Gateway.registerAll_congr`, `Gateway.find_afterFinds_congr`: the routing
  decides.
-/

namespace TrafficGateway

/-! ## Stages -/

/-- What registrations and lookups read of a gateway. -/
structure Routing where
  factory : SelectorFactory
  custom : List CustomFetcher
  table : RouteTable Transport
  selectors : List (Selector Endpoint)
  registered : Nat

/-- A route that only has to be placed in the table, and the selectors that there are then. -/
structure Prepared where
  spec : RouteSpec
  compiled : CompiledMatch
  transport : Transport
  selectors : List (Selector Endpoint)

/-- The table with the route in it. -/
def Prepared.place (p : Prepared) (t : RouteTable Transport) :
    Except RouteError (RouteTable Transport) :=
  Gateway.place t p.spec.path p.spec.priority p.transport p.compiled

namespace Gateway

variable {g g' : Gateway} {r : RouteConfig}

/-- What registrations and lookups read of the gateway. -/
def routing (g : Gateway) : Routing :=
  ⟨g.factory, g.matchers.custom, g.table, g.selectors, g.registered⟩

/-- A registration up to the table: the description is checked, its match compiled, and its target
connected. -/
def prepare (g : Gateway) (r : RouteConfig) : Except ForwardError Prepared :=
  match r.validate with
  | .error e => .error (.route e)
  | .ok spec =>
    match (compileMatch g.matchers spec.matcher).1 with
    | .error e => .error (.route e)
    | .ok compiled =>
      (g.connect spec.target).map fun made =>
        ⟨spec, compiled, ⟨r.name, spec.pathRule, made.1⟩, made.2.selectors⟩

/-- The services of the gateway with their algorithms, when a target is connected. -/
def noted (g : Gateway) : RouteTarget → List (SelectorKind × String)
  | .discovery service policy _ => (g.track (g.factory.kindFor policy) service).followed
  | _ => g.followed

/-- The gateways watch the same registry in the same way. Their caches may differ. -/
def WatchesLike (g g' : Gateway) : Prop :=
  g.discovery.watcher = g'.discovery.watcher ∧ g.discovery.registry = g'.discovery.registry

/-- How far a registration comes, what its outcome is and what it changes. The services are noted before
the table is asked. -/
inductive RegisterStage (g : Gateway) (r : RouteConfig) :
    Except ForwardError Unit → Gateway → Prop where
  | unprepared {e : ForwardError} {after : Gateway} (prepare : g.prepare r = .error e)
      (routing : after.routing = g.routing) (followed : after.followed = g.followed)
      (watching : after.WatchesLike g) : RegisterStage g r (.error e) after
  | taken {p : Prepared} {e : RouteError} {after : Gateway} (prepare : g.prepare r = .ok p)
      (place : p.place g.table = .error e) (routing : after.routing = g.routing)
      (followed : after.followed = g.noted p.spec.target) (watching : after.WatchesLike g) :
      RegisterStage g r (.error (.route e)) after
  | accepted {p : Prepared} {table : RouteTable Transport} {after : Gateway}
      (prepare : g.prepare r = .ok p) (place : p.place g.table = .ok table)
      (routing : after.routing = { g.routing with
        table, selectors := p.selectors, registered := g.registered + 1 })
      (followed : after.followed = g.noted p.spec.target) (watching : after.WatchesLike g) :
      RegisterStage g r (.ok ()) after

theorem track_watchesLike (g : Gateway) (kind : SelectorKind) (service : String) :
    (g.track kind service).WatchesLike g := by
  have hcaches : (g.track kind service).discovery =
      g.discovery.openCache kind (g.freshCache kind) := rfl
  rw [WatchesLike, hcaches, Discovery.openCache]
  split
  · exact ⟨rfl, rfl⟩
  · exact ⟨rfl, rfl⟩

theorem connect_ok {target : RouteTarget} {made : TransportTarget × Gateway}
    (h : g.connect target = .ok made) :
    made.2.routing = { g.routing with selectors := made.2.selectors } ∧
      made.2.followed = g.noted target ∧ made.2.WatchesLike g := by
  cases target with
  | mock spec =>
    obtain rfl := Except.ok.inj h
    exact ⟨rfl, rfl, rfl, rfl⟩
  | discovery service policy hashHeader =>
    obtain rfl := Except.ok.inj h
    exact ⟨rfl, rfl, g.track_watchesLike _ service⟩
  | domain targets policy hashHeader =>
    obtain ⟨nodes, selector, -, -, rfl⟩ := connect_domain_ok h
    exact ⟨rfl, rfl, rfl, rfl⟩

/-- What is known of a route that only has to be placed. -/
theorem prepare_eq_ok_iff {p : Prepared} :
    g.prepare r = .ok p ↔
      r.validate = .ok p.spec ∧ (compileMatch g.matchers p.spec.matcher).1 = .ok p.compiled ∧
        ∃ made, g.connect p.spec.target = .ok made ∧
          p.transport = ⟨r.name, p.spec.pathRule, made.1⟩ ∧ p.selectors = made.2.selectors := by
  unfold prepare
  cases r.validate with
  | error e => exact iff_of_false nofun nofun
  | ok spec =>
    dsimp only
    constructor
    · intro h
      cases hcompiled : (compileMatch g.matchers spec.matcher).1 with
      | error e =>
        rw [hcompiled] at h
        cases h
      | ok compiled =>
        rw [hcompiled] at h
        obtain ⟨made, hmade, rfl⟩ := map_eq_ok_iff.1 h
        exact ⟨rfl, hcompiled, made, hmade, rfl, rfl⟩
    · rintro ⟨hspec, hcompiled, made, hmade, htransport, hselectors⟩
      obtain rfl := Except.ok.inj hspec
      rw [hcompiled]
      refine map_eq_ok_iff.2 ⟨made, hmade, ?_⟩
      rw [← htransport, ← hselectors]

theorem transportFor_of_prepare {p : Prepared} (h : g.prepare r = .ok p) :
    g.transportFor r = .ok p.transport := by
  obtain ⟨hspec, -, made, hmade, htransport, -⟩ := prepare_eq_ok_iff.1 h
  rw [transportFor, hspec, ok_mapError, ok_bind, hmade, ok_bind, htransport]
  rfl

/-- Other patterns in the cache and other services make no difference to the routing. -/
theorem routing_of_custom_eq {m : Matchers} (h : m.custom = g.matchers.custom)
    (followed : List (SelectorKind × String)) (discovery : Discovery) :
    { g with matchers := m, followed, discovery }.routing = g.routing :=
  congrArg (fun custom => Routing.mk g.factory custom g.table g.selectors g.registered) h

/-- All that a registration can do. -/
theorem register_stages (g : Gateway) (r : RouteConfig) :
    RegisterStage g r (g.register r).1 (g.register r).2 := by
  unfold register
  cases hspec : r.validate with
  | error e => exact .unprepared (by rw [prepare, hspec]) rfl rfl ⟨rfl, rfl⟩
  | ok spec =>
    have hcustom := compileMatch_custom g.matchers spec.matcher
    rcases hcompiled : compileMatch g.matchers spec.matcher with ⟨e | compiled, matchers⟩
    · dsimp only
      rw [hcompiled] at hcustom ⊢
      refine .unprepared ?_ (routing_of_custom_eq hcustom g.followed g.discovery) rfl ⟨rfl, rfl⟩
      rw [prepare, hspec]
      dsimp only
      rw [hcompiled]
    · dsimp only
      rw [hcompiled] at hcustom ⊢
      dsimp only
      rw [connect_withMatchers]
      have hprepare : g.prepare r = (g.connect spec.target).map fun made =>
          ⟨spec, compiled, ⟨r.name, spec.pathRule, made.1⟩, made.2.selectors⟩ := by
        rw [prepare, hspec]
        dsimp only
        rw [hcompiled]
      cases hmade : g.connect spec.target with
      | error e =>
        rw [hmade] at hprepare
        exact .unprepared hprepare (routing_of_custom_eq hcustom g.followed g.discovery) rfl ⟨rfl, rfl⟩
      | ok made =>
        rw [hmade] at hprepare
        obtain ⟨hrouting, hfollowed, hwatching⟩ := connect_ok hmade
        dsimp only [Except.map]
        cases hplace : place g.table spec.path spec.priority
            ⟨r.name, spec.pathRule, made.1⟩ compiled with
        | error e =>
          exact .taken hprepare hplace (routing_of_custom_eq hcustom _ _) hfollowed hwatching
        | ok table =>
          refine .accepted hprepare hplace ?_ hfollowed hwatching
          have hfactory : made.2.factory = g.factory := congrArg Routing.factory hrouting
          dsimp only [routing]
          rw [hfactory, hcustom]

/-! ## Gateways with the same routing -/

/-- The stages before the table read the routing only. -/
theorem prepare_congr (h : g.routing = g'.routing) (r : RouteConfig) :
    g.prepare r = g'.prepare r := by
  have hfactory : g.factory = g'.factory := congrArg Routing.factory h
  have hcustom : g.matchers.custom = g'.matchers.custom := congrArg Routing.custom h
  have hselectors : g.selectors = g'.selectors := congrArg Routing.selectors h
  unfold prepare
  cases r.validate with
  | error e => rfl
  | ok spec =>
    have hcompiled : (compileMatch g.matchers spec.matcher).1 =
        (compileMatch g'.matchers spec.matcher).1 := by
      cases spec.matcher with
      | expression e =>
        dsimp only [compileMatch]
        rw [Matchers.compile_fst_congr hcustom]
      | _ => rfl
    dsimp only
    rw [hcompiled]
    cases (compileMatch g'.matchers spec.matcher).1 with
    | error e => rfl
    | ok compiled =>
      cases spec.target with
      | mock mock => dsimp only [connect, Except.map]; rw [hselectors]
      | discovery service policy hashHeader =>
        dsimp only [connect, Except.map, track]
        rw [hfactory, hselectors]
      | domain targets policy hashHeader =>
        dsimp only [connect]
        cases nodesOfTargets targets with
        | error e => rfl
        | ok nodes =>
          simp only [ok_bind, hfactory]
          cases g'.factory.build (g'.factory.kindFor policy) nodes with
          | error e => rfl
          | ok selector =>
            dsimp only [Except.map]
            rw [hselectors]
            rfl

/-- One registration: the outcome and the routing after it follow from the routing. -/
theorem register_congr (h : g.routing = g'.routing) (r : RouteConfig) :
    (g.register r).1 = (g'.register r).1 ∧
      (g.register r).2.routing = (g'.register r).2.routing := by
  have hprepare := prepare_congr h r
  have htable : g.table = g'.table := congrArg Routing.table h
  have hregistered : g.registered = g'.registered := congrArg Routing.registered h
  have hstage := g.register_stages r
  have hstage' := g'.register_stages r
  revert hstage hstage'
  generalize g.register r = result
  generalize g'.register r = result'
  obtain ⟨outcome, after⟩ := result
  obtain ⟨outcome', after'⟩ := result'
  intro hstage hstage'
  cases hstage with
  | unprepared hp hrouting =>
    cases hstage' with
    | unprepared hp' hrouting' =>
      obtain rfl := Except.error.inj (hp.symm.trans (hprepare.trans hp'))
      exact ⟨rfl, hrouting.trans (h.trans hrouting'.symm)⟩
    | taken hp' => cases hp.symm.trans (hprepare.trans hp')
    | accepted hp' => cases hp.symm.trans (hprepare.trans hp')
  | taken hp hplace hrouting =>
    cases hstage' with
    | unprepared hp' => cases hp.symm.trans (hprepare.trans hp')
    | taken hp' hplace' hrouting' =>
      obtain rfl := Except.ok.inj (hp.symm.trans (hprepare.trans hp'))
      obtain rfl := Except.error.inj (hplace.symm.trans (htable ▸ hplace'))
      exact ⟨rfl, hrouting.trans (h.trans hrouting'.symm)⟩
    | accepted hp' hplace' =>
      obtain rfl := Except.ok.inj (hp.symm.trans (hprepare.trans hp'))
      cases hplace.symm.trans (htable ▸ hplace')
  | accepted hp hplace hrouting =>
    cases hstage' with
    | unprepared hp' => cases hp.symm.trans (hprepare.trans hp')
    | taken hp' hplace' =>
      obtain rfl := Except.ok.inj (hp.symm.trans (hprepare.trans hp'))
      cases hplace.symm.trans (htable ▸ hplace')
    | accepted hp' hplace' hrouting' =>
      obtain rfl := Except.ok.inj (hp.symm.trans (hprepare.trans hp'))
      obtain rfl := Except.ok.inj (hplace.symm.trans (htable ▸ hplace'))
      refine ⟨rfl, ?_⟩
      rw [hrouting, hrouting', h, hregistered]

/-- All registrations go on alike from the same routing. -/
theorem registerAll_congr (h : g.routing = g'.routing) (rs : List RouteConfig) :
    (registerAll rs g).1 = (registerAll rs g').1 ∧
      (registerAll rs g).2.routing = (registerAll rs g').2.routing := by
  induction rs generalizing g g' with
  | nil => exact ⟨rfl, h⟩
  | cons r rs ih =>
    obtain ⟨houtcome, hrouting⟩ := register_congr h r
    obtain ⟨houtcomes, hlast⟩ := ih hrouting
    rw [registerAll, registerAll]
    exact ⟨congrArg₂ List.cons houtcome houtcomes, hlast⟩

/-- So do lookups, after any others. -/
theorem find_afterFinds_congr (h : g.routing = g'.routing) (earlier : List RequestView)
    (v : RequestView) :
    ((g.afterFinds earlier).find v).1 = ((g'.afterFinds earlier).find v).1 := by
  have htable : g.table = g'.table := congrArg Routing.table h
  rw [find, find, afterFinds_table, afterFinds_table, RouteTable.find_payload,
    RouteTable.find_payload, htable]

end Gateway

end TrafficGateway
