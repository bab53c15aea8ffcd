import TrafficGateway.Proofs.Gateway.Services
import TrafficGateway.Proofs.Gateway.Stages

/-!
# What a refused route leaves behind

A registration can be refused at each of its stages. The routing of the gateway changes only in the last of
them, so a refused route has no part in later registrations and lookups. The services that routes name are
noted earlier, when the target of a route is connected. A route that is refused in the last stage, since
its path is taken, has then left its service behind.

## Main definitions

* `RouteConfig.Names`, `RouteConfig.GoesByPath`: what a description says about services and paths.
* `Gateway.ActsLike`: gateways that cannot be told apart by their routes.

## Main statements

* `Gateway.mem_services_register`, `Gateway.mem_services_registerAll`: the services after one registration
  and, by induction, after any.
* `Gateway.refused_leaves_trace_iff`: when a refused route can be told from none.
-/

namespace TrafficGateway

/-! ## Descriptions -/

namespace RouteConfig

/-- The description is in order, and sends requests to the instances of a service. -/
def Names (r : RouteConfig) (service : String) : Prop :=
  ∃ spec policy hashHeader, r.validate = .ok spec ∧ spec.target = .discovery service policy hashHeader

/-- The route is one for a path, or for all paths with a prefix. -/
def GoesByPath (r : RouteConfig) : Prop :=
  r.matchType = "fullMatch" ∨ r.matchType = "prefixMatch"

end RouteConfig

namespace Gateway

variable {g g' : Gateway} {r : RouteConfig}

/-! ## Services after registrations -/

theorem prepare_eq_ok {p : Prepared} (h : g.prepare r = .ok p) :
    r.validate = .ok p.spec ∧
      CompiledMatch.Means g.matchers.custom p.spec.matcher p.compiled := by
  obtain ⟨hspec, hcompiled, -⟩ := prepare_eq_ok_iff.1 h
  exact ⟨hspec, compileMatch_means hcompiled⟩

/-- The compiled match of a route is of the kind that its description names. -/
theorem kind_of_prepare {p : Prepared} (h : g.prepare r = .ok p) :
    r.matchType = "fullMatch" ∧ p.compiled = .full ∨
      r.matchType = "prefixMatch" ∧ p.compiled = .leading ∨
        r.matchType = "exprMatch" ∧ ∃ c, p.compiled = .condition c := by
  obtain ⟨hspec, hmeans⟩ := prepare_eq_ok h
  have hdescribes := RouteConfig.validateMatch_ok (RouteConfig.validate_eq_ok_iff.1 hspec).1
  cases hm : p.spec.matcher with
  | full =>
    rw [hm] at hmeans hdescribes
    cases hc : p.compiled with
    | full => exact .inl ⟨hdescribes, rfl⟩
    | leading => exact (hc ▸ hmeans).elim
    | condition c => exact (hc ▸ hmeans).elim
  | leading =>
    rw [hm] at hmeans hdescribes
    cases hc : p.compiled with
    | full => exact (hc ▸ hmeans).elim
    | leading => exact .inr (.inl ⟨hdescribes, rfl⟩)
    | condition c => exact (hc ▸ hmeans).elim
  | expression e' =>
    rw [hm] at hmeans hdescribes
    cases hc : p.compiled with
    | full => exact (hc ▸ hmeans).elim
    | leading => exact (hc ▸ hmeans).elim
    | condition c => exact .inr (.inr ⟨hdescribes.1, c, rfl⟩)

/-- The table refuses a route only for its path. -/
theorem place_eq_error {p : Prepared} {e : RouteError} (h : g.prepare r = .ok p)
    (hplace : p.place g.table = .error e) :
    r.GoesByPath ∧
      (e = .invalid (.duplicateExact r.path) ∨ e = .invalid (.duplicatePrefix r.path)) := by
  obtain ⟨-, -, -, hpath, -⟩ := RouteConfig.validate_eq_ok_iff.1 (prepare_eq_ok h).1
  unfold Prepared.place at hplace
  rw [hpath] at hplace
  obtain ⟨hkind, hc⟩ | ⟨hkind, hc⟩ | ⟨-, c, hc⟩ := kind_of_prepare h <;> rw [hc] at hplace
  · dsimp only [place, RouteTable.insertExact] at hplace
    split at hplace
    · exact ⟨.inl hkind, .inl (Except.error.inj hplace).symm⟩
    · cases hplace
  · dsimp only [place, RouteTable.insertLeading] at hplace
    split at hplace
    · exact ⟨.inr hkind, .inr (Except.error.inj hplace).symm⟩
    · cases hplace
  · cases hplace

/-- A route for a path that names a service comes as far as the table. -/
theorem prepare_of_names {service : String} (hnames : r.Names service) (hpath : r.GoesByPath) :
    ∃ p, g.prepare r = .ok p := by
  obtain ⟨spec, policy, hashHeader, hspec, htarget⟩ := hnames
  obtain ⟨hmatch, -⟩ := RouteConfig.validate_eq_ok_iff.1 hspec
  have hdescribes := RouteConfig.validateMatch_ok hmatch
  unfold prepare
  rw [hspec]
  dsimp only
  rw [htarget]
  cases hm : spec.matcher with
  | full => exact ⟨_, rfl⟩
  | leading => exact ⟨_, rfl⟩
  | expression e =>
    rw [hm] at hdescribes
    rcases hpath with hpath | hpath
    · exact absurd (hpath.symm.trans hdescribes.1) (by decide)
    · exact absurd (hpath.symm.trans hdescribes.1) (by decide)

theorem mem_noted {target : RouteTarget} {service : String} :
    (∃ kind, (kind, service) ∈ g.noted target) ↔
      service ∈ g.services ∨ ∃ policy hashHeader, target = .discovery service policy hashHeader := by
  rw [mem_services]
  cases target with
  | mock spec => simp [noted]
  | domain targets policy hashHeader => simp [noted]
  | discovery name policy hashHeader =>
    dsimp only [noted, track]
    by_cases hmem : (g.factory.kindFor policy, name) ∈ g.followed
    · rw [if_pos (by simpa using hmem)]
      refine ⟨.inl, ?_⟩
      rintro (h | ⟨_, _, h⟩)
      · exact h
      · obtain ⟨rfl, -⟩ := RouteTarget.discovery.inj h
        exact ⟨_, hmem⟩
    · rw [if_neg (by simpa using hmem)]
      constructor
      · rintro ⟨kind, h⟩
        rcases List.mem_append.1 h with h | h
        · exact .inl ⟨kind, h⟩
        · obtain ⟨-, rfl⟩ := Prod.mk.inj (List.mem_singleton.1 h)
          exact .inr ⟨policy, hashHeader, rfl⟩
      · rintro (⟨kind, h⟩ | ⟨_, _, h⟩)
        · exact ⟨kind, List.mem_append_left _ h⟩
        · obtain ⟨rfl, -⟩ := RouteTarget.discovery.inj h
          exact ⟨_, List.mem_append_right _ List.mem_cons_self⟩

/-- One registration: a service is new if the route names it and was accepted, or would have been but
for its path. -/
theorem mem_services_register (g : Gateway) (r : RouteConfig) (service : String) :
    service ∈ (g.register r).2.services ↔
      service ∈ g.services ∨ r.Names service ∧ ((g.register r).1 = .ok () ∨ r.GoesByPath) := by
  have hnames : ∀ {p : Prepared}, g.prepare r = .ok p →
      ((∃ policy hashHeader, p.spec.target = .discovery service policy hashHeader) ↔
        r.Names service) := by
    intro p hp
    have hspec := (prepare_eq_ok hp).1
    constructor
    · rintro ⟨policy, hashHeader, htarget⟩
      exact ⟨p.spec, policy, hashHeader, hspec, htarget⟩
    · rintro ⟨spec, policy, hashHeader, hspec', htarget⟩
      obtain rfl := Except.ok.inj (hspec.symm.trans hspec')
      exact ⟨policy, hashHeader, htarget⟩
  have hstage := g.register_stages r
  revert hstage
  generalize g.register r = result
  obtain ⟨outcome, after⟩ := result
  intro hstage
  cases hstage with
  | unprepared hp hrouting hfollowed =>
    rw [mem_services, hfollowed, ← mem_services]
    refine ⟨.inl, ?_⟩
    rintro (h | ⟨hnamed, hok | hpath⟩)
    · exact h
    · cases hok
    · obtain ⟨p, hp'⟩ := g.prepare_of_names hnamed hpath
      cases hp.symm.trans hp'
  | taken hp hplace hrouting hfollowed =>
    have hpath := (place_eq_error hp hplace).1
    rw [mem_services, hfollowed, mem_noted, hnames hp]
    simp [hpath]
  | accepted hp hplace hrouting hfollowed =>
    rw [mem_services, hfollowed, mem_noted, hnames hp]
    simp

/-- All registrations: the services are those that there were, and those that routes name which were
accepted, or would have been but for their paths. -/
theorem mem_services_registerAll (rs : List RouteConfig) (g : Gateway) (service : String) :
    service ∈ (registerAll rs g).2.services ↔
      service ∈ g.services ∨
        ∃ p ∈ rs.zip (registerAll rs g).1, p.1.Names service ∧ (p.2 = .ok () ∨ p.1.GoesByPath) := by
  induction rs generalizing g with
  | nil => simp [registerAll]
  | cons r rs ih =>
    rw [registerAll]
    dsimp only
    rw [ih, mem_services_register, List.zip_cons_cons, List.exists_mem_cons_iff]
    exact or_assoc

/-! ## Refused routes -/

/-- The gateways cannot be told apart by their routes: whatever is registered later, the outcomes are the
same, as many routes are counted, and after any lookups the next one finds the same. -/
def ActsLike (g g' : Gateway) : Prop :=
  ∀ later, (registerAll later g).1 = (registerAll later g').1 ∧
    (registerAll later g).2.registered = (registerAll later g').2.registered ∧
    ∀ earlier v, (((registerAll later g).2.afterFinds earlier).find v).1 =
      (((registerAll later g').2.afterFinds earlier).find v).1

theorem actsLike_of_routing (h : g.routing = g'.routing) : g.ActsLike g' := by
  intro later
  obtain ⟨houtcomes, hlast⟩ := registerAll_congr h later
  exact ⟨houtcomes, congrArg Routing.registered hlast, find_afterFinds_congr hlast⟩

/-- A refused route changes neither the routing nor what is watched. -/
theorem register_of_refused {e : ForwardError} (h : (g.register r).1 = .error e) :
    (g.register r).2.routing = g.routing ∧ (g.register r).2.WatchesLike g := by
  have hstage := g.register_stages r
  rw [h] at hstage
  cases hstage with
  | unprepared _ hrouting _ hwatching => exact ⟨hrouting, hwatching⟩
  | taken _ _ hrouting _ hwatching => exact ⟨hrouting, hwatching⟩

/-- A route for a path that names a service is refused only if its path is taken. -/
theorem duplicate_of_refused {e : ForwardError} {service : String}
    (h : (g.register r).1 = .error e) (hnames : r.Names service) (hpath : r.GoesByPath) :
    e = .route (.invalid (.duplicateExact r.path)) ∨
      e = .route (.invalid (.duplicatePrefix r.path)) := by
  have hstage := g.register_stages r
  rw [h] at hstage
  cases hstage with
  | unprepared hp =>
    obtain ⟨p, hp'⟩ := g.prepare_of_names hnames hpath
    cases hp.symm.trans hp'
  | taken hp hplace =>
    rcases (place_eq_error hp hplace).2 with rfl | rfl
    · exact .inl rfl
    · exact .inr rfl

/-- The services change by a refused route exactly if it names a new one and goes by a path. -/
theorem services_ne_iff_of_refused {e : ForwardError} (h : (g.register r).1 = .error e) :
    (g.register r).2.services ≠ g.services ↔
      ∃ service, r.Names service ∧ r.GoesByPath ∧ service ∉ g.services := by
  have hmem := g.mem_services_register r
  rw [h] at hmem
  rw [Ne, services_eq_iff, not_forall]
  constructor
  · rintro ⟨service, hne⟩
    rw [hmem service] at hne
    have hnew : service ∉ g.services := fun hold => hne ⟨fun _ => hold, .inl⟩
    by_contra hnone
    refine hne ⟨?_, .inl⟩
    rintro (hold | ⟨hnames, hok | hpath⟩)
    · exact hold
    · cases hok
    · exact absurd ⟨service, hnames, hpath, hnew⟩ hnone
  · rintro ⟨service, hnames, hpath, hnew⟩
    exact ⟨service, fun hiff => hnew (hiff.1 ((hmem service).2 (.inr ⟨hnames, .inr hpath⟩)))⟩

/-- **A refused route leaves no trace, but for its service if its path was taken.** Later registrations and
lookups go as if the route had not been there. The services are what they were, and the same ones are
followed then, unless the route names a new one and goes by a path; and a route that does is refused since
its path is taken. After any registrations the services are sorted and each is there once, and besides
those that there were they are the services of the accepted routes and of the ones for a taken path. -/
theorem refused_leaves_trace_iff {e : ForwardError} (h : (g.register r).1 = .error e) :
    let refused := (g.register r).2
    refused.ActsLike g ∧
      (refused.services ≠ g.services ↔
        ∃ service, r.Names service ∧ r.GoesByPath ∧ service ∉ g.services) ∧
      (refused.services = g.services → ∀ service,
        refused.follow.2.discovery.Subscribes service ↔ g.follow.2.discovery.Subscribes service) ∧
      (∀ service, r.Names service → r.GoesByPath →
        e = .route (.invalid (.duplicateExact r.path)) ∨
          e = .route (.invalid (.duplicatePrefix r.path))) ∧
      ∀ rs, (registerAll rs g).2.services.Pairwise (· < ·) ∧
        ∀ service, service ∈ (registerAll rs g).2.services ↔
          service ∈ g.services ∨
            ∃ p ∈ rs.zip (registerAll rs g).1,
              p.1.Names service ∧ (p.2 = .ok () ∨ p.1.GoesByPath) := by
  intro refused
  obtain ⟨hrouting, hwatcher, hregistry⟩ := register_of_refused h
  refine ⟨actsLike_of_routing hrouting, services_ne_iff_of_refused h, fun hservices service => ?_,
    fun service hnames hpath => duplicate_of_refused h hnames hpath, fun rs => ?_⟩
  · have hsubscribes : refused.discovery.Subscribes service ↔ g.discovery.Subscribes service := by
      rw [Discovery.Subscribes, Discovery.Subscribes, hwatcher]
    rw [subscribes_follow, subscribes_follow, hsubscribes, hservices, hregistry]
  · exact ⟨services_pairwise _, mem_services_registerAll rs g⟩

/-- A route for `/a` with a fixed answer. -/
def mockRoute : RouteConfig :=
  { matchType := "fullMatch", path := "/a", targetType := "mock",
    mock := some { contentType := "string", body := "a" } }

/-- A route for `/a` to the instances of `users`. -/
def usersRoute : RouteConfig :=
  { matchType := "fullMatch", path := "/a", targetType := "discovery", serviceName := "users" }

/-- A gateway that has accepted the route with the fixed answer. -/
def mockGateway : Gateway :=
  (({ table := { policy := .longest } } : Gateway).register mockRoute).2

theorem refused_leaves_trace_of_taken_path :
    (mockGateway.register usersRoute).1 =
        .error (.route (.invalid (.duplicateExact "/a"))) ∧
      (mockGateway.register usersRoute).2.ActsLike mockGateway ∧
      ((mockGateway.register usersRoute).2.services ≠ mockGateway.services ↔
        ∃ service, usersRoute.Names service ∧ usersRoute.GoesByPath ∧
          service ∉ mockGateway.services) := by
  have hrefused : (mockGateway.register usersRoute).1 =
      .error (.route (.invalid (.duplicateExact "/a"))) := rfl
  obtain ⟨hacts, hservices, -⟩ := refused_leaves_trace_iff hrefused
  exact ⟨hrefused, hacts, hservices⟩

/-- The second route for `/a` is refused, and its service stays. -/
theorem refused_route_leaves_service :
    (mockGateway.register usersRoute).1 =
        .error (.route (.invalid (.duplicateExact "/a"))) ∧
      "users" ∉ mockGateway.services ∧
      "users" ∈ (mockGateway.register usersRoute).2.services := by
  refine ⟨rfl, ?_, ?_⟩
  · have hnone : mockGateway.followed = [] := rfl
    rw [mem_services, hnone]
    simp
  · have hfollowed : (mockGateway.register usersRoute).2.followed = [(.roundRobin, "users")] := rfl
    rw [mem_services, hfollowed]
    exact ⟨.roundRobin, List.mem_cons_self⟩

end Gateway

end TrafficGateway
