import TrafficGateway.Proofs.Discovery.Cache
import TrafficGateway.Proofs.Forward.Target
import TrafficGateway.Proofs.Gateway.Following
import TrafficGateway.Proofs.Gateway.Later
import TrafficGateway.Proofs.Gateway.Service

/-!
# How often a service is fetched for requests

Routes whose policies call for the same algorithm share a cache, and a cache that has an entry of a service
does not fetch it again before the entry expires. So what a request costs is bounded by what it leaves behind:
while all goes well (`Discovery.Calm`), every fetch of a service puts an entry of it into a cache that had none,
and no entry goes (`Discovery.Pays`). The number of caches with an entry is a potential: a run of requests,
however many there are and to however many routes, can cost no more fetches than there are caches that could
get an entry, one for every policy that accepted routes to the service have.

## Main definitions

* `Discovery.Calm`: no entry of a service has expired, and a fetch would be answered with a list that makes a
  table.
* `Discovery.held`: how many of some caches have an entry of a service.
* `Gateway.Quiet`: requests that are handled while all goes well, and how many fetches they take.

## Main statements

* `Discovery.pays_load`, `Gateway.pays_respond`: one load, and one request.
* `Gateway.Quiet.fetches_le`: any number of requests, by induction.
* `Gateway.routes_share_discovery`: what this means for the routes of a gateway.
-/

namespace TrafficGateway

/-! ## One cache -/

namespace TableCache

variable {c : TableCache} {now : Nat} {s t : String} {r : Registry}

/-- The answer of the registry makes a table that does not expire at once, and the entry that there is has not
expired. -/
structure Calm (c : TableCache) (now : Nat) (s : String) (answer : FetchAnswer) : Prop where
  builds : ∃ table, answer.bind c.buildTable = .ok table
  lasts : 0 < c.ttl
  unexpired : ∀ entry, c.entries.get? s = some entry → now < entry.expiresAt

theorem contains_iff : c.entries.contains s = true ↔ ∃ entry, c.entries.get? s = some entry := by
  rw [Dict.contains_eq_isSome, Option.isSome_iff_exists]

/-- The registry is asked for the service that is loaded, at most once. -/
theorem registry_load (c : TableCache) (now : Nat) (t : String) (r : Registry) :
    (c.load now t r).registry = r ∨ (c.load now t r).registry = r.counted t := by
  have hload := c.load_spec now t r
  generalize c.load now t r = loaded at hload ⊢
  cases hload with
  | fresh => exact .inl rfl
  | rebuilt => exact .inr rfl
  | stale => exact .inr rfl
  | failed => exact .inr rfl

/-- After a load the service may have a new entry; the others keep theirs. How tables are built and how long
they live stays the same. -/
theorem load_frame (c : TableCache) (now : Nat) (t : String) (r : Registry) (s : String) :
    (c.load now t r).cache.buildTable = c.buildTable ∧ (c.load now t r).cache.ttl = c.ttl ∧
      ((c.load now t r).cache.entries.get? s = c.entries.get? s ∨
        ∃ table, (c.load now t r).cache.entries.get? s = some ⟨table, now + c.ttl⟩) := by
  have hload := c.load_spec now t r
  generalize c.load now t r = loaded at hload ⊢
  cases hload with
  | fresh => exact ⟨rfl, rfl, .inl rfl⟩
  | rebuilt =>
    refine ⟨rfl, rfl, ?_⟩
    rw [get?_store]
    split
    · exact .inr ⟨_, rfl⟩
    · exact .inl rfl
  | stale =>
    refine ⟨rfl, rfl, ?_⟩
    rw [get?_renew]
    split
    · exact .inr ⟨_, rfl⟩
    · exact .inl rfl
  | failed => exact ⟨rfl, rfl, .inl rfl⟩

/-- A load leaves a calm cache calm, whatever service it is of. -/
theorem Calm.load {answer : FetchAnswer} (h : c.Calm now s answer) (t : String) :
    (c.load now t r).cache.Calm now s answer := by
  obtain ⟨hbuild, httl, hentries⟩ := c.load_frame now t r s
  refine ⟨hbuild ▸ h.builds, httl ▸ h.lasts, fun entry hentry => ?_⟩
  rcases hentries with hsame | ⟨table, hnew⟩
  · exact h.unexpired entry (hsame ▸ hentry)
  · -- the entry was made by this load, for a time that is not zero
    obtain rfl := Option.some.inj (hnew.symm.trans hentry)
    exact Nat.lt_add_of_pos_right h.lasts

/-- A load takes no entry away. -/
theorem contains_load (h : c.entries.contains s = true) :
    (c.load now t r).cache.entries.contains s = true := by
  obtain ⟨-, -, hsame | ⟨table, hnew⟩⟩ := c.load_frame now t r s
  · rw [Dict.contains_eq_isSome, hsame, ← Dict.contains_eq_isSome, h]
  · exact contains_iff.2 ⟨_, hnew⟩

/-- A calm cache fetches a service only if it has no entry of it, and has one after that. -/
theorem Calm.load_cost (h : c.Calm now s (r.answer s)) :
    (c.load now s r).registry = r ∨
      (c.load now s r).registry = r.counted s ∧ c.entries.contains s = false ∧
        (c.load now s r).cache.entries.contains s = true := by
  have hload := c.load_spec now s r
  generalize c.load now s r = loaded at hload ⊢
  cases hload with
  | fresh => exact .inl rfl
  | rebuilt hdue =>
    refine .inr ⟨rfl, ?_, contains_iff.2 ⟨_, by rw [get?_store, if_pos rfl]⟩⟩
    rw [Bool.eq_false_iff]
    intro hcontains
    obtain ⟨entry, hentry⟩ := contains_iff.1 hcontains
    exact hdue ⟨entry, hentry, h.unexpired entry hentry⟩
  | stale hentry hdue => exact absurd (h.unexpired _ hentry) (Nat.not_lt.2 hdue)
  | failed _ hfail =>
    obtain ⟨table, hmade⟩ := h.builds
    cases hfail.symm.trans hmade

end TableCache

/-! ## All caches -/

namespace Discovery

variable {d d' d'' : Discovery} {kind : SelectorKind} {kinds : List SelectorKind} {service t : String}

/-- The caches with some algorithms are calm with respect to a service. -/
def Calm (d : Discovery) (service : String) (kinds : List SelectorKind) : Prop :=
  ∀ kind ∈ kinds, ∀ cache, d.caches.get? kind = some cache →
    cache.Calm d.now service (d.registry.answer service)

/-- Has the cache with an algorithm an entry of the service? -/
def holds (d : Discovery) (service : String) (kind : SelectorKind) : Bool :=
  (d.caches.get? kind).any (·.entries.contains service)

/-- How many of the caches with some algorithms have an entry of the service. -/
def held (d : Discovery) (service : String) (kinds : List SelectorKind) : Nat :=
  kinds.countP (d.holds service)

/-- All is calm still, and the fetches of the service that lie between the two are made up for by new
entries. -/
structure Pays (service : String) (kinds : List SelectorKind) (d d' : Discovery) : Prop where
  calm : d'.Calm service kinds
  paid : d'.registry.fetchCount service + d.held service kinds ≤
    d.registry.fetchCount service + d'.held service kinds

theorem Pays.refl (h : d.Calm service kinds) : Pays service kinds d d :=
  ⟨h, Nat.le_refl _⟩

theorem Pays.trans (h : Pays service kinds d d') (h' : Pays service kinds d' d'') :
    Pays service kinds d d'' := by
  have hpaid := h.paid
  have hpaid' := h'.paid
  exact ⟨h'.calm, by omega⟩

/-- Where no entry goes, there are no fewer of them. -/
theorem held_mono (h : ∀ kind ∈ kinds, d.holds service kind = true → d'.holds service kind = true) :
    d.held service kinds ≤ d'.held service kinds :=
  List.countP_mono_left h

/-- Where no entry goes and one comes, there is one more. -/
theorem held_lt (h : ∀ kind ∈ kinds, d.holds service kind = true → d'.holds service kind = true)
    (hmem : kind ∈ kinds) (hold : d.holds service kind = false)
    (hnew : d'.holds service kind = true) :
    d.held service kinds < d'.held service kinds := by
  -- on either side of the new one there are no fewer
  obtain ⟨front, back, rfl⟩ := List.append_of_mem hmem
  have hfront : d.held service front ≤ d'.held service front :=
    held_mono fun k hk => h k (List.mem_append_left _ hk)
  have hback : d.held service back ≤ d'.held service back :=
    held_mono fun k hk => h k (List.mem_append_right _ (List.mem_cons_of_mem _ hk))
  simp only [held, List.countP_append, List.countP_cons, hold, hnew] at *
  simp only [Bool.false_eq_true, if_false, if_true]
  omega

/-! ### One cache changes -/

/-- Only the cache with an algorithm has changed, and which fetches were counted. -/
structure ChangesCache (kind : SelectorKind) (after : TableCache) (d d' : Discovery) : Prop where
  caches : d'.caches = d.caches.insert kind after
  now : d'.now = d.now
  answer : d'.registry.answer = d.registry.answer

variable {cache after : TableCache}

theorem ChangesCache.holds_eq (h : ChangesCache kind after d d') (k : SelectorKind) :
    d'.holds service k = if kind = k then after.entries.contains service else d.holds service k := by
  rw [holds, h.caches, Dict.get?_insert]
  split
  · rfl
  · rfl

/-- It is enough to look at the cache that changes: it is calm if it is among those that are looked at, no
entry goes, and a fetch is paid for by an entry. -/
theorem ChangesCache.pays (h : ChangesCache kind after d d') (hbefore : d.caches.get? kind = some cache)
    (hcalm : d.Calm service kinds)
    (hafter : kind ∈ kinds → after.Calm d.now service (d.registry.answer service))
    (hkept : cache.entries.contains service = true → after.entries.contains service = true)
    (hcost : d'.registry.fetchCount service = d.registry.fetchCount service ∨
      kind ∈ kinds ∧ d'.registry.fetchCount service = d.registry.fetchCount service + 1 ∧
        cache.entries.contains service = false ∧ after.entries.contains service = true) :
    Pays service kinds d d' := by
  have hheld : d.holds service kind = cache.entries.contains service := by
    rw [holds, hbefore]
    rfl
  have hself : d'.holds service kind = after.entries.contains service := by
    rw [h.holds_eq, if_pos rfl]
  have hall : ∀ k ∈ kinds, d.holds service k = true → d'.holds service k = true := by
    intro k _ hk
    rw [h.holds_eq]
    split
    · next heq =>
      subst heq
      exact hkept (hheld ▸ hk)
    · exact hk
  refine ⟨fun k hk c hc => ?_, ?_⟩
  · -- the other caches are as they were, and so is what a fetch would answer
    rw [h.now, h.answer]
    rw [h.caches, Dict.get?_insert] at hc
    split at hc
    · next heq =>
      obtain rfl := Option.some.inj hc
      exact hafter (heq ▸ hk)
    · exact hcalm k hk c hc
  · rcases hcost with hsame | ⟨hmem, hone, hnone, hsome⟩
    · have hmono := held_mono hall
      omega
    · have hmore := held_lt hall hmem (hheld.trans hnone) (hself.trans hsome)
      omega

/-- A load is paid for by an entry, if its cache is among those that are looked at or it is of another
service. -/
theorem pays_load (h : d.Calm service kinds) (hkind : t = service → kind ∈ kinds) :
    Pays service kinds d (d.load kind t).2 := by
  unfold load
  cases hcache : d.caches.get? kind with
  | none => exact .refl h
  | some cache =>
    have hregistry := cache.registry_load d.now t d.registry
    dsimp only
    refine ChangesCache.pays ⟨rfl, rfl, ?_⟩ hcache h
      (fun hmem => (h kind hmem cache hcache).load t) TableCache.contains_load ?_
    · rcases hregistry with heq | heq
      · exact congrArg Registry.answer heq
      · exact (congrArg Registry.answer heq).trans (funext fun _ => Registry.answer_counted ..)
    · -- a load of another service costs nothing here, even if that has to be fetched
      by_cases ht : t = service
      · subst ht
        rcases (h kind (hkind rfl) cache hcache).load_cost with heq | ⟨heq, hnone, hsome⟩
        · exact .inl (congrArg (·.fetchCount t) heq)
        · refine .inr ⟨hkind rfl, ?_, hnone, hsome⟩
          rw [heq, Registry.fetchCount_counted, if_pos rfl]
      · left
        rcases hregistry with heq | heq
        · rw [heq]
        · rw [heq, Registry.fetchCount_counted, if_neg ht, Nat.add_zero]

/-- A choice changes the state of a table, and no entry. -/
theorem pays_chooseFrom (h : d.Calm service kinds) (kind : SelectorKind) (table : Nat)
    (c : RouteContext) : Pays service kinds d (d.chooseFrom kind table c).2 := by
  unfold chooseFrom
  cases hcache : d.caches.get? kind with
  | none => exact .refl h
  | some cache =>
    dsimp only
    cases cache.table? table with
    | none => exact .refl h
    | some chosen =>
      refine ChangesCache.pays ⟨rfl, rfl, rfl⟩ hcache h (fun hmem => ?_) id (.inl rfl)
      obtain ⟨hbuilds, hlasts, hunexpired⟩ := h kind hmem cache hcache
      exact ⟨hbuilds, hlasts, hunexpired⟩

/-- A load takes no count of fetches back. -/
theorem fetchCount_le_load (d : Discovery) (kind : SelectorKind) (t service : String) :
    d.registry.fetchCount service ≤ (d.load kind t).2.registry.fetchCount service := by
  unfold load
  cases d.caches.get? kind with
  | none => exact Nat.le_refl _
  | some cache =>
    dsimp only
    rcases cache.registry_load d.now t d.registry with heq | heq
    · rw [heq]
    · rw [heq, Registry.fetchCount_counted]
      exact Nat.le_add_right _ _

theorem registry_chooseFrom (d : Discovery) (kind : SelectorKind) (table : Nat) (c : RouteContext) :
    (d.chooseFrom kind table c).2.registry = d.registry := by
  unfold chooseFrom
  split
  · rfl
  · split
    · rfl
    · rfl

end Discovery

/-! ## Routes and their policies -/

namespace RouteConfig

/-- The policies of the routes that name a service, each once. -/
def policiesFor (rs : List RouteConfig) (service : String) : List BalancePolicy :=
  (((rs.filterMap discovers?).filter (·.2 = service)).map (·.1)).dedup

theorem mem_policiesFor {rs : List RouteConfig} {service : String} {policy : BalancePolicy} :
    policy ∈ policiesFor rs service ↔ ∃ r ∈ rs, r.discovers? = some (policy, service) := by
  simp [policiesFor]

end RouteConfig

namespace Gateway

variable {g g' : Gateway} {service t : String} {kind : SelectorKind} {kinds : List SelectorKind}
  {n : Nat}

/-- The target of a route that goes to a service has the algorithm that the policy calls for. -/
theorem connect_discovered {target : RouteTarget} {made : TransportTarget × Gateway}
    {hashHeader : Option String} (h : g.connect target = .ok made)
    (hmade : made.1 = .forward (.discovered kind service) hashHeader) :
    ∃ policy, target.discovers? = some (policy, service) ∧ kind = g.factory.kindFor policy := by
  cases target with
  | mock spec =>
    obtain rfl := Except.ok.inj h
    cases hmade
  | domain targets policy header =>
    rw [connect_domain h] at hmade
    cases hmade
  | discovery name policy header =>
    obtain rfl := Except.ok.inj h
    cases hmade
    exact ⟨policy, rfl, rfl⟩

/-- An accepted route got its transport from a gateway with the same factory. -/
theorem factory_of_mem_accepted {rs : List RouteConfig} {a : AcceptedRoute}
    (h : a ∈ g.accepted rs) :
    ∃ before : Gateway, before.factory = g.factory ∧
      before.transportFor a.config = .ok a.transport := by
  obtain ⟨before, -, hfactory, haccept, -⟩ :=
    exists_before_of_mem_accepted (P := fun before => before.factory = g.factory)
      (fun before r hbefore => (before.factory_register r).trans hbefore) rfl h
  exact ⟨before, hfactory, (accept?_eq_some haccept).2⟩

/-- The routes of a table go to a service only by way of the caches with some algorithms. -/
def GoesBy (table : RouteTable Transport) (service : String) (kinds : List SelectorKind) : Prop :=
  ∀ v cache t kind hashHeader, (table.find v cache).payload = some t →
    t.target = .forward (.discovered kind service) hashHeader → kind ∈ kinds

/-- The algorithms are those that the policies of the accepted routes to the service call for. -/
theorem goesBy_registerAll (g : Gateway) (policy : MatchPolicy) (rs : List RouteConfig)
    (service : String) :
    let start := g.withoutRoutes policy
    GoesBy (registerAll rs start).2.table service
      ((RouteConfig.policiesFor ((start.accepted rs).map (·.config)) service).map
        start.factory.kindFor) := by
  intro start v cache t kind hashHeader hfound htarget
  have hreflects : Reflects policy g.matchers.custom (registerAll rs start).2.table
    (start.accepted rs) := reflects_registerAll rs start (.initial policy _)
  -- what is found is the transport of an accepted route, which it got when that was registered
  obtain ⟨a, ha, rfl, -⟩ := leads_of_claimed (hfound ▸ hreflects.claimed v cache)
  obtain ⟨before, hfactory, htransport⟩ := factory_of_mem_accepted ha
  obtain ⟨spec, made, hspec, hmade, ht⟩ := transportFor_ok htransport
  rw [ht] at htarget
  obtain ⟨called, hcalled, rfl⟩ := connect_discovered hmade htarget
  have hconfig : a.config.discovers? = some (called, service) := by
    rw [RouteConfig.discovers?, hspec]
    exact hcalled
  rw [hfactory]
  exact List.mem_map_of_mem
    (RouteConfig.mem_policiesFor.2 ⟨a.config, List.mem_map_of_mem ha, hconfig⟩)

/-! ## One request -/

/-- How often a service is fetched while a request is handled. -/
def fetchesFor (g : Gateway) (backends : Backends) (r : Request) (service : String) : Nat :=
  (g.respond backends r).2.discovery.registry.fetchCount service -
    g.discovery.registry.fetchCount service

/-- To choose an instance of a service is to load the table, and then to choose from it if there is one. -/
theorem discovery_resolveDiscovered (g : Gateway) (kind : SelectorKind) (t : String)
    (c : RouteContext) :
    (g.resolveDiscovered kind t c).2.discovery = (g.discovery.load kind t).2 ∨
      ∃ table, (g.resolveDiscovered kind t c).2.discovery =
        ((g.discovery.load kind t).2.chooseFrom kind table c).2 := by
  unfold resolveDiscovered
  split
  · next heq =>
    rw [heq]
    exact .inl rfl
  · next heq =>
    rw [heq]
    exact .inl rfl
  · next table discovery heq =>
    refine .inr ⟨table, ?_⟩
    rw [heq]
    dsimp only
    split
    · next hchoose => rw [hchoose]
    · next hchoose => rw [hchoose]

theorem discovery_resolveFixed (g : Gateway) (place : Nat) (c : RouteContext) :
    (g.resolveFixed place c).2.discovery = g.discovery := by
  unfold resolveFixed
  split
  · rfl
  · rfl

/-- What lookups of tables and choices from them keep is kept when a backend is chosen. -/
theorem resolve_keeps_discovery {P : Discovery → Prop} {source : BackendSource}
    (hload : ∀ kind t, source = .discovered kind t → ∀ d, P d → P (d.load kind t).2)
    (hchoose : ∀ kind table c d, P d → P (d.chooseFrom kind table c).2) (c : RouteContext)
    (g : Gateway) (h : P g.discovery) : P (resolve source c g).2.discovery := by
  cases source with
  | fixed place => exact (g.discovery_resolveFixed place c).symm ▸ h
  | discovered kind t =>
    have hloaded := hload kind t rfl _ h
    rcases g.discovery_resolveDiscovered kind t c with heq | ⟨table, heq⟩
    · exact heq.symm ▸ hloaded
    · exact heq.symm ▸ hchoose kind table c _ hloaded

/-- What the lookups of tables that the routes of a gateway ask for, and choices from tables, keep is kept when
a request is handled. -/
theorem respond_keeps_discovery {P : Discovery → Prop}
    (hload : ∀ v cache transport kind t hashHeader,
      (g.table.find v cache).payload = some transport →
        transport.target = .forward (.discovered kind t) hashHeader →
        ∀ d, P d → P (d.load kind t).2)
    (hchoose : ∀ kind table c d, P d → P (d.chooseFrom kind table c).2) (h : P g.discovery)
    (backends : Backends) (r : Request) : P (g.respond backends r).2.discovery := by
  cases hfound : (g.find r.head.view).1 with
  | none =>
    rw [Service.respond_of_unclaimed hfound]
    exact h
  | some transport =>
    rw [Service.respond_of_claimed hfound]
    refine handle_keeps_of_source (g := (g.find r.head.view).2) (P := fun later => P later.discovery)
      ?_ h backends r
    intro source hashHeader htarget c later hlater
    refine resolve_keeps_discovery (fun kind t hsource => ?_) hchoose c later hlater
    exact hload _ _ transport kind t hashHeader hfound (hsource ▸ htarget)

/-- While all is calm, a request is paid for by entries. -/
theorem pays_respond (hasks : GoesBy g.table service kinds) (hcalm : g.discovery.Calm service kinds)
    (backends : Backends) (r : Request) :
    Discovery.Pays service kinds g.discovery (g.respond backends r).2.discovery := by
  refine respond_keeps_discovery ?_ ?_ (.refl hcalm) backends r
  · intro v cache transport kind t hashHeader hfound htarget d hd
    refine hd.trans (Discovery.pays_load hd.calm ?_)
    rintro rfl
    exact hasks v cache transport kind hashHeader hfound htarget
  · intro kind table c d hd
    exact hd.trans (Discovery.pays_chooseFrom hd.calm kind table c)

/-- Fetches are counted, and no count is ever taken back. -/
theorem fetchCount_respond (g : Gateway) (backends : Backends) (r : Request) (service : String) :
    (g.respond backends r).2.discovery.registry.fetchCount service =
      g.discovery.registry.fetchCount service + g.fetchesFor backends r service := by
  have hmono : g.discovery.registry.fetchCount service ≤
      (g.respond backends r).2.discovery.registry.fetchCount service := by
    refine respond_keeps_discovery
      (P := fun d => g.discovery.registry.fetchCount service ≤ d.registry.fetchCount service)
      ?_ ?_ (Nat.le_refl _) backends r
    · intro v cache transport kind t hashHeader _ _ d hd
      exact hd.trans (d.fetchCount_le_load kind t service)
    · intro kind table c d hd
      rw [d.registry_chooseFrom]
      exact hd
  exact (Nat.add_sub_of_le hmono).symm

/-! ## Many requests -/

/-- The gateway after a request is a later one. -/
theorem Later.respond (h : Later g g') (backends : Backends) (r : Request) :
    Later g (g'.respond backends r).2 := by
  cases hfound : (g'.find r.head.view).1 with
  | none =>
    rw [Service.respond_of_unclaimed hfound]
    exact .find h _
  | some transport =>
    rw [Service.respond_of_claimed hfound]
    exact .handle (.find h _) backends transport r

/-- `Quiet service kinds g n g'`: requests were handled from `g` on to `g'`, of whatever routes and to whatever
backends, which took `n` fetches of the service. Before each of them the caches with the algorithms were calm:
no entry of the service has expired, and the registry would answer with a list that makes a table. Between
them anything can happen to what is discovered, the time included, as long as no entry of the service
goes. -/
inductive Quiet (service : String) (kinds : List SelectorKind) (g : Gateway) :
    Nat → Gateway → Prop where
  | start : Quiet service kinds g 0 g
  | request {n : Nat} {g' : Gateway} (h : Quiet service kinds g n g')
      (hcalm : g'.discovery.Calm service kinds) (backends : Backends) (r : Request) :
      Quiet service kinds g (n + g'.fetchesFor backends r service) (g'.respond backends r).2
  | meanwhile {n : Nat} {g' : Gateway} (h : Quiet service kinds g n g') (d : Discovery)
      (hkept : ∀ kind ∈ kinds, g'.discovery.holds service kind = true → d.holds service kind = true) :
      Quiet service kinds g n { g' with discovery := d }

theorem Quiet.later (h : Quiet service kinds g n g') : Later g g' := by
  induction h with
  | start => exact .now
  | request _ _ backends r ih => exact ih.respond backends r
  | meanwhile _ d _ ih => exact .discover ih d

/-- **A run of requests takes no more fetches than it leaves new entries.** -/
theorem Quiet.fetches_le (h : Quiet service kinds g n g') (hasks : GoesBy g.table service kinds) :
    n + g.discovery.held service kinds ≤ g'.discovery.held service kinds := by
  induction h with
  | start => exact Nat.le_of_eq (Nat.zero_add _)
  | @request n before h hcalm backends r ih =>
    -- the routes are still those of the start
    have hpaid := (pays_respond (h.later.table_eq.symm ▸ hasks) hcalm backends r).paid
    rw [fetchCount_respond] at hpaid
    omega
  | meanwhile _ d hkept ih => exact ih.trans (Discovery.held_mono hkept)

/-- The gateway after some requests. -/
def afterRequests (g : Gateway) (requests : List (Backends × Request)) : Gateway :=
  requests.foldl (fun g x => (g.respond x.1 x.2).2) g

/-- As long as nothing else happens all remains calm, so that any requests in a row go on with a quiet run. -/
theorem Quiet.afterRequests (h : Quiet service kinds g n g') (hasks : GoesBy g.table service kinds)
    (hcalm : g'.discovery.Calm service kinds) (requests : List (Backends × Request)) :
    ∃ m, Quiet service kinds g (n + m) (g'.afterRequests requests) ∧
      (g'.afterRequests requests).discovery.registry.fetchCount service =
        g'.discovery.registry.fetchCount service + m := by
  induction requests generalizing n g' with
  | nil => exact ⟨0, h, rfl⟩
  | cons x requests ih =>
    obtain ⟨backends, r⟩ := x
    have hnext := pays_respond (h.later.table_eq.symm ▸ hasks) hcalm backends r
    obtain ⟨m, hquiet, hcount⟩ := ih (h.request hcalm backends r) hnext.calm
    refine ⟨g'.fetchesFor backends r service + m, ?_, ?_⟩
    · rw [← Nat.add_assoc]
      exact hquiet
    · rw [← Nat.add_assoc, ← fetchCount_respond]
      exact hcount

/-! ## The routes of a gateway -/

/-- **Routes share what is discovered.** Whatever happened to a gateway after its routes were registered, any
number of requests that are handled while all goes well take no more fetches of a service than there are
policies among the accepted routes that name the service; and to follow the services is to attempt one
subscription for each pair of a policy and a service. The pairs are those of the accepted routes, if no route
was refused for its path, and otherwise those of such routes too. -/
theorem routes_share_discovery (g : Gateway) (policy : MatchPolicy) (rs : List RouteConfig)
    (hnew : g.followed = []) :
    let start := g.withoutRoutes policy
    let built := (registerAll rs start).2
    let routes := (start.accepted rs).map (·.config)
    (routes.Sublist (connected rs start) ∧
        (¬TakesPaths (registerAll rs start).1 → connected rs start = routes)) ∧
      ∀ later, Later built later →
        FollowsOnce g.factory (RouteConfig.pairs (connected rs start)) later.discovery
            later.follow.1 later.follow.2.discovery ∧
          ∀ service n after,
            Quiet service ((RouteConfig.policiesFor routes service).map g.factory.kindFor)
              later n after →
            n ≤ (RouteConfig.policiesFor routes service).length := by
  intro start built routes
  refine ⟨⟨accepted_sublist_connected rs start, connected_eq_accepted⟩, fun later hlater => ⟨?_, ?_⟩⟩
  · have hfollows := follow_followsOnce (g := start) hnew rs later.discovery
    rw [← hlater.frame.2] at hfollows
    exact hfollows
  · intro service n after hquiet
    let kinds := (RouteConfig.policiesFor routes service).map g.factory.kindFor
    have hasks : GoesBy later.table service kinds :=
      hlater.table_eq.symm ▸ goesBy_registerAll g policy rs service
    have hle := hquiet.fetches_le hasks
    have hheld : after.discovery.held service kinds ≤ kinds.length := List.countP_le_length
    rw [List.length_map] at hheld
    exact (Nat.le_add_right _ _).trans (hle.trans hheld)

/-- A gateway that knows one instance of `users`. -/
def usersGateway : Gateway :=
  { emptyGateway with
    discovery.registry := .ofServices [("users", [{ address := "10.0.0.1", port := 80 }])] }

/-- Three routes to `users`, two of which have the same policy. -/
def usersRoutes : List RouteConfig :=
  [usersRoute, { usersRoute with path := "/b" },
    { usersRoute with path := "/c", policy := "weighted_round_robin" }]

/-- Two requests for each of the routes. -/
def usersRequests : List (Backends × Request) :=
  ["/a", "/b", "/c", "/a", "/b", "/c"].map fun path =>
    (.unreachable, { head := { uri := { target := ⟨path, none⟩ } } })

/-- Six requests to three routes take two fetches, and there are two subscriptions. -/
theorem users_share_discovery :
    let start := usersGateway.withoutRoutes .longest
    let built := (registerAll usersRoutes start).2
    let policies := RouteConfig.policiesFor ((start.accepted usersRoutes).map (·.config)) "users"
    usersGateway.followed = [] ∧ policies = [.roundRobin, .weightedRoundRobin] ∧
      Quiet "users" (policies.map usersGateway.factory.kindFor) built 2
        (built.afterRequests usersRequests) ∧
      2 ≤ policies.length ∧ built.follow.1 = 2 := by
  intro start built policies
  let kinds := policies.map usersGateway.factory.kindFor
  have hpolicies : policies = [.roundRobin, .weightedRoundRobin] := by decide +kernel
  have hkinds : kinds = [.roundRobin, .weightedRoundRobin] := congrArg (List.map _) hpolicies
  have hasks : GoesBy built.table "users" kinds := goesBy_registerAll usersGateway .longest _ _
  have hcalm : built.discovery.Calm "users" kinds := by
    intro kind hkind cache hcache
    rw [hkinds] at hkind
    -- the caches are new, and the registry knows the service
    have hfresh : cache = start.freshCache kind := by
      rcases List.mem_pair.1 hkind with rfl | rfl
      · exact (Option.some.inj hcache).symm
      · exact (Option.some.inj hcache).symm
    subst hfresh
    rcases List.mem_pair.1 hkind with rfl | rfl
    · exact ⟨⟨_, rfl⟩, by decide, nofun⟩
    · exact ⟨⟨_, rfl⟩, by decide, nofun⟩
  obtain ⟨m, hquiet, hcount⟩ := Quiet.start.afterRequests hasks hcalm usersRequests
  have hcounts : (built.afterRequests usersRequests).discovery.registry.fetchCount "users" = 2 ∧
      built.discovery.registry.fetchCount "users" = 0 := by decide +kernel
  obtain rfl : m = 2 := by omega
  obtain ⟨-, hlater⟩ := routes_share_discovery usersGateway .longest usersRoutes rfl
  obtain ⟨hfollows, hfetches⟩ := hlater built .now
  refine ⟨rfl, hpolicies, hquiet, hfetches "users" 2 _ hquiet, hfollows.number.trans ?_⟩
  decide +kernel

end Gateway

end TrafficGateway
