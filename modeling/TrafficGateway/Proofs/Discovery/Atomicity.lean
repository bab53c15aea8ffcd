import TrafficGateway.Proofs.Discovery.Loads.Step
import TrafficGateway.Proofs.Discovery.Watcher

/-!
# Failures leave no trace

An operation on a discovery that fails leaves everything as it was but the counts of fetches and the
outcomes of refreshes (`Discovery.failure_leaves`). Some operations have changed something by the time
they fail. A subscription is made before the first fetch, and is withdrawn. A load registers a flight,
and takes the registration away again.

For the flights this is an argument about who holds which registration. The steps of one load leave all
other loads and their callers where they are (`Loads.Spares`). A registration is there exactly as long as
a caller holds it, and a load that has returned holds none: so what is registered is what was registered
before the load began (`Loads.Spares.registered`).

## Main definitions

* `Discovery.Call`, `Discovery.perform`: the operations that can fail.
* `Loads.Step.load?`, `Loads.Spares`: the steps of one load and what they leave alone.
-/

namespace TrafficGateway

namespace Loads

variable {s t u : Loads} {st : Step} {l m c : Nat} {service other k : String} {a b stage : LoadStage}
  {work : RefreshStage} {p : CallPhase TableResult} {v : TableResult}

/-! ## The steps of one load -/

/-- The load that a step names. -/
def Step.load? : Step → Option Nat
  | .look l | .join l | .ask l | .answer l _ | .settle l | .finish l | .leave l | .wake l | .cancel l
  | .giveUp l => some l
  | .arrive _ | .push _ _ | .invalidate _ | .wait _ => none

theorem Move.load? (h : s.Move st l service a b t) : st.load? = some l := by
  cases h with
  | fly flies | land flies => cases flies <;> rfl
  | _ => rfl

/-- What one load leaves alone: the other loads and their callers. -/
structure Spares (s t : Loads) (l : Nat) : Prop where
  loads : ∀ {m k stage}, m ≠ l → (t.IsAt m k stage ↔ s.IsAt m k stage)
  callers : ∀ {m k c work}, m ≠ l → s.IsAt m k (.joined c work) →
    ∀ {k' p}, t.flights.IsAt c k' p ↔ s.flights.IsAt c k' p

theorem Spares.refl (s : Loads) (l : Nat) : s.Spares s l :=
  ⟨fun _ => Iff.rfl, fun _ _ => Iff.rfl⟩

theorem Spares.trans (h : s.Spares t l) (h' : t.Spares u l) : s.Spares u l where
  loads hm := (h'.loads hm).trans (h.loads hm)
  callers hm hc := (h'.callers hm ((h.loads hm).2 hc)).trans (h.callers hm hc)

/-- A step of a load leaves the others alone. -/
theorem Coherent.spares_step (hs : s.Coherent) (hst : st.load? = some l) : s.Spares (s.step st) l := by
  have hdoes := s.does st
  generalize s.step st = u at hdoes
  cases hdoes with
  | nothing => exact .refl s l
  | arrive | push | invalidate | wait => cases hst
  | move hl hmove =>
    obtain rfl := Option.some.inj (hst.symm.trans hmove.load?)
    constructor
    case loads =>
      intro m k stage hm
      rw [isAt_setStage hl hmove.loads]
      exact ⟨fun h => h.elim (fun hsame => absurd hsame.1.symm hm) And.right, fun h => .inr ⟨hm.symm, h⟩⟩
    case callers =>
      intro m k c work hm hc k' p
      exact hs.isAt_move_of_ne hc hl hmove hm k' p

theorem Coherent.spares_run (hs : s.Coherent) {steps : List Step}
    (hsteps : ∀ st ∈ steps, st.load? = some l) : s.Spares (s.run steps) l := by
  induction steps generalizing s with
  | nil => exact .refl s l
  | cons st steps ih =>
    have hst := hs.spares_step (hsteps st List.mem_cons_self)
    exact hst.trans (ih (hs.step st) fun st' hmem => hsteps st' (List.mem_cons_of_mem _ hmem))

/-- **While a load has not joined a flight, or no longer, what is registered is what the others have
registered.** -/
theorem Spares.registered (h : s.Spares t l) (hs : s.Coherent) (ht : t.Coherent)
    (hbefore : ∀ k c work, ¬s.IsAt l k (.joined c work))
    (hafter : ∀ k c work, ¬t.IsAt l k (.joined c work)) (k : String) :
    t.flights.registered.get? k = s.flights.registered.get? k := by
  -- Whoever holds a registration works for a load. That load is another one, so it is left alone.
  refine Option.ext fun f => ?_
  rw [ht.flights.registered, hs.flights.registered]
  constructor
  · rintro ⟨c, p, hc, hp⟩
    obtain ⟨m, work, hm⟩ := ht.owned hc (CallPhase.flight?_of_led? (CallPhase.led?_of_held? hp))
    have hne : m ≠ l := fun hml => hafter k c work (hml ▸ hm)
    exact ⟨c, p, (h.callers hne ((h.loads hne).1 hm)).1 hc, hp⟩
  · rintro ⟨c, p, hc, hp⟩
    obtain ⟨m, work, hm⟩ := hs.owned hc (CallPhase.flight?_of_led? (CallPhase.led?_of_held? hp))
    have hne : m ≠ l := fun hml => hbefore k c work (hml ▸ hm)
    exact ⟨c, p, (h.callers hne hm).2 hc, hp⟩

/-! ## What a load does to the cache -/

/-- A load has a table, or has returned with one. -/
def HasTable (s : Loads) (l : Nat) (service : String) : Prop :=
  ∃ n, (∃ p, s.Calls l service (.settled (.ok n)) p) ∨ s.IsAt l service (.returned (.ok n))

/-- Who has a table goes on having it. -/
theorem Coherent.hasTable_step (hs : s.Coherent) (h : s.HasTable l service) (st : Step) :
    (s.step st).HasTable l service := by
  obtain ⟨n, ⟨p, hcalls⟩ | hreturned⟩ := h
  · obtain hstays | ⟨work, q, hgoes, hnow⟩ | ⟨v, hreturns, hnow⟩ := hs.calls_step hcalls st
    · exact ⟨n, .inl ⟨p, hstays⟩⟩
    · cases hgoes with
      | finish | drop | giveUp => exact ⟨n, .inl ⟨_, hnow⟩⟩
    · cases hreturns with
      | leave => exact ⟨n, .inr hnow⟩
  · exact ⟨n, .inr (returned_step hreturned st)⟩

/-- A load that has no table has not touched the cache by its step. -/
theorem Coherent.cache_step_of_own (hs : s.Coherent) (hl : s.IsAt l service a)
    (hst : st.load? = some l) :
    (s.step st).cache = s.cache ∨ (s.step st).HasTable l service := by
  have hstep := hs.cache_step st
  generalize (s.step st).cache = cache at hstep
  generalize (s.step st).outcomes = outcomes at hstep
  cases hstep with
  | same => exact .inl rfl
  | push | invalidate => cases hst
  | @settle m f other given v outcome _ calls settles =>
    obtain rfl : m = l := Option.some.inj hst
    obtain rfl : other = service := by
      obtain ⟨c, hm, -⟩ := calls
      exact (hm.unique hl).1
    obtain ⟨hsettled, -, -⟩ := settle_leading calls
    -- Of the three ways to settle, the two that touch the cache end with a table.
    cases settles with
    | made hmade =>
      rw [TableCache.settle_of_ok hmade] at hsettled
      exact .inr ⟨_, .inl ⟨_, hsettled⟩⟩
    | stale hfail hentry =>
      rw [TableCache.settle_of_stale hfail hentry] at hsettled
      exact .inr ⟨_, .inl ⟨_, hsettled⟩⟩
    | failed => exact .inl rfl

/-- A load that is there stays there. -/
theorem isAt_step (hl : s.IsAt l service a) (st : Step) : ∃ b, (s.step st).IsAt l service b := by
  have hdoes := s.does st
  generalize s.step st = u at hdoes
  cases hdoes with
  | nothing | push | invalidate | wait => exact ⟨a, hl⟩
  | arrive => exact ⟨a, isAt_arrive.2 (.inr hl)⟩
  | @move _ m other _ b t hm hmove =>
    by_cases hml : m = l
    · subst hml
      obtain ⟨rfl, -⟩ := hm.unique hl
      exact ⟨b, (isAt_setStage hm hmove.loads).2 (.inl ⟨rfl, rfl, rfl⟩)⟩
    · exact ⟨a, (isAt_setStage hm hmove.loads).2 (.inr ⟨hml, hl⟩)⟩

/-- **A load that has no table has not touched the cache.** -/
theorem Coherent.cache_run_of_own (hs : s.Coherent) (hl : s.IsAt l service a) {steps : List Step}
    (hsteps : ∀ st ∈ steps, st.load? = some l) :
    (s.run steps).cache = s.cache ∨ (s.run steps).HasTable l service := by
  induction steps using List.reverseRecOn with
  | nil => exact .inl rfl
  | append_singleton steps st ih =>
    have hcoherent := hs.run steps
    obtain ⟨b, hb⟩ : ∃ b, (s.run steps).IsAt l service b := by
      refine List.foldlRecOn (motive := fun t : Loads => ∃ b, t.IsAt l service b) steps Loads.step
        ⟨a, hl⟩ fun t ht st' _ => ?_
      obtain ⟨b, hb⟩ := ht
      exact isAt_step hb st'
    rw [run_concat]
    obtain hsame | htable := ih fun st' hmem => hsteps st' (List.mem_append_left _ hmem)
    · have hst := hsteps st (List.mem_append_right _ (List.mem_singleton_self st))
      rw [← hsame]
      exact hcoherent.cache_step_of_own hb hst
    · exact .inr (hcoherent.hasTable_step htable st)

/-- **A load that fails leaves no trace.** While nobody else takes a step, a load that comes and returns
with an error leaves the cache, what is registered, the number of flights and all other loads as they
were. -/
theorem Coherent.failed_load_leaves (hs : s.Coherent) {service : String} {steps : List Step}
    (hsteps : ∀ st ∈ steps, st.load? = some s.loads.length) {e : BackendError}
    (hfailed : ((s.arrive service).run steps).IsAt s.loads.length service (.returned (.error e))) :
    let t := (s.arrive service).run steps
    t.cache = s.cache ∧
      (∀ k, t.flights.registered.get? k = s.flights.registered.get? k) ∧
      t.flights.inFlight = s.flights.inFlight ∧
      ∀ l < s.loads.length, t.loads[l]? = s.loads[l]? := by
  intro t
  have hcoherent : (s.arrive service).Coherent := hs.step (.arrive service)
  have harrived : (s.arrive service).IsAt s.loads.length service .arrived :=
    isAt_arrive.2 (.inl ⟨rfl, rfl, rfl⟩)
  have hspares := hcoherent.spares_run hsteps
  have hregistered : ∀ k, t.flights.registered.get? k = s.flights.registered.get? k :=
    hspares.registered hcoherent (hcoherent.run steps)
      (fun k c work h => nomatch (h.unique harrived).2) fun k c work h => nomatch (h.unique hfailed).2
  refine ⟨?_, hregistered, Dict.size_eq_of_get? hregistered, fun l hl => ?_⟩
  · obtain hsame | ⟨n, ⟨p, c, hcalls, -⟩ | hreturned⟩ := hcoherent.cache_run_of_own harrived hsteps
    · exact hsame
    · cases (hcalls.unique hfailed).2
    · cases (hreturned.unique hfailed).2
  · have hget : (s.arrive service).loads[l]? = s.loads[l]? := List.getElem?_append_left hl
    obtain ⟨x, hx⟩ : ∃ x, s.loads[l]? = some x := ⟨_, List.getElem?_eq_getElem hl⟩
    have hbefore : (s.arrive service).IsAt l x.service x.stage := hget.trans hx
    rw [hx]
    exact (hspares.loads (Nat.ne_of_lt hl)).2 hbefore

end Loads

/-! ## Operations on a discovery -/

namespace Discovery

/-- A call of an operation that can fail. A cache that follows a service subscribes itself. -/
inductive Call where
  | update (service : String) (instances : List Instance)
  | push (kind : SelectorKind) (service : String) (instances : List Instance)
  | load (kind : SelectorKind) (service : String)
  | onChange (service : String) (listener : Listener)

/-- Whether a call succeeds, `none` if it is one of a cache that does not exist; what clients are told,
and the state after it. -/
def perform (d : Discovery) :
    Call → Option (Except BackendError Unit) × List Delivery × Discovery
  | .update service instances =>
    match d.registry.update service instances with
    | .ok registry => (some (.ok ()), [], { d with registry })
    | .error e => (some (.error e), [], d)
  | .push kind service instances =>
    let (answer, d) := d.push kind service instances
    (answer, [], d)
  | .load kind service =>
    let (answer, d) := d.load kind service
    (answer.map fun table => table.map fun _ => (), [], d)
  | .onChange service listener =>
    let (answer, delivered, d) := d.onChange service listener
    (some (answer.map fun _ => ()), delivered, d)

variable {d : Discovery} {call : Call} {e : BackendError}

/-- **A call that fails leaves no trace** but a fetch that was counted and an outcome that was noted, and
no client is told of anything. -/
theorem perform_error (h : (d.perform call).1 = some (.error e)) : ∃ fetches outcomes,
    d.perform call =
      (some (.error e), [], { d with registry.fetches := fetches, outcomes := outcomes }) := by
  cases call with
  | update service instances =>
    simp only [perform] at h ⊢
    split at h
    · cases h
    · cases h
      exact ⟨_, _, rfl⟩
  | push kind service instances =>
    simp only [perform, push] at h ⊢
    split at h
    · cases h
    · split at h
      · cases h
      · cases h
        exact ⟨_, _, rfl⟩
  | load kind service =>
    cases hcache : d.caches.get? kind with
    | none => simp [perform, load, hcache] at h
    | some cache =>
      simp only [perform, load, hcache] at h ⊢
      have hcase := cache.load_spec d.now service d.registry
      generalize cache.load d.now service d.registry = loaded at h hcase
      cases hcase with
      | fresh | rebuilt | stale => cases h
      | failed =>
        cases h
        rw [Dict.insert_eq_self hcache]
        exact ⟨_, _, rfl⟩
  | onChange service listener =>
    cases hanswer : d.registry.answer service with
    | ok is => simp [perform, (onChange_ok listener hanswer).1, Except.map] at h
    | error e' =>
      simp only [perform, onChange_error listener hanswer] at h ⊢
      cases h
      exact ⟨_, _, rfl⟩

/-- **Whatever fails leaves no trace.** In every state of a discovery, whatever the registry, the caches,
the watcher and the subscriptions have been through: a call that fails changes nothing but the counts of
fetches and the noted outcomes, and no client is told of anything. Whichever loads are under way with a
cache, a load that comes and fails, by whatever steps of its own, leaves the cache, the registered flights
and their number, and all other loads as they were. -/
theorem failure_leaves :
    (∀ (d : Discovery) (call : Call) (e : BackendError), (d.perform call).1 = some (.error e) →
      ∃ fetches outcomes, d.perform call =
        (some (.error e), [], { d with registry.fetches := fetches, outcomes := outcomes })) ∧
    ∀ (factory : SelectorFactory) (options : TableOptions) (ttl now : Nat) (steps : List Loads.Step)
      (service : String) (own : List Loads.Step) (e : BackendError),
      let s := (Loads.start factory options ttl now).run steps
      let t := (s.arrive service).run own
      (∀ st ∈ own, st.load? = some s.loads.length) →
        t.IsAt s.loads.length service (.returned (.error e)) →
          t.cache = s.cache ∧
            (∀ k, t.flights.registered.get? k = s.flights.registered.get? k) ∧
            t.flights.inFlight = s.flights.inFlight ∧
            ∀ l < s.loads.length, t.loads[l]? = s.loads[l]? := by
  refine ⟨fun d call e h => perform_error h, ?_⟩
  intro factory options ttl now steps service own e s t hown hfailed
  have hs : s.Coherent := (Loads.coherent_start factory options ttl now).run steps
  exact hs.failed_load_leaves hown hfailed

/-- Every call for a service that is not registered, or with an instance that no table can be made of,
fails and leaves the subscriptions, the tables and the services alone. So does a load that leads a flight
and fails while another load leads its own. -/
theorem failure_leaves_others :
    let users : Instance := { address := "10.0.0.1", port := 80 }
    let d : Discovery :=
      { registry := .ofServices [("users", [users])]
        watcher := (({} : Watcher Listener).onChange "users" Listener.client (.ok [users])).2
        caches := Dict.empty.insert .weightedRoundRobin { options.kind := .weightedRoundRobin } }
    let s := (Loads.start {} {} 10000 0).run [.arrive "users", .look 0, .join 0, .ask 0]
    let own : List Loads.Step :=
      [.look 1, .join 1, .ask 1, .answer 1 (.error .noNodes), .settle 1, .finish 1, .leave 1]
    let t := (s.arrive "orders").run own
    (∀ call ∈ [Call.update "orders" [users],
        .push .weightedRoundRobin "orders" [{ users with weight := 0 }],
        .load .weightedRoundRobin "orders", .onChange "orders" .client,
        .onChange "orders" (.cache .weightedRoundRobin)],
      (∃ e, (d.perform call).1 = some (.error e)) ∧ (d.perform call).2.2.watcher = d.watcher ∧
        (d.perform call).2.2.caches = d.caches ∧
        (d.perform call).2.2.registry.services = d.registry.services) ∧
      (∃ e, t.IsAt s.loads.length "orders" (.returned (.error e))) ∧
        t.flights.inFlight = s.flights.inFlight ∧ s.flights.inFlight = 1 := by
  intro users d s own t
  obtain ⟨hcalls, hloads⟩ := failure_leaves
  refine ⟨fun call hcall => ?_, ?_⟩
  · obtain ⟨e, he⟩ : ∃ e, (d.perform call).1 = some (.error e) := by
      simp only [List.mem_cons, List.not_mem_nil, or_false] at hcall
      obtain rfl | rfl | rfl | rfl | rfl := hcall <;> exact ⟨_, rfl⟩
    obtain ⟨fetches, outcomes, hafter⟩ := hcalls d call e he
    rw [hafter]
    exact ⟨⟨e, rfl⟩, rfl, rfl, rfl⟩
  · obtain ⟨e, he⟩ : ∃ e, t.IsAt s.loads.length "orders" (.returned (.error e)) := by
      subst t own s
      exact ⟨_, rfl⟩
    have hown : ∀ st ∈ own, st.load? = some s.loads.length := by
      have hlength : s.loads.length = 1 := rfl
      rw [hlength]
      simp [own, Loads.Step.load?]
    obtain ⟨-, -, hinFlight, -⟩ := hloads {} {} 10000 0 [.arrive "users", .look 0, .join 0, .ask 0]
      "orders" own e hown he
    exact ⟨⟨e, he⟩, hinFlight, rfl⟩

end Discovery

end TrafficGateway
