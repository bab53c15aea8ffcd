import TrafficGateway.Proofs.Discovery.Cache

/-!
# Serving stale tables

A cache of tables in front of a registry that may do anything: its lists change, fetches fail, and
some lists make no table. Loads, pushes and invalidations come in any order, and between them any time
goes by.

What the cache does is said in terms of this history alone (`ServesStale`, `serves_stale`). The table
of a service stands for its latest list, which is the most recent one that was fetched or pushed and
made a table since the service was invalidated. A service that has a table keeps one, and every new
table puts the next fetch off by a whole time to live, as a refresh that fails does.

## Main definitions

* `CacheStep`, `CacheHistory`: the steps of a cache and its registry, and what is known of a run.
* `CacheHistory.Consistent`: the invariant that ties the entries to the latest lists.
* `CacheHistory.HoldsUntil`: a service has an entry that does not expire before some time.
* `ServesStale`: what the cache promises in a state.
-/

namespace TrafficGateway

/-- A step of a cache or of the registry behind it, or a time that goes by. -/
inductive CacheStep where
  | register (service : String) (instances : List Instance)
  | deregister (service : String)
  | setOutage (service : String) (error : Option BackendError)
  | load (service : String)
  | push (service : String) (instances : List Instance)
  | invalidate (service : String)
  | wait (ms : Nat)

/-- What a load of a service came to. -/
structure CacheLoad where
  service : String
  table : Except BackendError Nat
  outcome : Option RefreshOutcome

/-- A cache, its registry and the time; all loads so far; and for every service the list of the most
recent of its fetches that made a table and its accepted pushes since it was invalidated. -/
structure CacheHistory where
  cache : TableCache
  registry : Registry
  now : Nat
  loads : List CacheLoad := []
  latest : String → Option (List Instance) := fun _ => none

namespace CacheHistory

/-- A run begins with a cache that holds nothing, in front of any registry at any time. -/
def begin (factory : SelectorFactory) (options : TableOptions) (ttl : Nat) (registry : Registry)
    (now : Nat) : CacheHistory where
  cache := { factory, options, ttl }
  registry
  now

/-- A load of a service. -/
def load (h : CacheHistory) (service : String) : TableCache.Loaded :=
  h.cache.load h.now service h.registry

/-- What a fetch of a service brings, if it makes a table. -/
def fetched (h : CacheHistory) (service : String) : Option (List Instance) :=
  (h.registry.answer service).toOption.filter fun is => (h.cache.buildTable is).isOk

/-- Replaces the latest list of a service. -/
def setLatest (h : CacheHistory) (service : String) (instances : Option (List Instance)) :
    CacheHistory :=
  { h with latest := fun s => if service = s then instances else h.latest s }

/-- The history after a load that came to something. It has fetched exactly if it reports an
outcome. -/
def noteLoad (h : CacheHistory) (service : String) (l : TableCache.Loaded) : CacheHistory :=
  let h' : CacheHistory :=
    { h with
      cache := l.cache
      registry := l.registry
      loads := h.loads ++ [⟨service, l.table, l.outcome⟩] }
  match l.outcome with
  | some _ => h'.setLatest service ((h.fetched service).or (h.latest service))
  | none => h'

/-- The history after a push that came to something. -/
def notePush (h : CacheHistory) (service : String) (instances : List Instance) :
    Except BackendError TableCache → CacheHistory
  | .ok cache => { h with cache }.setLatest service (some instances)
  | .error _ => h

/-- The history after a step. -/
def step (h : CacheHistory) : CacheStep → CacheHistory
  | .register s is => { h with registry := h.registry.register s is }
  | .deregister s => { h with registry := h.registry.deregister s }
  | .setOutage s e => { h with registry := h.registry.setOutage s e }
  | .wait ms => { h with now := h.now + ms }
  | .load s => h.noteLoad s (h.load s)
  | .push s is => h.notePush s is (h.cache.update h.now s is)
  | .invalidate s => { h with cache := h.cache.invalidate s }.setLatest s none

/-- The history after some steps. -/
def after (h : CacheHistory) (steps : List CacheStep) : CacheHistory :=
  steps.foldl step h

/-- The outcomes that the refreshes of a service have reported. -/
def outcomes (h : CacheHistory) (service : String) : List RefreshOutcome :=
  (h.loads.filter fun l => l.service == service).filterMap (·.outcome)

end CacheHistory

/-- The time that goes by in some steps. -/
def CacheStep.elapsed : List CacheStep → Nat
  | [] => 0
  | .wait ms :: steps => ms + elapsed steps
  | _ :: steps => elapsed steps

namespace CacheHistory

/-- The invariant: no entry lives longer than a time to live from now, and its table was built from
the latest list of its service. -/
structure Consistent (h : CacheHistory) : Prop where
  bounded : ∀ s entry, h.cache.entries.get? s = some entry → entry.expiresAt ≤ h.now + h.cache.ttl
  latest : ∀ s entry, h.cache.entries.get? s = some entry →
    ∃ is table, h.latest s = some is ∧ h.cache.table? entry.table = some table ∧
      h.cache.buildTable is = .ok table

/-- The service has an entry that does not expire before some time. -/
def HoldsUntil (h : CacheHistory) (service : String) (time : Nat) : Prop :=
  ∃ entry, h.cache.entries.get? service = some entry ∧ time ≤ entry.expiresAt

end CacheHistory

/-- What a cache promises in a state that it has come to from another one. -/
structure ServesStale (start h : CacheHistory) : Prop where
  /-- A load asks the registry, for its service only, exactly if the service has no entry whose expiry
  is later than now. -/
  contacts : ∀ s t, (h.load s).registry.fetchCount t =
    h.registry.fetchCount t + if s = t ∧ ¬h.cache.IsFresh h.now s then 1 else 0
  /-- A service that has an entry can be loaded until it is invalidated. -/
  serves : ∀ s entry, h.cache.entries.get? s = some entry →
    ∀ steps, (∀ st ∈ steps, st ≠ .invalidate s) → ∃ n, ((h.after steps).load s).table = .ok n
  /-- The table that a load gives was built from the latest list and holds it, with its versions
  normalized. -/
  built : ∀ s n, (h.load s).table = .ok n →
    ∃ is table, (h.step (.load s)).latest s = some is ∧
      (h.step (.load s)).cache.table? n = some table ∧
      (h.step (.load s)).cache.buildTable is = .ok table ∧
      table.instances = is.map (·.normalize)
  /-- A refresh that makes no table leaves the old one in place, and puts off the next fetch by a whole
  time to live. -/
  stale : ∀ s entry e, h.cache.entries.get? s = some entry → entry.expiresAt ≤ h.now →
    (h.registry.answer s).bind h.cache.buildTable = .error e →
      (h.load s).table = .ok entry.table ∧
      (h.step (.load s)).cache.tables = h.cache.tables ∧
      (h.step (.load s)).cache.entries.get? s = some ⟨entry.table, h.now + h.cache.ttl⟩ ∧
      ∀ steps, (∀ st ∈ steps, st ≠ .invalidate s) → CacheStep.elapsed steps < h.cache.ttl →
        ((h.step (.load s)).after steps).registry.fetchCount s =
          (h.step (.load s)).registry.fetchCount s
  /-- A refresh that makes a table gives it to the service, for a whole time to live. -/
  refreshed : ∀ s is table, ¬h.cache.IsFresh h.now s → h.registry.answer s = .ok is →
    h.cache.buildTable is = .ok table →
      (h.load s).table = .ok h.cache.nextTable ∧
      (h.step (.load s)).cache.table? h.cache.nextTable = some table ∧
      (h.step (.load s)).cache.entries.get? s = some ⟨h.cache.nextTable, h.now + h.cache.ttl⟩
  /-- So does a push that makes one, whether the old table has expired or not. -/
  accepted : ∀ s is table, h.cache.buildTable is = .ok table →
    (h.step (.push s is)).cache.table? h.cache.nextTable = some table ∧
    (h.step (.push s is)).cache.entries.get? s = some ⟨h.cache.nextTable, h.now + h.cache.ttl⟩
  /-- Until its entry expires nothing is fetched of a service, unless it is invalidated. -/
  quiet : ∀ s entry, h.cache.entries.get? s = some entry →
    ∀ steps, (∀ st ∈ steps, st ≠ .invalidate s) → h.now + CacheStep.elapsed steps < entry.expiresAt →
      (h.after steps).registry.fetchCount s = h.registry.fetchCount s
  /-- A push that makes no table changes nothing. -/
  rejected : ∀ s is e, h.cache.buildTable is = .error e → h.step (.push s is) = h
  /-- Without an entry a refresh that makes no table fails, and there is still no entry. -/
  unavailable : ∀ s e, h.cache.entries.get? s = none →
    (h.registry.answer s).bind h.cache.buildTable = .error e →
      (h.load s).table = .error (.unavailable s e.message) ∧ (h.load s).cache = h.cache
  /-- There were as many fetches as outcomes. -/
  counted : ∀ s, h.registry.fetchCount s = start.registry.fetchCount s + (h.outcomes s).length
  /-- The loads that failed are those whose refreshes did. -/
  failures : ∀ l ∈ h.loads, (∃ e, l.table = .error e) ↔ l.outcome = some .failed

namespace CacheHistory

variable {h : CacheHistory} {s : String}

theorem fetched_of_ok {is : List Instance} {table : ServiceTable}
    (hok : h.registry.answer s = .ok is) (hbuild : h.cache.buildTable is = .ok table) :
    h.fetched s = some is := by
  simp [fetched, hok, hbuild, Except.toOption, Except.isOk, Except.toBool, Option.filter]

theorem fetched_of_error {e : BackendError}
    (hfail : (h.registry.answer s).bind h.cache.buildTable = .error e) : h.fetched s = none := by
  unfold fetched
  cases hanswer : h.registry.answer s with
  | error e => rfl
  | ok is =>
    rw [hanswer] at hfail
    have hbuild : h.cache.buildTable is = .error e := hfail
    simp [Except.toOption, hbuild, Except.isOk, Except.toBool, Option.filter]

/-- A load goes one of its four ways, and is noted. -/
theorem step_load (h : CacheHistory) (s : String) :
    ∃ l, h.cache.LoadCase h.now s h.registry l ∧ h.load s = l ∧
      h.step (.load s) = h.noteLoad s l :=
  ⟨_, h.cache.load_spec h.now s h.registry, rfl, rfl⟩

/-- A push is stored if it makes a table, and otherwise changes nothing. -/
theorem step_push (h : CacheHistory) (s : String) (is : List Instance) :
    (∃ table, h.cache.buildTable is = .ok table ∧
      h.step (.push s is) =
        ({ h with cache := h.cache.store h.now s table } : CacheHistory).setLatest s (some is)) ∨
    (∃ e, h.cache.buildTable is = .error e ∧ h.step (.push s is) = h) := by
  show (∃ table, _ ∧ h.notePush s is ((h.cache.buildTable is).map (h.cache.store h.now s)) = _) ∨
    (∃ e, _ ∧ h.notePush s is ((h.cache.buildTable is).map (h.cache.store h.now s)) = h)
  cases h.cache.buildTable is with
  | ok table => exact .inl ⟨table, rfl, rfl⟩
  | error e => exact .inr ⟨e, rfl, rfl⟩

/-! ## The clock and the way tables are built -/

/-- How tables are built and how long they live stays the same. -/
theorem config_step (h : CacheHistory) (st : CacheStep) :
    (h.step st).cache.buildTable = h.cache.buildTable ∧ (h.step st).cache.ttl = h.cache.ttl := by
  cases st with
  | push s is =>
    obtain ⟨table, -, hstep⟩ | ⟨e, -, hstep⟩ := h.step_push s is <;> rw [hstep] <;> exact ⟨rfl, rfl⟩
  | load s =>
    obtain ⟨l, hcase, -, hstep⟩ := h.step_load s
    rw [hstep]
    cases hcase <;> exact ⟨rfl, rfl⟩
  | _ => exact ⟨rfl, rfl⟩

theorem now_step (h : CacheHistory) (st : CacheStep) :
    (h.step st).now = h.now + CacheStep.elapsed [st] := by
  cases st with
  | push s is =>
    obtain ⟨table, -, hstep⟩ | ⟨e, -, hstep⟩ := h.step_push s is <;> rw [hstep] <;> rfl
  | load s =>
    obtain ⟨l, hcase, -, hstep⟩ := h.step_load s
    rw [hstep]
    cases hcase <;> rfl
  | _ => rfl

theorem elapsed_cons (st : CacheStep) (steps : List CacheStep) :
    CacheStep.elapsed (st :: steps) = CacheStep.elapsed [st] + CacheStep.elapsed steps := by
  cases st <;> simp [CacheStep.elapsed]

/-! ## Entries stand for the latest lists -/

/-- A load that fetched a list which makes a table. -/
theorem noteLoad_of_fetched {is : List Instance} (hfetched : h.fetched s = some is)
    (table : Except BackendError Nat) (outcome : RefreshOutcome) (cache : TableCache)
    (registry : Registry) :
    h.noteLoad s ⟨table, some outcome, cache, registry⟩ =
      ({ h with cache, registry, loads := h.loads ++ [⟨s, table, some outcome⟩] } :
        CacheHistory).setLatest s (some is) := by
  unfold noteLoad
  rw [hfetched]
  rfl

/-- A load that fetched no such list leaves the latest ones. -/
theorem noteLoad_of_not_fetched (hfetched : h.fetched s = none) (table : Except BackendError Nat)
    (outcome : Option RefreshOutcome) (cache : TableCache) (registry : Registry) :
    h.noteLoad s ⟨table, outcome, cache, registry⟩ =
      { h with cache, registry, loads := h.loads ++ [⟨s, table, outcome⟩] } := by
  cases outcome with
  | none => rfl
  | some outcome =>
    have hlatest : (fun t => if s = t then h.latest s else h.latest t) = h.latest := by
      funext t
      split
      · next hst => rw [hst]
      · rfl
    unfold noteLoad
    rw [hfetched]
    show ({ h with cache, registry, loads := _, latest := _ } : CacheHistory) = _
    rw [Option.none_or, hlatest]

theorem consistent_begin (factory : SelectorFactory) (options : TableOptions) (ttl : Nat)
    (registry : Registry) (now : Nat) : (begin factory options ttl registry now).Consistent := by
  constructor <;> rintro s entry ⟨⟩

/-- A new table stands for the list that it was built from. -/
theorem Consistent.store (hc : h.Consistent) {is : List Instance} {table : ServiceTable}
    (hbuild : h.cache.buildTable is = .ok table) (registry : Registry) (loads : List CacheLoad) :
    (({ h with cache := h.cache.store h.now s table, registry, loads } :
      CacheHistory).setLatest s (some is)).Consistent := by
  constructor
  · intro t entry hentry
    have hentry' : (h.cache.store h.now s table).entries.get? t = some entry := hentry
    rw [TableCache.get?_store] at hentry'
    split at hentry'
    · rw [← Option.some.inj hentry']
      exact Nat.le_refl _
    · exact hc.bounded t entry hentry'
  · intro t entry hentry
    have hentry' : (h.cache.store h.now s table).entries.get? t = some entry := hentry
    rw [TableCache.get?_store] at hentry'
    show ∃ js made, (if s = t then some is else h.latest t) = some js ∧
      (h.cache.store h.now s table).table? entry.table = some made ∧ h.cache.buildTable js = .ok made
    rw [TableCache.table?_store]
    split at hentry'
    · next hst =>
      obtain rfl := Option.some.inj hentry'
      exact ⟨is, table, if_pos hst, if_pos rfl, hbuild⟩
    · next hst =>
      -- The tables of the other services have kept their numbers.
      obtain ⟨js, made, hlatest, hmade, hbuilt⟩ := hc.latest t entry hentry'
      have hne : entry.table ≠ h.cache.nextTable := Nat.ne_of_lt (h.cache.table_lt t entry hentry')
      exact ⟨js, made, (if_neg hst).trans hlatest, (if_neg hne).trans hmade, hbuilt⟩

/-- An old table stands for the same list as before when it serves for one more time. -/
theorem Consistent.renew (hc : h.Consistent) {entry : CacheEntry}
    (hentry : h.cache.entries.get? s = some entry) (registry : Registry) (loads : List CacheLoad) :
    ({ h with
        cache := h.cache.renew h.now s entry.table (h.cache.table_lt s entry hentry)
        registry
        loads } : CacheHistory).Consistent := by
  have hget : ∀ t found, (h.cache.renew h.now s entry.table
      (h.cache.table_lt s entry hentry)).entries.get? t = some found →
      (s = t ∧ found = ⟨entry.table, h.now + h.cache.ttl⟩) ∨
        h.cache.entries.get? t = some found := by
    intro t found hfound
    rw [TableCache.get?_renew] at hfound
    split at hfound
    · next hst => exact .inl ⟨hst, (Option.some.inj hfound).symm⟩
    · exact .inr hfound
  constructor
  · intro t found hfound
    rcases hget t found hfound with ⟨-, rfl⟩ | hfound
    · exact Nat.le_refl _
    · exact hc.bounded t found hfound
  · intro t found hfound
    rcases hget t found hfound with ⟨rfl, rfl⟩ | hfound
    · exact hc.latest s entry hentry
    · exact hc.latest t found hfound

theorem Consistent.load (hc : h.Consistent) (s : String) : (h.step (.load s)).Consistent := by
  obtain ⟨l, hcase, -, hstep⟩ := h.step_load s
  rw [hstep]
  cases hcase with
  | fresh hentry hnow => exact ⟨hc.bounded, hc.latest⟩
  | rebuilt hdue hok hbuild =>
    rw [noteLoad_of_fetched (fetched_of_ok hok hbuild)]
    exact hc.store hbuild _ _
  | stale hentry hdue hfail =>
    rw [noteLoad_of_not_fetched (fetched_of_error hfail)]
    exact hc.renew hentry _ _
  | failed hnone hfail =>
    rw [noteLoad_of_not_fetched (fetched_of_error hfail)]
    exact ⟨hc.bounded, hc.latest⟩

theorem Consistent.invalidate (hc : h.Consistent) (s : String) :
    (h.step (.invalidate s)).Consistent := by
  have hget : ∀ t entry, (h.cache.invalidate s).entries.get? t = some entry →
      s ≠ t ∧ h.cache.entries.get? t = some entry := by
    intro t entry hentry
    rw [TableCache.get?_invalidate] at hentry
    split at hentry
    · cases hentry
    · next hst => exact ⟨hst, hentry⟩
  constructor
  · intro t entry hentry
    exact hc.bounded t entry (hget t entry hentry).2
  · intro t entry hentry
    obtain ⟨hst, hentry⟩ := hget t entry hentry
    obtain ⟨is, table, hlatest, hrest⟩ := hc.latest t entry hentry
    exact ⟨is, table, (if_neg hst).trans hlatest, hrest⟩

theorem Consistent.step (hc : h.Consistent) (st : CacheStep) : (h.step st).Consistent := by
  cases st with
  | register s is => exact ⟨hc.bounded, hc.latest⟩
  | deregister s => exact ⟨hc.bounded, hc.latest⟩
  | setOutage s e => exact ⟨hc.bounded, hc.latest⟩
  | wait ms =>
    refine ⟨fun s entry hentry => Nat.le_trans (hc.bounded s entry hentry) ?_, hc.latest⟩
    show h.now + h.cache.ttl ≤ h.now + ms + h.cache.ttl
    omega
  | invalidate s => exact hc.invalidate s
  | push s is =>
    obtain ⟨table, hbuild, hstep⟩ | ⟨e, -, hstep⟩ := h.step_push s is
    · rw [hstep]
      exact hc.store hbuild _ _
    · rwa [hstep]
  | load s => exact hc.load s

theorem Consistent.after (hc : h.Consistent) (steps : List CacheStep) :
    (h.after steps).Consistent :=
  List.foldlRecOn steps CacheHistory.step hc fun _ hc st _ => hc.step st

/-! ## Entries stay until they are invalidated -/

/-- An entry that is kept, or gets a whole time to live, still holds. -/
theorem HoldsUntil.of_get? {time : Nat} (hh : h.HoldsUntil s time)
    (htime : time ≤ h.now + h.cache.ttl) {h' : CacheHistory} {t : String} {n : Nat}
    (hget : h'.cache.entries.get? s =
      if t = s then some ⟨n, h.now + h.cache.ttl⟩ else h.cache.entries.get? s) :
    h'.HoldsUntil s time := by
  by_cases hts : t = s
  · exact ⟨_, hget.trans (if_pos hts), htime⟩
  · obtain ⟨entry, hentry, hle⟩ := hh
    exact ⟨entry, (hget.trans (if_neg hts)).trans hentry, hle⟩

/-- The only step that shortens the life of an entry is an invalidation. -/
theorem HoldsUntil.step {time : Nat} (hh : h.HoldsUntil s time)
    (htime : time ≤ h.now + h.cache.ttl) {st : CacheStep} (hkeep : st ≠ .invalidate s) :
    (h.step st).HoldsUntil s time := by
  cases st with
  | register t is => exact hh
  | deregister t => exact hh
  | setOutage t e => exact hh
  | wait ms => exact hh
  | invalidate t =>
    have hts : t ≠ s := fun hts => hkeep (hts ▸ rfl)
    obtain ⟨entry, hentry, hle⟩ := hh
    exact ⟨entry, ((h.cache.get?_invalidate t s).trans (if_neg hts)).trans hentry, hle⟩
  | push t is =>
    obtain ⟨table, -, hstep⟩ | ⟨e, -, hstep⟩ := h.step_push t is
    · rw [hstep]
      exact hh.of_get? htime (h.cache.get?_store h.now t s table)
    · rwa [hstep]
  | load t =>
    obtain ⟨l, hcase, -, hstep⟩ := h.step_load t
    rw [hstep]
    cases hcase with
    | fresh => exact hh
    | rebuilt => exact hh.of_get? htime (h.cache.get?_store h.now t s _)
    | stale hfound =>
      have hlt := h.cache.table_lt t _ hfound
      exact hh.of_get? htime (h.cache.get?_renew h.now t s _ hlt)
    | failed => exact hh

/-- A time that is at most a whole time to live away stays so. -/
theorem le_step {time : Nat} (htime : time ≤ h.now + h.cache.ttl) (st : CacheStep) :
    time ≤ (h.step st).now + (h.step st).cache.ttl := by
  rw [now_step, (h.config_step st).2]
  omega

theorem HoldsUntil.after {time : Nat} (hh : h.HoldsUntil s time)
    (htime : time ≤ h.now + h.cache.ttl) {steps : List CacheStep}
    (hkeep : ∀ st ∈ steps, st ≠ .invalidate s) : (h.after steps).HoldsUntil s time := by
  induction steps generalizing h with
  | nil => exact hh
  | cons st steps ih =>
    have hst := hh.step htime (hkeep st List.mem_cons_self)
    exact ih hst (le_step htime st) fun st' hmem => hkeep st' (List.mem_cons_of_mem _ hmem)

/-- A service that has an entry is served. -/
theorem HoldsUntil.load_ok {time : Nat} (hh : h.HoldsUntil s time) :
    ∃ n, (h.load s).table = .ok n := by
  obtain ⟨entry, hentry, -⟩ := hh
  obtain ⟨l, hcase, hload, -⟩ := h.step_load s
  rw [hload]
  cases hcase with
  | fresh => exact ⟨_, rfl⟩
  | rebuilt => exact ⟨_, rfl⟩
  | stale => exact ⟨_, rfl⟩
  | failed hnone =>
    rw [hentry] at hnone
    cases hnone

/-! ## Fetches -/

/-- A load asks the registry exactly if there is no fresh entry, and then it reports an outcome. -/
theorem load_registry (h : CacheHistory) (s : String) :
    if h.cache.IsFresh h.now s then (h.load s).registry = h.registry ∧ (h.load s).outcome = none
    else (h.load s).registry = h.registry.counted s ∧ ∃ o, (h.load s).outcome = some o := by
  obtain ⟨l, hcase, hload, -⟩ := h.step_load s
  rw [hload]
  cases hcase with
  | fresh hentry hnow =>
    rw [if_pos ⟨_, hentry, hnow⟩]
    exact ⟨rfl, rfl⟩
  | rebuilt hdue =>
    rw [if_neg hdue]
    exact ⟨rfl, _, rfl⟩
  | stale hentry hdue =>
    rw [if_neg]
    · exact ⟨rfl, _, rfl⟩
    · rintro ⟨found, hfound, hnow⟩
      obtain rfl := Option.some.inj (hentry.symm.trans hfound)
      exact absurd hnow (Nat.not_lt_of_le hdue)
  | failed hnone =>
    rw [if_neg]
    · exact ⟨rfl, _, rfl⟩
    · rintro ⟨found, hfound, -⟩
      rw [hnone] at hfound
      cases hfound

theorem fetchCount_load (h : CacheHistory) (s t : String) :
    (h.load s).registry.fetchCount t =
      h.registry.fetchCount t + if s = t ∧ ¬h.cache.IsFresh h.now s then 1 else 0 := by
  have hload := h.load_registry s
  by_cases hfresh : h.cache.IsFresh h.now s
  · rw [if_pos hfresh] at hload
    rw [hload.1, if_neg fun hst => hst.2 hfresh]
    rfl
  · rw [if_neg hfresh] at hload
    rw [hload.1, Registry.fetchCount_counted]
    simp [hfresh]

theorem registry_step_load (h : CacheHistory) (s : String) :
    (h.step (.load s)).registry = (h.load s).registry := by
  obtain ⟨l, -, hload, hstep⟩ := h.step_load s
  rw [hload, hstep]
  unfold noteLoad
  cases l.outcome <;> rfl

/-- Only loads fetch. -/
theorem fetchCount_step (h : CacheHistory) (st : CacheStep) (s : String)
    (hst : ∀ t, st ≠ .load t) : (h.step st).registry.fetchCount s = h.registry.fetchCount s := by
  cases st with
  | load t => exact absurd rfl (hst t)
  | setOutage t e => cases e <;> rfl
  | push t is =>
    obtain ⟨table, -, hstep⟩ | ⟨e, -, hstep⟩ := h.step_push t is
    · rw [hstep]
      rfl
    · rw [hstep]
  | _ => rfl

/-- Until its entry expires nothing is fetched of a service. -/
theorem HoldsUntil.fetchCount_step {time : Nat} (hh : h.HoldsUntil s time) (hnow : h.now < time)
    (st : CacheStep) : (h.step st).registry.fetchCount s = h.registry.fetchCount s := by
  by_cases hst : ∃ t, st = .load t
  · obtain ⟨t, rfl⟩ := hst
    rw [registry_step_load, fetchCount_load, if_neg]
    · rfl
    · -- A load of the service itself finds the entry fresh.
      rintro ⟨rfl, hdue⟩
      obtain ⟨entry, hentry, hle⟩ := hh
      exact hdue ⟨entry, hentry, Nat.lt_of_lt_of_le hnow hle⟩
  · exact CacheHistory.fetchCount_step h st s fun t heq => hst ⟨t, heq⟩

theorem HoldsUntil.fetchCount_after {time : Nat} (hh : h.HoldsUntil s time)
    (htime : time ≤ h.now + h.cache.ttl) {steps : List CacheStep}
    (hkeep : ∀ st ∈ steps, st ≠ .invalidate s) (hlate : h.now + CacheStep.elapsed steps < time) :
    (h.after steps).registry.fetchCount s = h.registry.fetchCount s := by
  induction steps generalizing h with
  | nil => rfl
  | cons st steps ih =>
    rw [elapsed_cons] at hlate
    have hst := hh.step htime (hkeep st List.mem_cons_self)
    rw [← hh.fetchCount_step (by omega) st]
    refine ih hst (le_step htime st) (fun st' hmem => hkeep st' (List.mem_cons_of_mem _ hmem)) ?_
    rw [now_step]
    omega

/-! ## Outcomes -/

theorem loads_step_load (h : CacheHistory) (s : String) :
    (h.step (.load s)).loads = h.loads ++ [⟨s, (h.load s).table, (h.load s).outcome⟩] := by
  obtain ⟨l, -, hload, hstep⟩ := h.step_load s
  rw [hload, hstep]
  unfold noteLoad
  cases l.outcome <;> rfl

theorem loads_step (h : CacheHistory) (st : CacheStep) (hst : ∀ t, st ≠ .load t) :
    (h.step st).loads = h.loads := by
  cases st with
  | load t => exact absurd rfl (hst t)
  | push t is =>
    obtain ⟨table, -, hstep⟩ | ⟨e, -, hstep⟩ := h.step_push t is
    · rw [hstep]
      rfl
    · rw [hstep]
  | _ => rfl

/-- There was one outcome for each fetch. -/
def Balanced (start h : CacheHistory) : Prop :=
  ∀ s, h.registry.fetchCount s = start.registry.fetchCount s + (h.outcomes s).length

/-- A load fails exactly if its refresh does. -/
def Reported (h : CacheHistory) : Prop :=
  ∀ l ∈ h.loads, (∃ e, l.table = .error e) ↔ l.outcome = some .failed

theorem outcomes_step_load (h : CacheHistory) (t s : String) :
    ((h.step (.load t)).outcomes s).length =
      (h.outcomes s).length + if t = s ∧ ¬h.cache.IsFresh h.now t then 1 else 0 := by
  unfold outcomes
  rw [loads_step_load, List.filter_append, List.filterMap_append, List.length_append]
  congr 1
  have hload := h.load_registry t
  by_cases hts : t = s
  · subst hts
    by_cases hfresh : h.cache.IsFresh h.now t
    · rw [if_pos hfresh] at hload
      simp [hload.2, hfresh]
    · rw [if_neg hfresh] at hload
      obtain ⟨-, o, ho⟩ := hload
      simp [ho, hfresh]
  · simp [hts]

theorem Balanced.step {start : CacheHistory} (hb : Balanced start h) (st : CacheStep) :
    Balanced start (h.step st) := by
  intro s
  by_cases hst : ∃ t, st = .load t
  · obtain ⟨t, rfl⟩ := hst
    rw [registry_step_load, fetchCount_load, outcomes_step_load, hb s, Nat.add_assoc]
  · have hother : ∀ t, st ≠ .load t := fun t heq => hst ⟨t, heq⟩
    unfold outcomes
    rw [h.fetchCount_step st s hother, h.loads_step st hother]
    exact hb s

theorem Reported.step (hr : h.Reported) (st : CacheStep) : (h.step st).Reported := by
  intro l hl
  by_cases hst : ∃ t, st = .load t
  · obtain ⟨t, rfl⟩ := hst
    rw [loads_step_load] at hl
    rcases List.mem_append.1 hl with hl | hl
    · exact hr l hl
    · obtain rfl := List.mem_singleton.1 hl
      obtain ⟨l, hcase, hload, -⟩ := h.step_load t
      rw [hload]
      cases hcase <;> simp
  · rw [h.loads_step st fun t heq => hst ⟨t, heq⟩] at hl
    exact hr l hl

theorem Balanced.after {start : CacheHistory} (hb : Balanced start h) (steps : List CacheStep) :
    Balanced start (h.after steps) :=
  List.foldlRecOn steps CacheHistory.step hb fun _ hb st _ => hb.step st

theorem balanced_begin (start : CacheHistory) (hnone : start.loads = []) :
    Balanced start start := by
  intro s
  unfold outcomes
  rw [hnone]
  rfl

theorem reported_begin (factory : SelectorFactory) (options : TableOptions) (ttl : Nat)
    (registry : Registry) (now : Nat) : (begin factory options ttl registry now).Reported := by
  rintro l ⟨⟩

theorem Reported.after (hr : h.Reported) (steps : List CacheStep) : (h.after steps).Reported :=
  List.foldlRecOn steps CacheHistory.step hr fun _ hr st _ => hr.step st

/-! ## What a load gives -/

/-- The table that a load gives is the one of the entry that it leaves behind. -/
theorem entry_of_load {n : Nat} (hok : (h.load s).table = .ok n) :
    ∃ entry, (h.step (.load s)).cache.entries.get? s = some entry ∧ entry.table = n := by
  obtain ⟨l, hcase, hload, hstep⟩ := h.step_load s
  rw [hload] at hok
  rw [hstep]
  cases hcase with
  | fresh hentry => exact ⟨_, hentry, Except.ok.inj hok⟩
  | rebuilt =>
    exact ⟨_, (h.cache.get?_store h.now s s _).trans (if_pos rfl), Except.ok.inj hok⟩
  | stale hentry =>
    have hlt := h.cache.table_lt s _ hentry
    exact ⟨_, (h.cache.get?_renew h.now s s _ hlt).trans (if_pos rfl), Except.ok.inj hok⟩
  | failed => cases hok

theorem Consistent.built (hc : h.Consistent) {n : Nat} (hok : (h.load s).table = .ok n) :
    ∃ is table, (h.step (.load s)).latest s = some is ∧
      (h.step (.load s)).cache.table? n = some table ∧
      (h.step (.load s)).cache.buildTable is = .ok table ∧
      table.instances = is.map (·.normalize) := by
  obtain ⟨entry, hentry, rfl⟩ := entry_of_load hok
  obtain ⟨is, table, hlatest, htable, hbuild⟩ := (hc.load s).latest s entry hentry
  exact ⟨is, table, hlatest, htable, hbuild, ServiceTable.instances_of_build hbuild⟩

/-- A new table belongs to its service for a whole time to live. -/
theorem table?_entry_store (c : TableCache) (now : Nat) (s : String) (table : ServiceTable) :
    (c.store now s table).table? c.nextTable = some table ∧
      (c.store now s table).entries.get? s = some ⟨c.nextTable, now + c.ttl⟩ :=
  ⟨(c.table?_store now s table _).trans (if_pos rfl), (c.get?_store now s s table).trans (if_pos rfl)⟩

/-- A refresh that makes a table stores it. -/
theorem load_rebuilt {is : List Instance} {table : ServiceTable}
    (hdue : ¬h.cache.IsFresh h.now s) (hok : h.registry.answer s = .ok is)
    (hbuild : h.cache.buildTable is = .ok table) :
    (h.load s).table = .ok h.cache.nextTable ∧
      (h.step (.load s)).cache = h.cache.store h.now s table := by
  obtain ⟨l, hcase, hload, hstep⟩ := h.step_load s
  rw [hload, hstep]
  have hmade : (h.registry.answer s).bind h.cache.buildTable = .ok table := by rw [hok]; exact hbuild
  cases hcase with
  | fresh hentry hnow => exact absurd ⟨_, hentry, hnow⟩ hdue
  | rebuilt _ hok' hbuild' =>
    obtain rfl := Except.ok.inj (hok.symm.trans hok')
    obtain rfl := Except.ok.inj (hbuild.symm.trans hbuild')
    exact ⟨rfl, rfl⟩
  | stale _ _ hfail => exact absurd (hmade.symm.trans hfail) (by simp)
  | failed _ hfail => exact absurd (hmade.symm.trans hfail) (by simp)

/-- A refresh that makes no table goes the stale way if there is an entry. -/
theorem load_stale {entry : CacheEntry} {e : BackendError}
    (hentry : h.cache.entries.get? s = some entry) (hdue : entry.expiresAt ≤ h.now)
    (hfail : (h.registry.answer s).bind h.cache.buildTable = .error e) :
    (h.load s).table = .ok entry.table ∧
      (h.step (.load s)).cache =
        h.cache.renew h.now s entry.table (h.cache.table_lt s entry hentry) := by
  obtain ⟨l, hcase, hload, hstep⟩ := h.step_load s
  rw [hload, hstep]
  cases hcase with
  | fresh hfound hnow =>
    obtain rfl := Option.some.inj (hentry.symm.trans hfound)
    exact absurd hnow (Nat.not_lt_of_le hdue)
  | rebuilt _ hok hbuild =>
    rw [hok] at hfail
    exact absurd (hbuild.symm.trans hfail) (by simp)
  | stale hfound =>
    obtain rfl := Option.some.inj (hentry.symm.trans hfound)
    exact ⟨rfl, rfl⟩
  | failed hnone =>
    rw [hentry] at hnone
    cases hnone

/-- Without an entry it fails, and the cache stays as it is. -/
theorem load_unavailable {e : BackendError} (hnone : h.cache.entries.get? s = none)
    (hfail : (h.registry.answer s).bind h.cache.buildTable = .error e) :
    (h.load s).table = .error (.unavailable s e.message) ∧ (h.load s).cache = h.cache := by
  obtain ⟨l, hcase, hload, -⟩ := h.step_load s
  rw [hload]
  cases hcase with
  | fresh hfound =>
    rw [hnone] at hfound
    cases hfound
  | rebuilt _ hok hbuild =>
    rw [hok] at hfail
    exact absurd (hbuild.symm.trans hfail) (by simp)
  | stale hfound =>
    rw [hnone] at hfound
    cases hfound
  | failed _ hfail' =>
    rw [Except.error.inj (hfail.symm.trans hfail')]
    exact ⟨rfl, rfl⟩

/-- A stale table puts the next fetch off by a whole time to live. -/
theorem fetchCount_after_stale {entry : CacheEntry} {e : BackendError}
    (hentry : h.cache.entries.get? s = some entry) (hdue : entry.expiresAt ≤ h.now)
    (hfail : (h.registry.answer s).bind h.cache.buildTable = .error e) {steps : List CacheStep}
    (hkeep : ∀ st ∈ steps, st ≠ .invalidate s) (hlate : CacheStep.elapsed steps < h.cache.ttl) :
    ((h.step (.load s)).after steps).registry.fetchCount s =
      (h.step (.load s)).registry.fetchCount s := by
  have hcache := (load_stale hentry hdue hfail).2
  have hnow : (h.step (.load s)).now = h.now := h.now_step (.load s)
  have httl : (h.step (.load s)).cache.ttl = h.cache.ttl := (h.config_step (.load s)).2
  have hh : (h.step (.load s)).HoldsUntil s (h.now + h.cache.ttl) := by
    refine ⟨⟨entry.table, h.now + h.cache.ttl⟩, ?_, Nat.le_refl _⟩
    rw [hcache, TableCache.get?_renew, if_pos rfl]
  exact hh.fetchCount_after (by omega) hkeep (by omega)

end CacheHistory

open CacheHistory in
/-- **A cache that serves stale tables** keeps its promises in every state of every run: whatever the
registry does, whatever the time to live is, and in whatever order loads, pushes, invalidations and
times come. -/
theorem serves_stale (factory : SelectorFactory) (options : TableOptions) (ttl : Nat)
    (registry : Registry) (now : Nat) (steps : List CacheStep) :
    let start := begin factory options ttl registry now
    ServesStale start (start.after steps) := by
  intro start
  have hc : (start.after steps).Consistent := (consistent_begin ..).after steps
  have hb : Balanced start (start.after steps) := (balanced_begin start rfl).after steps
  have hr : (start.after steps).Reported := (reported_begin factory options ttl registry now).after steps
  exact
    { contacts := fetchCount_load _
      serves := fun s entry hentry steps' hkeep =>
        (HoldsUntil.after ⟨entry, hentry, Nat.zero_le _⟩ (Nat.zero_le _) hkeep).load_ok
      built := fun s n hok => hc.built hok
      stale := fun s entry e hentry hdue hfail => by
        obtain ⟨htable, hcache⟩ := load_stale hentry hdue hfail
        refine ⟨htable, by rw [hcache]; rfl, ?_, fun steps' hkeep hlate => ?_⟩
        · rw [hcache, TableCache.get?_renew, if_pos rfl]
        · exact fetchCount_after_stale hentry hdue hfail hkeep hlate
      refreshed := fun s is table hdue hok hbuild => by
        obtain ⟨htable, hcache⟩ := load_rebuilt hdue hok hbuild
        rw [hcache]
        exact ⟨htable, table?_entry_store _ _ _ _⟩
      accepted := fun s is table hbuild => by
        obtain ⟨made, hmade, hstep⟩ | ⟨e, hfail, -⟩ := (start.after steps).step_push s is
        · obtain rfl := Except.ok.inj (hbuild.symm.trans hmade)
          rw [hstep]
          exact table?_entry_store _ _ _ _
        · exact absurd (hbuild.symm.trans hfail) (by simp)
      quiet := fun s entry hentry steps' hkeep hlate =>
        HoldsUntil.fetchCount_after ⟨entry, hentry, Nat.le_refl _⟩ (hc.bounded s entry hentry) hkeep
          hlate
      rejected := fun s is e hfail => by
        obtain ⟨table, hbuild, -⟩ | ⟨e', -, hstep⟩ := (start.after steps).step_push s is
        · exact absurd (hbuild.symm.trans hfail) (by simp)
        · exact hstep
      unavailable := fun s e hnone hfail => load_unavailable hnone hfail
      counted := hb
      failures := hr }

end TrafficGateway
