import TrafficGateway.Proofs.Discovery.Loads

/-!
# One step of loads

What a step does to a load, said once for all steps. A load that has joined a flight stays as it is,
goes on or returns (`Loads.Coherent.calls_step`); a load has returned because it found a fresh table or
because of its flight (`Loads.Coherent.returned_of_step`). The entry of a service changes when an answer
is settled, when instances are pushed and when it is taken away (`Loads.Coherent.cache_step`).

## Main definitions

* `Loads.JoinedFlight`: a load waits for a flight or leads it.
* `Loads.Stores`: a load gives its service a new table.
* `Loads.CacheStep`: what can happen to the cache.
-/

namespace TrafficGateway

namespace Loads

variable {s t : Loads} {st : Step} {l m c f n : Nat} {service other : String} {a b : LoadStage}
  {work work' : RefreshStage} {p q : CallPhase TableResult} {v : TableResult}

/-! ## What can happen to a load -/

theorem Calls.unique (h : s.Calls l service work p) (h' : s.Calls l other work' q) :
    service = other ∧ work = work' ∧ p = q := by
  obtain ⟨c, hl, hc⟩ := h
  obtain ⟨d, hl', hd⟩ := h'
  obtain ⟨rfl, hstage⟩ := hl.unique hl'
  cases hstage
  exact ⟨rfl, rfl, (hc.unique hd).2⟩

theorem Calls.not_returned (h : s.Calls l service work p) : ¬s.IsAt l other (.returned v) := by
  obtain ⟨c, hl, -⟩ := h
  exact fun h => nomatch (hl.unique h).2

theorem Coherent.calls_of_isAt (hs : s.Coherent) (hl : s.IsAt l service (.joined c work)) :
    ∃ p, s.Calls l service work p := by
  obtain ⟨p, hc, -⟩ := hs.calls hl
  exact ⟨p, c, hl, hc⟩

theorem Coherent.fits (hs : s.Coherent) (h : s.Calls l service work p) : Fits work p := by
  obtain ⟨c, hl, hc⟩ := h
  obtain ⟨q, hq, hfits⟩ := hs.calls hl
  exact (hc.unique hq).2 ▸ hfits

/-- The caller of one load stays where it is when another load moves. -/
theorem Coherent.isAt_move_of_ne (hs : s.Coherent) (hl : s.IsAt l service (.joined c work))
    (hm : s.IsAt m other a) (hmove : s.Move st m other a b t) (hne : l ≠ m) (k : String)
    (p : CallPhase TableResult) : t.flights.IsAt c k p ↔ s.flights.IsAt c k p := by
  have hother {d work'} (hm : s.IsAt m other (.joined d work')) : c ≠ d :=
    fun hcd => hne (hs.distinct hl (hcd ▸ hm))
  cases hmove with
  | hit | miss | reuse | ask | answer | settle | go => exact Iff.rfl
  | join =>
    refine Flights.isAt_step_of_ne ?_
    rintro rfl
    obtain ⟨q, hq, -⟩ := hs.calls hl
    exact Flights.not_isAt_nextCaller hq
  | finish => exact Flights.isAt_step_of_ne (hother hm)
  | fly flies | land flies =>
    exact Flights.isAt_step_of_ne (flies.mover s.flights ▸ hother hm)

/-- A load that has joined a flight and moves. -/
theorem Coherent.calls_move (hs : s.Coherent) (hl : s.IsAt l service (.joined c work))
    (hc : s.flights.IsAt c service p) (hmove : s.Move st l service (.joined c work) b t) :
    (t.setStage l b).Calls l service work p ∨
      (∃ work' q, s.GoesOn st l service work p work' q ∧
        (t.setStage l b).Calls l service work' q) ∨
      ∃ v, s.Returns st l work p v ∧ (t.setStage l b).IsAt l service (.returned v) := by
  have hself : (t.setStage l b).IsAt l service b :=
    (isAt_setStage hl hmove.loads).2 (.inl ⟨rfl, rfl, rfl⟩)
  have hfits := hs.fits ⟨c, hl, hc⟩
  cases hmove with
  | go early => exact early.elim nofun nofun
  | reuse leads fresh =>
    obtain ⟨f, hf⟩ := hs.leading hl leads
    obtain ⟨-, rfl⟩ := hc.unique hf
    exact .inr (.inl ⟨_, _, .reuse fresh, c, hself, hc⟩)
  | ask leads due =>
    obtain ⟨f, hf⟩ := hs.leading hl leads
    obtain ⟨-, rfl⟩ := hc.unique hf
    exact .inr (.inl ⟨_, _, .ask due, c, hself, hc⟩)
  | answer leads =>
    obtain ⟨f, hf⟩ := hs.leading hl leads
    obtain ⟨-, rfl⟩ := hc.unique hf
    exact .inr (.inl ⟨_, _, .answer, c, hself, hc⟩)
  | settle leads =>
    obtain ⟨f, hf⟩ := hs.leading hl leads
    obtain ⟨-, rfl⟩ := hc.unique hf
    exact .inr (.inl ⟨_, _, .settle, c, hself, hc⟩)
  | finish =>
    obtain hstays | ⟨q, u, hstep, heq⟩ := hc.step (.finish c _)
    · exact .inl ⟨c, hself, hstays⟩
    · cases hstep with
      | wait hjoins | lead hjoins => exact hjoins.elim
      | finish _ hf =>
        obtain ⟨-, rfl⟩ := hc.unique hf
        refine .inr (.inl ⟨_, _, .finish, c, hself, ?_⟩)
        exact heq ▸ Flights.isAt_put_self hc rfl
  | fly flies value =>
    obtain hstays | ⟨q, hq, hgoes⟩ | ⟨v, hreturned, -⟩ := flies.cases hc hfits
    · exact .inl ⟨c, hself, hstays⟩
    · exact .inr (.inl ⟨work, q, hgoes, c, hself, hq⟩)
    · -- A caller with a value would have made the load return.
      rw [value?_eq_some_iff.2 ⟨service, hreturned⟩] at value
      cases value
  | land flies value =>
    obtain ⟨k, hvalue⟩ := value?_eq_some_iff.1 value
    obtain hstays | ⟨q, hq, hgoes⟩ | ⟨w, hreturned, hreturns⟩ := flies.cases hc hfits
    · obtain ⟨-, rfl⟩ := hstays.unique hvalue
      exact hfits.elim
    · obtain ⟨-, rfl⟩ := hq.unique hvalue
      cases hgoes
    · cases (hreturned.unique hvalue).2
      exact .inr (.inr ⟨_, hreturns, hself⟩)

/-- **A load that has joined a flight stays as it is, goes on or returns.** -/
theorem Coherent.calls_step (hs : s.Coherent) (h : s.Calls l service work p) (st : Step) :
    (s.step st).Calls l service work p ∨
      (∃ work' q, s.GoesOn st l service work p work' q ∧ (s.step st).Calls l service work' q) ∨
      ∃ v, s.Returns st l work p v ∧ (s.step st).IsAt l service (.returned v) := by
  obtain ⟨c, hl, hc⟩ := h
  have hdoes := s.does st
  generalize s.step st = u at hdoes
  cases hdoes with
  | nothing | push | invalidate | wait => exact .inl ⟨c, hl, hc⟩
  | arrive => exact .inl ⟨c, isAt_arrive.2 (.inr hl), hc⟩
  | @move _ m other a b t hm hmove =>
    by_cases hlm : l = m
    · subst hlm
      obtain ⟨rfl, rfl⟩ := hl.unique hm
      exact hs.calls_move hl hc hmove
    · exact .inl ⟨c, (isAt_setStage hm hmove.loads).2 (.inr ⟨Ne.symm hlm, hl⟩),
        (hs.isAt_move_of_ne hl hm hmove hlm _ _).2 hc⟩

/-- A load that has returned stays so. -/
theorem returned_step (h : s.IsAt l service (.returned v)) (st : Step) :
    (s.step st).IsAt l service (.returned v) := by
  have hdoes := s.does st
  generalize s.step st = u at hdoes
  cases hdoes with
  | nothing | push | invalidate | wait => exact h
  | arrive => exact isAt_arrive.2 (.inr h)
  | @move _ m other a b t hm hmove =>
    refine (isAt_setStage hm hmove.loads).2 (.inr ⟨?_, h⟩)
    rintro rfl
    obtain ⟨-, rfl⟩ := hm.unique h
    cases hmove with
    | go early => exact early.elim nofun nofun

/-! ## What a load was before -/

/-- A load that has joined a flight had joined one before, or joins one now. -/
theorem isAt_joined_of_step (h : (s.step st).IsAt l service (.joined c work)) :
    (∃ work', s.IsAt l service (.joined c work')) ∨
      st = .join l ∧ s.IsAt l service .missed ∧ c = s.flights.nextCaller ∧ work = .idle ∧
        (s.step st).flights = s.flights.step (.arrive service) := by
  have hdoes := s.does st
  generalize s.step st = u at h hdoes
  cases hdoes with
  | nothing | push | invalidate | wait => exact .inl ⟨work, h⟩
  | arrive =>
    obtain ⟨-, -, hstage⟩ | hold := isAt_arrive.1 h
    · cases hstage
    · exact .inl ⟨work, hold⟩
  | @move _ m other a b t hm hmove =>
    obtain ⟨rfl, rfl, hb⟩ | ⟨-, hold⟩ := (isAt_setStage hm hmove.loads).1 h
    · cases hmove with
      | hit | miss | land | go => cases hb
      | join =>
        cases hb
        exact .inr ⟨rfl, hm, rfl, rfl, rfl⟩
      | reuse | ask | answer | settle | finish | fly =>
        cases hb
        exact .inl ⟨_, hm⟩
    · exact .inl ⟨work, hold⟩

/-- Where a load is that has joined a flight, it was, has gone on from, or joins the flight now. -/
theorem Coherent.calls_of_step (hs : s.Coherent) (h : (s.step st).Calls l service work p) :
    s.Calls l service work p ∨
      (∃ work' q, s.Calls l service work' q ∧ s.GoesOn st l service work' q work p) ∨
      work = .idle ∧ ((∃ f, p = .waiting f ∧ s.flights.registered.get? service = some f) ∨
        p = .leading s.flights.flights.length) := by
  obtain ⟨c, hl, hc⟩ := id h
  obtain ⟨work', hold⟩ | ⟨-, -, rfl, rfl, hflights⟩ := isAt_joined_of_step hl
  · obtain ⟨q, hq⟩ := hs.calls_of_isAt hold
    obtain hstays | ⟨work'', q', hgoes, hnow⟩ | ⟨v, -, hreturned⟩ := hs.calls_step hq st
    · obtain ⟨-, rfl, rfl⟩ := hstays.unique h
      exact .inl hq
    · obtain ⟨-, rfl, rfl⟩ := hnow.unique h
      exact .inr (.inl ⟨work', q, hq, hgoes⟩)
    · exact absurd hreturned h.not_returned
  · refine .inr (.inr ⟨rfl, ?_⟩)
    rw [hflights] at hc
    obtain hold | ⟨t, hmove, -⟩ := Flights.isAt_step hc
    · exact absurd hold Flights.not_isAt_nextCaller
    · cases hmove with
      | wait _ registered => exact .inl ⟨_, rfl, registered⟩
      | lead => exact .inr rfl

/-- A load has returned before, finds a fresh table or has the value of its flight. -/
theorem Coherent.returned_of_step (hs : s.Coherent)
    (h : (s.step st).IsAt l service (.returned v)) :
    s.IsAt l service (.returned v) ∨
      (∃ n, v = .ok n ∧ s.IsAt l service .arrived ∧ s.cache.fresh? s.now service = some n) ∨
      ∃ work p, s.Calls l service work p ∧ s.Returns st l work p v := by
  -- A load that has joined a flight returns through its caller, any other one from the cache.
  by_cases hjoined : ∃ c work, s.IsAt l service (.joined c work)
  · obtain ⟨c, work, hl⟩ := hjoined
    obtain ⟨p, hp⟩ := hs.calls_of_isAt hl
    obtain hstays | ⟨_, _, -, hnow⟩ | ⟨w, hreturns, hreturned⟩ := hs.calls_step hp st
    · exact absurd h hstays.not_returned
    · exact absurd h hnow.not_returned
    · cases (h.unique hreturned).2
      exact .inr (.inr ⟨work, p, hp, hreturns⟩)
  · have hdoes := s.does st
    generalize s.step st = u at h hdoes
    cases hdoes with
    | nothing | push | invalidate | wait => exact .inl h
    | arrive => exact .inl ((isAt_arrive.1 h).resolve_left fun hnew => nomatch hnew.2.2)
    | @move _ m other a b t hm hmove =>
      obtain ⟨rfl, rfl, hb⟩ | ⟨-, hold⟩ := (isAt_setStage hm hmove.loads).1 h
      · cases hmove with
        | hit fresh =>
          cases hb
          exact .inr (.inl ⟨_, rfl, hm, fresh⟩)
        | land => exact absurd ⟨_, _, hm⟩ hjoined
        | miss | go | join | reuse | ask | answer | settle | finish | fly => cases hb
      · exact .inl hold

/-! ## Flights -/

/-- A load waits for a flight or leads it. -/
def JoinedFlight (s : Loads) (l : Nat) (service : String) (f : Nat) : Prop :=
  ∃ work p, s.Calls l service work p ∧ p.flight? = some f

theorem Coherent.keyOf? (hs : s.Coherent) (h : s.JoinedFlight l service f) :
    s.flights.keyOf? f = some service := by
  obtain ⟨work, p, ⟨c, -, hc⟩, hp⟩ := h
  exact hs.flights.key hc hp

theorem Coherent.lt_length (hs : s.Coherent) (h : s.JoinedFlight l service f) :
    f < s.flights.flights.length :=
  Flights.lt_of_keyOf? (hs.keyOf? h)

/-- One flight is led by one load. -/
theorem Coherent.leader_unique (hs : s.Coherent) (h : s.Calls l service work p)
    (hp : p.led? = some f) (h' : s.Calls m other work' q) (hq : q.led? = some f) : l = m := by
  obtain ⟨c, hl, hc⟩ := h
  obtain ⟨d, hm, hd⟩ := h'
  obtain rfl := hs.flights.unique hc hp hd hq
  exact hs.distinct hl hm

/-- The flights are as they were, or have taken a step, by which a caller is cancelled only if a load
is. -/
theorem flights_step (s : Loads) (st : Step) :
    (s.step st).flights = s.flights ∨ ∃ fs, (s.step st).flights = s.flights.step fs ∧
      ∀ c, fs = .cancel c → ∃ l, st = .cancel l := by
  have hdoes := s.does st
  generalize s.step st = u at hdoes
  cases hdoes with
  | nothing | arrive | push | invalidate | wait => exact .inl rfl
  | @move _ _ other _ _ _ _ hmove =>
    cases hmove with
    | hit | miss | reuse | ask | answer | settle | go => exact .inl rfl
    | join => exact .inr ⟨.arrive other, rfl, nofun⟩
    | @finish _ c _ v => exact .inr ⟨.finish c v, rfl, nofun⟩
    | @fly _ _ _ _ _ fs flies | @land _ _ _ _ _ _ fs flies =>
      refine .inr ⟨fs, rfl, ?_⟩
      rintro c rfl
      cases flies
      exact ⟨_, rfl⟩

theorem Coherent.finished_step (hs : s.Coherent)
    (h : s.flights.outcome? f = some (.finished v)) (st : Step) :
    (s.step st).flights.outcome? f = some (.finished v) := by
  obtain hflights | ⟨fs, hflights, -⟩ := s.flights_step st <;> rw [hflights]
  · exact h
  · exact hs.flights.outcome?_step h nofun fs

/-- A flight gets its value from the load that leads it. -/
theorem Coherent.finished_of_step (hs : s.Coherent)
    (h : (s.step st).flights.outcome? f = some (.finished v)) :
    s.flights.outcome? f = some (.finished v) ∨
      ∃ l service, st = .finish l ∧ s.Calls l service (.settled v) (.leading f) := by
  have hdoes := s.does st
  generalize s.step st = u at h hdoes
  cases hdoes with
  | nothing | arrive | push | invalidate | wait => exact .inl h
  | move hl hmove =>
    cases hmove with
    | hit | miss | reuse | ask | answer | settle | go => exact .inl h
    | join =>
      obtain hold | ⟨c, k, hst, -⟩ := Flights.finished_step h
      · exact .inl hold
      · cases hst
    | @finish _ c =>
      obtain hold | ⟨d, k, hst, hd⟩ := Flights.finished_step h
      · exact .inl hold
      · cases hst
        obtain ⟨p, hp, -⟩ := hs.calls hl
        obtain ⟨rfl, rfl⟩ := hp.unique hd
        exact .inr ⟨_, _, rfl, c, hl, hd⟩
    | fly flies | land flies =>
      obtain hold | ⟨c, k, hst, -⟩ := Flights.finished_step h
      · exact .inl hold
      · cases flies <;> cases hst

/-- A flight is registered as it was, or is new. -/
theorem registered_of_step (h : (s.step st).flights.registered.get? service = some f) :
    s.flights.registered.get? service = some f ∨ f = s.flights.flights.length := by
  obtain hflights | ⟨fs, hflights, -⟩ := s.flights_step st <;> rw [hflights] at h
  · exact .inl h
  · exact Flights.registered_of_step h

/-! ## The cache -/

/-- By a step a load hands to the cache an answer that makes a table. -/
def Stores (s : Loads) (st : Step) (l : Nat) (service : String) : Prop :=
  st = .settle l ∧ ∃ given f table, s.Calls l service (.answered given) (.leading f) ∧
    given.bind s.cache.buildTable = .ok table

/-- The cache after a step, and the outcomes that were noted. -/
inductive CacheStep (s : Loads) : Step → TableCache → List (String × RefreshOutcome) → Prop where
  | same {st : Step} : s.CacheStep st s.cache s.outcomes
  | push {service : String} {instances : List Instance} {table : ServiceTable} :
      s.CacheStep (.push service instances) (s.cache.store s.now service table) s.outcomes
  | invalidate {service : String} :
      s.CacheStep (.invalidate service) (s.cache.invalidate service) s.outcomes
  | settle {l f : Nat} {service : String} {given : FetchAnswer} {v : TableResult}
      {outcome : RefreshOutcome} {cache : TableCache}
      (calls : s.Calls l service (.answered given) (.leading f))
      (settles : s.cache.Settles s.now service given v outcome cache) :
      s.CacheStep (.settle l) cache (s.outcomes ++ [(service, outcome)])

/-- The cache changes when instances are pushed, when an entry is taken away and when an answer is
settled. -/
theorem Coherent.cache_step (hs : s.Coherent) (st : Step) :
    s.CacheStep st (s.step st).cache (s.step st).outcomes := by
  have hdoes := s.does st
  generalize s.step st = u at hdoes
  cases hdoes with
  | nothing | arrive | wait => exact .same
  | push => exact .push
  | invalidate => exact .invalidate
  | move hl hmove =>
    cases hmove with
    | settle leads =>
      obtain ⟨f, hc⟩ := hs.leading hl leads
      exact .settle ⟨_, hl, hc⟩ (s.cache.settles ..)
    | hit | miss | join | reuse | ask | answer | finish | fly | land | go => exact .same

variable {cache : TableCache} {outcomes : List (String × RefreshOutcome)}

/-- How long tables live and how they are built never changes. -/
theorem CacheStep.config (h : s.CacheStep st cache outcomes) :
    cache.ttl = s.cache.ttl ∧ cache.buildTable = s.cache.buildTable := by
  cases h with
  | same | push | invalidate => exact ⟨rfl, rfl⟩
  | settle _ settles => cases settles <;> exact ⟨rfl, rfl⟩

theorem Coherent.config_run (hs : s.Coherent) (steps : List Step) :
    (s.run steps).cache.ttl = s.cache.ttl ∧
      (s.run steps).cache.buildTable = s.cache.buildTable := by
  induction steps generalizing s with
  | nil => exact ⟨rfl, rfl⟩
  | cons st steps ih =>
    obtain ⟨httl, hbuild⟩ := ih (hs.step st)
    obtain ⟨httl', hbuild'⟩ := (hs.cache_step st).config
    exact ⟨httl.trans httl', hbuild.trans hbuild'⟩

theorem CacheStep.nextTable_le (h : s.CacheStep st cache outcomes) :
    s.cache.nextTable ≤ cache.nextTable := by
  have hstore (service : String) (table : ServiceTable) :
      s.cache.nextTable ≤ (s.cache.store s.now service table).nextTable := by
    have hnext : (s.cache.store s.now service table).nextTable = s.cache.nextTable + 1 :=
      List.length_append
    omega
  cases h with
  | same | invalidate => exact Nat.le_refl _
  | push => exact hstore _ _
  | settle _ settles =>
    cases settles with
    | made => exact hstore _ _
    | stale | failed => exact Nat.le_refl _

/-- The entry of a service after a step has the table that it had, or a new one. -/
theorem CacheStep.entry (h : s.CacheStep st cache outcomes) {entry : CacheEntry}
    (hentry : cache.entries.get? service = some entry) :
    (∃ old, s.cache.entries.get? service = some old ∧ old.table = entry.table) ∨
      entry.table = s.cache.nextTable ∧
        ((∃ instances, st = .push service instances) ∨ ∃ l, s.Stores st l service) := by
  cases h with
  | same => exact .inl ⟨entry, hentry, rfl⟩
  | push =>
    rw [TableCache.get?_store] at hentry
    split at hentry
    · next hother =>
      subst hother
      cases hentry
      exact .inr ⟨rfl, .inl ⟨_, rfl⟩⟩
    · exact .inl ⟨entry, hentry, rfl⟩
  | invalidate =>
    rw [TableCache.get?_invalidate] at hentry
    split at hentry
    · cases hentry
    · exact .inl ⟨entry, hentry, rfl⟩
  | @settle l f other given _ _ _ calls settles =>
    cases settles with
    | made hmade =>
      rw [TableCache.get?_store] at hentry
      split at hentry
      · next hother =>
        subst hother
        cases hentry
        exact .inr ⟨rfl, .inr ⟨l, rfl, given, f, _, calls, hmade⟩⟩
      · exact .inl ⟨entry, hentry, rfl⟩
    | @stale old _ _ hold =>
      rw [TableCache.get?_renew] at hentry
      split at hentry
      · next hother =>
        subst hother
        cases hentry
        exact .inl ⟨old, hold, rfl⟩
      · exact .inl ⟨entry, hentry, rfl⟩
    | failed => exact .inl ⟨entry, hentry, rfl⟩

/-! ## Single steps -/

theorem leads_of_isAt {k : String} (hc : s.flights.IsAt c k (.leading f)) : s.leads c = true :=
  leads_iff.2 ⟨f, congrArg (Option.map _) hc⟩

/-- Where a load is that has just been put into a stage. -/
theorem calls_setStage (hl : s.IsAt l service a) (ht : t.loads = s.loads)
    (hc : t.flights.IsAt c service p) : (t.setStage l (.joined c work)).Calls l service work p :=
  ⟨c, (isAt_setStage hl ht).2 (.inl ⟨rfl, rfl, rfl⟩), hc⟩

theorem look_due (hl : s.IsAt l service .arrived) (hdue : s.cache.fresh? s.now service = none) :
    (s.step (.look l)).IsAt l service .missed := by
  have hget : s.loads[l]? = some ⟨service, .arrived⟩ := hl
  simp only [step, look, hget, hdue]
  exact (isAt_setStage hl rfl).2 (.inl ⟨rfl, rfl, rfl⟩)

/-- A load that joins while a flight is registered waits for it. -/
theorem join_registered (hl : s.IsAt l service .missed)
    (hf : s.flights.registered.get? service = some f) :
    (s.step (.join l)).Calls l service .idle (.waiting f) := by
  have hget : s.loads[l]? = some ⟨service, .missed⟩ := hl
  simp only [step, join, hget, Flights.arrive, Flights.join, hf]
  exact calls_setStage hl rfl List.getElem?_concat_length

theorem ask_leading (h : s.Calls l service .idle (.leading f)) :
    ∃ work, (s.step (.ask l)).Calls l service work (.leading f) ∧
      (work = .asked ∨ ∃ n, work = .settled (.ok n)) := by
  obtain ⟨c, hl, hc⟩ := h
  have hget : s.loads[l]? = some ⟨service, .joined c .idle⟩ := hl
  cases hfresh : s.cache.fresh? s.now service with
  | some n =>
    refine ⟨_, ?_, .inr ⟨n, rfl⟩⟩
    simp only [step, ask, hget, leads_of_isAt hc, hfresh, if_true]
    exact calls_setStage hl rfl hc
  | none =>
    refine ⟨_, ?_, .inl rfl⟩
    simp only [step, ask, hget, leads_of_isAt hc, hfresh, if_true]
    exact calls_setStage hl rfl hc

theorem answer_leading (h : s.Calls l service .asked (.leading f)) (given : FetchAnswer) :
    (s.step (.answer l given)).Calls l service (.answered given) (.leading f) := by
  obtain ⟨c, hl, hc⟩ := h
  have hget : s.loads[l]? = some ⟨service, .joined c .asked⟩ := hl
  simp only [step, answer, hget, leads_of_isAt hc, if_true]
  exact calls_setStage hl rfl hc

/-- A load that settles an answer leaves what the cache makes of it. -/
theorem settle_leading {given : FetchAnswer}
    (h : s.Calls l service (.answered given) (.leading f)) :
    (s.step (.settle l)).Calls l service (.settled (s.cache.settle s.now service given).1)
        (.leading f) ∧
      (s.step (.settle l)).now = s.now ∧
      (s.step (.settle l)).cache = (s.cache.settle s.now service given).2.2 := by
  obtain ⟨c, hl, hc⟩ := h
  have hget : s.loads[l]? = some ⟨service, .joined c (.answered given)⟩ := hl
  simp only [step, settle, hget, leads_of_isAt hc, if_true]
  exact ⟨calls_setStage hl rfl hc, rfl, rfl⟩

theorem finish_leading (h : s.Calls l service (.settled v) (.leading f))
    (hf : f < s.flights.flights.length) :
    (s.step (.finish l)).flights.outcome? f = some (.finished v) := by
  obtain ⟨c, hl, hc⟩ := h
  have hget : s.loads[l]? = some ⟨service, .joined c (.settled v)⟩ := hl
  have hphase : s.flights.phase? c = some (.leading f) := congrArg (Option.map _) hc
  simp only [step, finish, hget, Flights.finish, hphase]
  rw [Flights.setPhase_eq_put (s := s.flights.setOutcome f (.finished v)) hc,
    Flights.outcome?_put, Flights.outcome?_setOutcome, if_pos ⟨rfl, hf⟩]

/-- A load returns when its caller does. -/
theorem fly_of_value {fs : Flights String TableResult → Nat → Flights String TableResult}
    (hl : s.IsAt l service (.joined c work)) (hvalue : (fs s.flights c).value? c = some v) :
    (s.fly l fs).IsAt l service (.returned v) := by
  have hget : s.loads[l]? = some ⟨service, .joined c work⟩ := hl
  simp only [fly, hget, hvalue]
  exact (isAt_setStage hl rfl).2 (.inl ⟨rfl, rfl, rfl⟩)

theorem leave_finishing (h : s.Calls l service work (.finishing f v)) :
    (s.step (.leave l)).IsAt l service (.returned v) := by
  obtain ⟨c, hl, hc⟩ := h
  refine fly_of_value hl (value?_eq_some_iff.2 ⟨service, ?_⟩)
  have hget : s.flights.callers[c]? = some ⟨service, .finishing f v⟩ := hc
  simp only [Flights.leave, hget]
  have hput := Flights.setPhase_eq_put (s := s.flights.release service) (q := .returned v) hc
  exact hput ▸ Flights.isAt_put_self hc rfl

theorem wake_waiting (h : s.Calls l service work (.waiting f))
    (hf : s.flights.outcome? f = some (.finished v)) :
    (s.step (.wake l)).IsAt l service (.returned v) := by
  obtain ⟨c, hl, hc⟩ := h
  refine fly_of_value hl (value?_eq_some_iff.2 ⟨service, ?_⟩)
  have hput : s.flights.wake c = s.flights.put c ⟨service, .returned v⟩ :=
    Flights.wake_finished hc hf
  exact hput ▸ Flights.isAt_put_self hc rfl

/-- A load that stores a table gives it the next number. -/
theorem Stores.step (h : s.Stores st l service) :
    (s.step st).now = s.now ∧
      (s.step st).cache.entries.get? service = some ⟨s.cache.nextTable, s.now + s.cache.ttl⟩ ∧
      (s.step st).cache.nextTable = s.cache.nextTable + 1 ∧
      ∃ f, (s.step st).Calls l service (.settled (.ok s.cache.nextTable)) (.leading f) := by
  obtain ⟨rfl, given, f, table, hcalls, hmade⟩ := h
  obtain ⟨hsettled, hnow, hcache⟩ := settle_leading hcalls
  rw [TableCache.settle_of_ok hmade] at hsettled hcache
  rw [hcache]
  refine ⟨hnow, ?_, List.length_append, f, hsettled⟩
  exact (TableCache.get?_store ..).trans (if_pos rfl)

end Loads

end TrafficGateway
