import TrafficGateway.Proofs.Discovery.Loads.Values

/-!
# One fetch for many loads

Loads of one service at the same time do not each ask the registry: of those that share a flight one
asks, and all of them return with what comes of it. That holds in every order of their steps
(`Loads.run_sharesFetches`). It rests on the second look of a leader: a load that has found no fresh
table may lead a flight much later, and only asks if there still is none then.

A fetch whose list makes no table leaves nothing behind, and so nothing keeps the next load from asking
again; the same is true for those who have looked in vain but not yet joined the flight when it ends
without a table. Cancelled leaders are in nobody's way, but their fetches are lost.

## Main definitions

* `Loads.Fetching`, `Loads.Asks`: a fetch is in progress; a step begins one.
* `Loads.renewals`: how many fetches have ended with a new table.
* `Loads.Lasts`: during some steps no fresh entry of a service is lost.
* `Loads.Shares`: a load is with a flight, or has returned with its value.
* `Loads.SharesFetches`: what holds of all runs.
-/

namespace TrafficGateway

namespace Loads

variable {s : Loads} {st : Step} {l m f n : Nat} {service : String} {work : RefreshStage}
  {p : CallPhase TableResult} {v : TableResult} {rest steps : List Step}

/-! ## Fetches -/

/-- A load leads a flight, has asked the registry, and has not handed an answer to the cache. -/
def Fetching (s : Loads) (l : Nat) (service : String) : Prop :=
  ∃ work f, s.Calls l service work (.leading f) ∧ (work = .asked ∨ ∃ given, work = .answered given)

/-- By a step, a load that leads a flight asks the registry. -/
def Asks (s : Loads) (st : Step) (l : Nat) (service : String) : Prop :=
  st = .ask l ∧ (∃ f, s.Calls l service .idle (.leading f)) ∧
    s.cache.fresh? s.now service = none

/-- No two loads of a service lead a flight. -/
theorem Coherent.leading_unique {work' : RefreshStage} {g : Nat} (hs : s.Coherent)
    (h : s.Calls l service work (.leading f)) (h' : s.Calls m service work' (.leading g)) :
    l = m := by
  obtain ⟨c, hl, hc⟩ := h
  obtain ⟨d, hm, hd⟩ := h'
  have hf := hs.flights.registered.2 ⟨c, _, hc, rfl⟩
  have hg := hs.flights.registered.2 ⟨d, _, hd, rfl⟩
  cases hf.symm.trans hg
  exact hs.leader_unique ⟨c, hl, hc⟩ rfl ⟨d, hm, hd⟩ rfl

theorem Coherent.fetching_unique (hs : s.Coherent) (h : s.Fetching l service)
    (h' : s.Fetching m service) : l = m := by
  obtain ⟨work, f, hl, -⟩ := h
  obtain ⟨work', g, hm, -⟩ := h'
  exact hs.leading_unique hl hm

/-- Nobody fetches for a service while a load leads its flight and has settled an answer. -/
theorem Coherent.not_fetching_of_settled (hs : s.Coherent)
    (h : s.Calls l service (.settled v) (.leading f)) : ¬s.Fetching m service := by
  rintro ⟨work, g, hm, hwork⟩
  -- Whoever leads is the one that has settled.
  obtain rfl := hs.leading_unique h hm
  obtain ⟨-, rfl, -⟩ := h.unique hm
  exact hwork.elim nofun nofun

/-- A fetch that is in progress was so before, or begins now. -/
theorem Coherent.fetching_of_step (hs : s.Coherent) (h : (s.step st).Fetching l service) :
    s.Fetching l service ∨ s.Asks st l service := by
  obtain ⟨work, f, hcalls, hwork⟩ := h
  obtain hold | ⟨work', q, hold, hgoes⟩ | ⟨rfl, -⟩ := hs.calls_of_step hcalls
  · exact .inl ⟨work, f, hold, hwork⟩
  · cases hgoes with
    | ask due => exact .inr ⟨rfl, ⟨f, hold⟩, due⟩
    | answer => exact .inl ⟨.asked, f, hold, .inl rfl⟩
    | reuse | settle | lead => exact (hwork.elim nofun nofun : False).elim
  · exact (hwork.elim nofun nofun : False).elim

/-! ## New tables -/

/-- A service has a fresh table. -/
def IsFresh (s : Loads) (service : String) : Prop :=
  s.cache.IsFresh s.now service

/-- In some steps a service that has a fresh table keeps having one: its entry neither expires nor is
taken away. -/
def Lasts (service : String) : Loads → List Step → Prop
  | _, [] => True
  | s, st :: rest =>
    (s.IsFresh service → (s.step st).IsFresh service) ∧ Lasts service (s.step st) rest

instance : Decidable (s.IsFresh service) :=
  inferInstanceAs (Decidable (s.cache.IsFresh s.now service))

instance decidableLasts (service : String) :
    (s : Loads) → (steps : List Step) → Decidable (Lasts service s steps)
  | _, [] => .isTrue trivial
  | s, st :: rest =>
    have := decidableLasts service (s.step st) rest
    inferInstanceAs (Decidable (_ ∧ _))

/-- How many fetches of a service have ended with a new table. -/
def renewals (s : Loads) (service : String) : Nat :=
  s.outcomes.count (service, .fresh)

theorem isFresh_iff : s.IsFresh service ↔ s.cache.fresh? s.now service ≠ none := by
  rw [IsFresh, TableCache.isFresh_iff, Option.isSome_iff_ne_none]

/-- A service has a fresh table and nobody fetches another one. -/
structure Supplied (s : Loads) (service : String) : Prop where
  fresh : s.IsFresh service
  quiet : ∀ {l}, ¬s.Fetching l service

/-- As long as nobody fetches, there is no new table; and with the first one the service is
supplied. -/
theorem Coherent.renewals_step (hs : s.Coherent) (httl : 0 < s.cache.ttl) (service : String)
    (st : Step) :
    (s.step st).renewals service = s.renewals service ∨
      (∃ l, s.Fetching l service) ∧ (s.step st).Supplied service ∧
        (s.step st).renewals service = s.renewals service + 1 := by
  have hcache := hs.cache_step st
  generalize houtcomes : (s.step st).outcomes = outcomes, (s.step st).cache = cache at hcache
  have hrenewals : (s.step st).renewals service = outcomes.count (service, .fresh) :=
    congrArg (List.count _) houtcomes
  rw [hrenewals]
  cases hcache with
  | same | push | invalidate => exact .inl rfl
  | @settle l f other given _ _ _ calls settles =>
    rw [List.count_append, List.count_singleton]
    cases settles with
    | stale | failed => exact .inl (by simp [renewals])
    | made hmade =>
      by_cases hother : other = service
      · subst hother
        have hstores : s.Stores (.settle l) l other := ⟨rfl, given, f, _, calls, hmade⟩
        obtain ⟨hnow, hentry, -, g, hsettled⟩ := hstores.step
        refine .inr ⟨⟨l, _, f, calls, .inr ⟨_, rfl⟩⟩, ⟨⟨_, hentry, ?_⟩, ?_⟩, by simp [renewals]⟩
        · rw [hnow]
          exact Nat.lt_add_of_pos_right httl
        · exact (hs.step _).not_fetching_of_settled hsettled
      · exact .inl (by simp [renewals, hother])

theorem Supplied.step (h : s.Supplied service) (hs : s.Coherent) (httl : 0 < s.cache.ttl)
    (hlasts : s.IsFresh service → (s.step st).IsFresh service) :
    (s.step st).Supplied service ∧ (s.step st).renewals service = s.renewals service := by
  refine ⟨⟨hlasts h.fresh, fun hfetching => ?_⟩, ?_⟩
  · obtain hold | ⟨-, -, hdue⟩ := hs.fetching_of_step hfetching
    · exact h.quiet hold
    -- A leader does not ask while there is a fresh table, whenever it has looked before.
    · exact isFresh_iff.1 h.fresh hdue
  · exact (hs.renewals_step httl service st).resolve_right fun hnew => hnew.1.elim fun _ => h.quiet

theorem Supplied.run (h : s.Supplied service) (hs : s.Coherent) (httl : 0 < s.cache.ttl)
    (hlasts : Lasts service s rest) :
    (s.run rest).Supplied service ∧ (s.run rest).renewals service = s.renewals service := by
  induction rest generalizing s with
  | nil => exact ⟨h, rfl⟩
  | cons st rest ih =>
    obtain ⟨hstep, hrest⟩ := hlasts
    obtain ⟨hsupplied, hcount⟩ := h.step hs httl hstep
    obtain ⟨hfinal, htotal⟩ :=
      ih hsupplied (hs.step st) ((hs.cache_step st).config.1 ▸ httl) hrest
    exact ⟨hfinal, htotal.trans hcount⟩

/-- **As long as no entry is lost, there is one new table at most.** -/
theorem Coherent.renewals_run_le (hs : s.Coherent) (httl : 0 < s.cache.ttl)
    (hlasts : Lasts service s rest) :
    (s.run rest).renewals service ≤ s.renewals service + 1 := by
  induction rest generalizing s with
  | nil => exact Nat.le_succ _
  | cons st rest ih =>
    obtain ⟨-, hrest⟩ := hlasts
    have httl' : 0 < (s.step st).cache.ttl := (hs.cache_step st).config.1 ▸ httl
    obtain hsame | ⟨-, hsupplied, hcount⟩ := hs.renewals_step httl service st
    · exact hsame ▸ ih (hs.step st) httl' hrest
    · obtain ⟨-, htotal⟩ := hsupplied.run (hs.step st) httl' hrest
      exact Nat.le_of_eq (htotal.trans hcount)

/-! ## Loads that share a flight -/

/-- A load is with a flight, or has returned with its value. -/
def Shares (s : Loads) (l : Nat) (service : String) (f : Nat) : Prop :=
  s.JoinedFlight l service f ∨
    ∃ v, s.IsAt l service (.returned v) ∧ s.flights.outcome? f = some (.finished v)

theorem unbroken_step (h : s.flights.Unbroken) (hst : ∀ l, st ≠ .cancel l) :
    (s.step st).flights.Unbroken := by
  obtain hflights | ⟨fs, hflights, hcancel⟩ := s.flights_step st <;> rw [hflights]
  · exact h
  · refine h.step fun c hfs => ?_
    obtain ⟨l, hl⟩ := hcancel c hfs
    exact hst l hl

/-- A load stays with its flight until it returns with the value of the flight. -/
theorem Coherent.shares_step (hs : s.Coherent) (hunbroken : s.flights.Unbroken)
    (hst : ∀ l, st ≠ .cancel l) (h : s.Shares l service f) : (s.step st).Shares l service f := by
  obtain ⟨work, p, hcalls, hp⟩ | ⟨v, hreturned, hv⟩ := h
  · obtain hstays | ⟨work', q, hgoes, hnow⟩ | ⟨v, hreturns, hreturned⟩ := hs.calls_step hcalls st
    · exact .inl ⟨work, p, hstays, hp⟩
    · cases hgoes with
      | reuse | ask | answer | settle | finish => exact .inl ⟨_, _, hnow, hp⟩
      | wait abandoned | lead abandoned => exact absurd abandoned hunbroken.kept
      | go | drop => exact absurd rfl (hst _)
      | giveUp =>
        obtain ⟨c, -, hc⟩ := hcalls
        exact absurd hc hunbroken.undropped
    · refine .inr ⟨v, hreturned, hs.finished_step ?_ st⟩
      cases hreturns with
      | leave =>
        cases hp
        obtain ⟨c, -, hc⟩ := hcalls
        exact hs.flights.outcome hc rfl
      | wake finished =>
        cases hp
        exact finished
  · exact .inr ⟨v, returned_step hreturned st, hs.finished_step hv st⟩

/-- No load is cancelled in some steps. -/
def Uncancelled (steps : List Step) : Prop :=
  ∀ l, .cancel l ∉ steps

theorem Uncancelled.head (h : Uncancelled (st :: rest)) (l : Nat) : st ≠ .cancel l :=
  fun hst => h l (hst ▸ List.mem_cons_self)

theorem Uncancelled.tail (h : Uncancelled (st :: rest)) : Uncancelled rest :=
  fun l hl => h l (List.mem_cons_of_mem _ hl)

theorem unbroken_run (h : s.flights.Unbroken) (hrest : Uncancelled rest) :
    (s.run rest).flights.Unbroken := by
  induction rest generalizing s with
  | nil => exact h
  | cons st rest ih => exact ih (unbroken_step h hrest.head) hrest.tail

theorem Coherent.finished_run (hs : s.Coherent)
    (h : s.flights.outcome? f = some (.finished v)) (rest : List Step) :
    (s.run rest).flights.outcome? f = some (.finished v) := by
  induction rest generalizing s with
  | nil => exact h
  | cons st rest ih => exact ih (hs.step st) (hs.finished_step h st)

theorem Coherent.shares_run (hs : s.Coherent) (hunbroken : s.flights.Unbroken)
    (hrest : Uncancelled rest) (h : s.Shares l service f) : (s.run rest).Shares l service f := by
  induction rest generalizing s with
  | nil => exact h
  | cons st rest ih =>
    exact ih (hs.step st) (unbroken_step hunbroken hrest.head) hrest.tail
      (hs.shares_step hunbroken hrest.head h)

/-! ## Going on -/

/-- If a property outlives all steps that are allowed, and each step of a plan takes it on to the rest
of the plan, then it comes to the end with the plan, whatever steps are taken in between. -/
theorem run_of_sublist {P : List Step → Loads → Prop} {allowed : Step → Prop} {plan : List Step}
    (stays : ∀ {plan s st}, allowed st → P plan s → P plan (s.step st))
    (goes : ∀ {plan s st}, allowed st → P (st :: plan) s → P plan (s.step st))
    (hplan : plan.Sublist rest) (hrest : ∀ st ∈ rest, allowed st) (h : P plan s) :
    P [] (s.run rest) := by
  induction hplan generalizing s with
  | slnil => exact h
  | cons st _ ih =>
    obtain ⟨hst, hrest⟩ := List.forall_mem_cons.1 hrest
    exact ih hrest (stays hst h)
  | cons_cons st _ ih =>
    obtain ⟨hst, hrest⟩ := List.forall_mem_cons.1 hrest
    exact ih hrest (goes hst h)

/-- What a leader has still to do until its flight has a value. -/
def remaining (l : Nat) (given : FetchAnswer) : RefreshStage → List Step
  | .idle => [.ask l, .answer l given, .settle l, .finish l]
  | .asked => [.answer l given, .settle l, .finish l]
  | .answered _ => [.settle l, .finish l]
  | .settled _ => [.finish l]

/-- A flight has a value, or its leader has nothing to do for it that is not in a plan. -/
def Concludes (l : Nat) (service : String) (f : Nat) (given : FetchAnswer) (plan : List Step)
    (s : Loads) : Prop :=
  (∃ v, s.flights.outcome? f = some (.finished v)) ∨
    ∃ work, s.Calls l service work (.leading f) ∧ remaining l given work <:+ plan

theorem Coherent.concludes_stays (hs : s.Coherent) {given : FetchAnswer} {plan : List Step}
    (hst : ∀ l, st ≠ .cancel l) (h : s.Concludes l service f given plan) :
    (s.step st).Concludes l service f given plan := by
  obtain ⟨v, hv⟩ | ⟨work, hcalls, hplan⟩ := h
  · exact .inl ⟨v, hs.finished_step hv st⟩
  · obtain hstays | ⟨work', q, hgoes, hnow⟩ | ⟨v, hreturns, -⟩ := hs.calls_step hcalls st
    · exact .inr ⟨work, hstays, hplan⟩
    · cases hgoes with
      -- A step that comes before its turn leaves less to do.
      | reuse =>
        exact .inr ⟨_, hnow, .trans ⟨[.ask l, .answer l given, .settle l], rfl⟩ hplan⟩
      | ask => exact .inr ⟨_, hnow, .trans ⟨[.ask l], rfl⟩ hplan⟩
      | answer => exact .inr ⟨_, hnow, .trans ⟨[.answer l given], rfl⟩ hplan⟩
      | settle => exact .inr ⟨_, hnow, .trans ⟨[.settle l], rfl⟩ hplan⟩
      | finish => exact .inl ⟨_, finish_leading hcalls (hs.lt_length ⟨_, _, hcalls, rfl⟩)⟩
      | drop => exact absurd rfl (hst _)
    · nomatch hreturns

theorem Coherent.concludes_goes (hs : s.Coherent) {given : FetchAnswer} {plan : List Step}
    (hst : ∀ l, st ≠ .cancel l) (h : s.Concludes l service f given (st :: plan)) :
    (s.step st).Concludes l service f given plan := by
  obtain ⟨v, hv⟩ | ⟨work, hcalls, hplan⟩ := h
  · exact .inl ⟨v, hs.finished_step hv st⟩
  · obtain hnow | hlater := List.suffix_cons_iff.1 hplan
    · -- The step is the next one that the leader has to take.
      cases work with
      | idle =>
        obtain ⟨rfl, rfl⟩ := List.cons.inj hnow
        obtain ⟨work, hnext, rfl | ⟨n, rfl⟩⟩ := ask_leading hcalls
        · exact .inr ⟨_, hnext, List.suffix_rfl⟩
        · exact .inr ⟨_, hnext, [.answer l given, .settle l], rfl⟩
      | asked =>
        obtain ⟨rfl, rfl⟩ := List.cons.inj hnow
        exact .inr ⟨_, answer_leading hcalls given, List.suffix_rfl⟩
      | answered =>
        obtain ⟨rfl, rfl⟩ := List.cons.inj hnow
        exact .inr ⟨_, (settle_leading hcalls).1, List.suffix_rfl⟩
      | settled v =>
        obtain ⟨rfl, rfl⟩ := List.cons.inj hnow
        exact .inl ⟨v, finish_leading hcalls (hs.lt_length ⟨_, _, hcalls, rfl⟩)⟩
    · exact hs.concludes_stays hst (.inr ⟨work, hcalls, hlater⟩)

/-- A flight has a value once its leader has taken its steps. -/
theorem Coherent.finished_of_plan (hs : s.Coherent) {given : FetchAnswer}
    (hcalls : s.Calls l service work (.leading f)) (hrest : Uncancelled rest)
    (hplan : (remaining l given .idle).Sublist rest) :
    ∃ v, (s.run rest).flights.outcome? f = some (.finished v) := by
  have hallowed : ∀ st ∈ rest, ∀ m, st ≠ .cancel m := fun st hst m hm => hrest m (hm ▸ hst)
  have hsuffix : remaining l given work <:+ remaining l given .idle := by
    cases work with
    | idle => exact List.suffix_rfl
    | asked => exact ⟨[.ask l], rfl⟩
    | answered => exact ⟨[.ask l, .answer l given], rfl⟩
    | settled => exact ⟨[.ask l, .answer l given, .settle l], rfl⟩
  have hend := run_of_sublist
    (P := fun plan s => s.Coherent ∧ s.Concludes l service f given plan)
    (fun hst h => ⟨h.1.step _, h.1.concludes_stays hst h.2⟩)
    (fun hst h => ⟨h.1.step _, h.1.concludes_goes hst h.2⟩) hplan hallowed
    ⟨hs, .inr ⟨work, hcalls, hsuffix⟩⟩
  obtain ⟨-, hfinished | ⟨work, -, hnil⟩⟩ := hend
  · exact hfinished
  · have hempty := List.suffix_nil.1 hnil
    cases work <;> cases hempty

/-- A load has returned with a value, or the step by which it returns with it is in a plan. -/
def Lands (l : Nat) (service : String) (f : Nat) (v : TableResult) (plan : List Step) (s : Loads) :
    Prop :=
  s.IsAt l service (.returned v) ∨
    (∃ work, s.Calls l service work (.waiting f) ∧ .wake l ∈ plan) ∨
    ∃ work, s.Calls l service work (.finishing f v) ∧ .leave l ∈ plan

theorem Coherent.lands_stays (hs : s.Coherent) {plan : List Step}
    (hv : s.flights.outcome? f = some (.finished v)) (hst : ∀ l, st ≠ .cancel l)
    (h : s.Lands l service f v plan) : (s.step st).Lands l service f v plan := by
  obtain hreturned | ⟨work, hcalls, hplan⟩ | ⟨work, hcalls, hplan⟩ := h
  · exact .inl (returned_step hreturned st)
  · obtain hstays | ⟨work', q, hgoes, hnow⟩ | ⟨w, hreturns, hreturned⟩ := hs.calls_step hcalls st
    · exact .inr (.inl ⟨work, hstays, hplan⟩)
    · cases hgoes with
      | wait abandoned | lead abandoned => cases hv.symm.trans abandoned
      | go => exact absurd rfl (hst _)
    · cases hreturns with
      | wake finished =>
        cases hv.symm.trans finished
        exact .inl hreturned
  · obtain hstays | ⟨work', q, hgoes, hnow⟩ | ⟨w, hreturns, hreturned⟩ := hs.calls_step hcalls st
    · exact .inr (.inr ⟨work, hstays, hplan⟩)
    · nomatch hgoes
    · cases hreturns with
      | leave => exact .inl hreturned

theorem Coherent.lands_goes (hs : s.Coherent) {plan : List Step}
    (hv : s.flights.outcome? f = some (.finished v)) (hst : ∀ l, st ≠ .cancel l)
    (h : s.Lands l service f v (st :: plan)) : (s.step st).Lands l service f v plan := by
  obtain hreturned | ⟨work, hcalls, hplan⟩ | ⟨work, hcalls, hplan⟩ := h
  · exact .inl (returned_step hreturned st)
  · obtain rfl | hlater := List.mem_cons.1 hplan
    · exact .inl (wake_waiting hcalls hv)
    · exact hs.lands_stays hv hst (.inr (.inl ⟨work, hcalls, hlater⟩))
  · obtain rfl | hlater := List.mem_cons.1 hplan
    · exact .inl (leave_finishing hcalls)
    · exact hs.lands_stays hv hst (.inr (.inr ⟨work, hcalls, hlater⟩))

/-- A load returns with the value of its flight once it has left the flight or has woken. -/
theorem Coherent.returned_of_plan (hs : s.Coherent) (hunbroken : s.flights.Unbroken)
    (h : s.Shares l service f) (hv : s.flights.outcome? f = some (.finished v))
    (hrest : Uncancelled rest) (hplan : [.leave l, .wake l].Sublist rest) :
    (s.run rest).IsAt l service (.returned v) := by
  have hallowed : ∀ st ∈ rest, ∀ m, st ≠ .cancel m := fun st hst m hm => hrest m (hm ▸ hst)
  have hlands : s.Lands l service f v [.leave l, .wake l] := by
    obtain ⟨work, p, ⟨c, hl, hc⟩, hp⟩ | ⟨w, hreturned, hw⟩ := h
    · cases p with
      | waiting g =>
        cases hp
        exact .inr (.inl ⟨work, ⟨c, hl, hc⟩, by simp⟩)
      | leading g =>
        cases hp
        cases hv.symm.trans (hs.flights.outcome hc rfl)
      | finishing g w =>
        cases hp
        cases hv.symm.trans (hs.flights.outcome hc rfl)
        exact .inr (.inr ⟨work, ⟨c, hl, hc⟩, by simp⟩)
      | dropping g => exact absurd hc hunbroken.undropped
      | returned | cancelled => cases hp
    · cases hv.symm.trans hw
      exact .inl hreturned
  have hend := run_of_sublist
    (P := fun plan s => s.Coherent ∧ s.flights.outcome? f = some (.finished v) ∧
      s.Lands l service f v plan)
    (fun hst h => ⟨h.1.step _, h.1.finished_step h.2.1 _, h.1.lands_stays h.2.1 hst h.2.2⟩)
    (fun hst h => ⟨h.1.step _, h.1.finished_step h.2.1 _, h.1.lands_goes h.2.1 hst h.2.2⟩)
    hplan hallowed ⟨hs, hv, hlands⟩
  obtain ⟨-, -, hreturned | ⟨_, -, hnil⟩ | ⟨_, -, hnil⟩⟩ := hend
  · exact hreturned
  · exact absurd hnil List.not_mem_nil
  · exact absurd hnil List.not_mem_nil

/-- As long as nothing has become of a flight, a load leads it. -/
theorem Coherent.exists_leader (hs : s.Coherent) (hunbroken : s.flights.Unbroken)
    (h : s.JoinedFlight l service f) :
    (∃ v, s.flights.outcome? f = some (.finished v)) ∨
      ∃ leader work, s.Calls leader service work (.leading f) := by
  obtain ⟨o, ho⟩ : ∃ o, s.flights.outcome? f = some o := by
    obtain ⟨flight, hflight, -⟩ := Option.map_eq_some_iff.1 (hs.keyOf? h)
    exact ⟨flight.outcome, congrArg (Option.map _) hflight⟩
  cases o with
  | finished v => exact .inl ⟨v, ho⟩
  | abandoned => exact absurd ho hunbroken.kept
  | pending =>
    obtain ⟨c, k, p, hc, hp⟩ := hs.flights.led ho
    have hkey := hs.flights.key hc (CallPhase.flight?_of_led? hp)
    cases hkey.symm.trans (hs.keyOf? h)
    obtain ⟨leader, work, hleader⟩ := hs.owned hc (CallPhase.flight?_of_led? hp)
    cases p with
    | leading =>
      cases hp
      exact .inr ⟨leader, work, c, hleader, hc⟩
    | finishing =>
      cases hp
      exact .inl ⟨_, hs.flights.outcome hc rfl⟩
    | dropping => exact absurd hc hunbroken.undropped
    | waiting | returned | cancelled => cases hp

/-- **A load that has joined a flight returns with its value**, once some load, which leads the flight
if it has no value, and then the load itself have taken their steps. -/
theorem Coherent.returns (hs : s.Coherent) (hunbroken : s.flights.Unbroken)
    (h : s.JoinedFlight l service f) :
    ∃ leader, ∀ given rest, Uncancelled rest →
      (remaining leader given .idle ++ [Step.leave l, .wake l]).Sublist rest →
      ∃ v, (s.run rest).IsAt l service (.returned v) ∧
        (s.run rest).flights.outcome? f = some (.finished v) := by
  obtain ⟨leader, hfinishes⟩ : ∃ leader, ∀ given first, Uncancelled first →
      (remaining leader given .idle).Sublist first →
      ∃ v, (s.run first).flights.outcome? f = some (.finished v) := by
    obtain ⟨v, hv⟩ | ⟨leader, work, hleader⟩ := hs.exists_leader hunbroken h
    · exact ⟨l, fun _ first _ _ => ⟨v, hs.finished_run hv first⟩⟩
    · exact ⟨leader, fun _ _ hfirst hplan => hs.finished_of_plan hleader hfirst hplan⟩
  refine ⟨leader, fun given rest hrest hplan => ?_⟩
  obtain ⟨first, last, rfl, hfirst, hlast⟩ := List.append_sublist_iff.1 hplan
  have huncancelled : Uncancelled first := fun m hm => hrest m (List.mem_append_left _ hm)
  have hunbroken' := unbroken_run hunbroken huncancelled
  have hshares := hs.shares_run hunbroken huncancelled (.inl h)
  obtain ⟨v, hv⟩ := hfinishes given first huncancelled hfirst
  rw [run_append]
  exact ⟨v, (hs.run first).returned_of_plan hunbroken' hshares hv
    (fun m hm => hrest m (List.mem_append_right _ hm)) hlast, (hs.run first).finished_run hv last⟩

/-! ## Who asks -/

/-- A load is with a flight and does not ask the registry for it any more, or has returned. -/
def PastAsking (s : Loads) (l : Nat) (service : String) : Prop :=
  (∃ v, s.IsAt l service (.returned v)) ∨
    ∃ work p, s.Calls l service work p ∧ (work ≠ .idle ∨ ∃ f, p = .waiting f)

theorem PastAsking.not_asks (h : s.PastAsking l service) : ¬s.Asks st l service := by
  rintro ⟨-, ⟨f, hcalls⟩, -⟩
  obtain ⟨v, hreturned⟩ | ⟨work, p, hcalls', hpast⟩ := h
  · exact hcalls.not_returned hreturned
  · obtain ⟨-, rfl, rfl⟩ := hcalls.unique hcalls'
    exact hpast.elim (fun hwork => hwork rfl) nofun

theorem Coherent.pastAsking_step (hs : s.Coherent) (hunbroken : s.flights.Unbroken)
    (hst : ∀ l, st ≠ .cancel l) (h : s.PastAsking l service) :
    (s.step st).PastAsking l service := by
  obtain ⟨v, hreturned⟩ | ⟨work, p, hcalls, hpast⟩ := h
  · exact .inl ⟨v, returned_step hreturned st⟩
  · obtain hstays | ⟨work', q, hgoes, hnow⟩ | ⟨v, -, hreturned⟩ := hs.calls_step hcalls st
    · exact .inr ⟨work, p, hstays, hpast⟩
    · cases hgoes with
      | reuse | ask => exact (hpast.elim (fun hwork => hwork rfl) nofun : False).elim
      | answer | settle | finish => exact .inr ⟨_, _, hnow, .inl nofun⟩
      | wait abandoned | lead abandoned => exact absurd abandoned hunbroken.kept
      | go | drop => exact absurd rfl (hst _)
      | giveUp =>
        obtain ⟨c, -, hc⟩ := hcalls
        exact absurd hc hunbroken.undropped
    · exact .inl ⟨v, hreturned⟩

/-- **While a fetch is in progress, none of the loads that have joined its flight asks again.** -/
theorem Coherent.not_asks_of_joined {leader : Nat} {given : RefreshStage} (hs : s.Coherent)
    (hunbroken : s.flights.Unbroken) (hleader : s.Calls leader service given (.leading f))
    (hgiven : given ≠ .idle) (hjoined : s.JoinedFlight l service f) (hrest : Uncancelled rest)
    {past : List Step} (hpast : past ++ [st] <+: rest) : ¬(s.run past).Asks st l service := by
  have hnow : s.PastAsking l service := by
    obtain ⟨work, p, hcalls, hp⟩ := hjoined
    -- Who does not wait for the flight leads it, and so is the leader.
    by_cases hwaiting : p = .waiting f
    · exact .inr ⟨work, p, hcalls, .inr ⟨f, hwaiting⟩⟩
    · have hled : p.led? = some f := by
        cases p <;> first | exact hp | exact absurd (congrArg _ (Option.some.inj hp)) hwaiting
      obtain rfl := hs.leader_unique hcalls hled hleader rfl
      obtain ⟨-, rfl, -⟩ := hcalls.unique hleader
      exact .inr ⟨_, p, hcalls, .inl hgiven⟩
  have hlater : (s.run past).PastAsking l service := by
    have hallowed : Uncancelled past := fun m hm =>
      hrest m (hpast.subset (List.mem_append_left _ hm))
    clear hpast hleader hjoined hrest
    induction past generalizing s with
    | nil => exact hnow
    | cons st past ih =>
      exact ih (hs.step st) (unbroken_step hunbroken hallowed.head)
        (hs.pastAsking_step hunbroken hallowed.head hnow) hallowed.tail
  exact hlater.not_asks

/-! ## Loads that come late -/

/-- A load has neither joined a flight nor returned. Perhaps it is still to come. -/
structure Unjoined (s : Loads) (l : Nat) (service : String) : Prop where
  not_joined : ∀ {c work}, ¬s.IsAt l service (.joined c work)
  not_returned : ∀ {v}, ¬s.IsAt l service (.returned v)

/-- A service is served from one table: the entry has it, and so has whatever can come of the flight `f`
and of the flights that matter for some loads. -/
structure Serves (s : Loads) (T : Nat → Prop) (service : String) (f n : Nat) : Prop where
  supplied : s.Supplied service
  table : ∀ {entry}, s.cache.entries.get? service = some entry → entry.table = n
  confined : s.Confined (· = .ok n) T service
  clean : s.Clean (· = .ok n) service f
  key : s.flights.keyOf? f = some service

variable {T : Nat → Prop}

theorem keyOf?_step (h : s.flights.keyOf? f = some service) (st : Step) :
    (s.step st).flights.keyOf? f = some service := by
  obtain hflights | ⟨fs, hflights, -⟩ := s.flights_step st <;> rw [hflights]
  · exact h
  · exact Flights.keyOf?_step h fs

theorem Serves.step (h : s.Serves T service f n) (hs : s.Coherent) (httl : 0 < s.cache.ttl)
    (hlasts : s.IsFresh service → (s.step st).IsFresh service)
    (hpush : ∀ instances, st ≠ .push service instances) : (s.step st).Serves T service f n := by
  have hfresh {m} (hm : s.cache.fresh? s.now service = some m) :
      (.ok m : TableResult) = .ok n := by
    obtain ⟨entry, hentry, -, rfl⟩ := TableCache.fresh?_eq_some_iff.1 hm
    rw [h.table hentry]
  have hsettled {l g given} (_ : st = .settle l)
      (hcalls : s.Calls l service (.answered given) (.leading g)) :
      (s.cache.settle s.now service given).1 = .ok n :=
    absurd ⟨_, g, hcalls, .inr ⟨given, rfl⟩⟩ h.supplied.quiet
  refine ⟨(h.supplied.step hs httl hlasts).1, fun {entry} hentry => ?_,
    h.confined.step hs hfresh hsettled,
    hs.clean_step (.inl ⟨h.clean, h.key⟩) hfresh hsettled, keyOf?_step h.key st⟩
  obtain ⟨old, hold, htable⟩ | ⟨-, ⟨instances, hst⟩ | ⟨l, -, given, g, _, hcalls, -⟩⟩ :=
    (hs.cache_step st).entry hentry
  · exact htable ▸ h.table hold
  · exact absurd hst (hpush instances)
  · exact absurd ⟨_, g, hcalls, .inr ⟨given, rfl⟩⟩ h.supplied.quiet

theorem Serves.run (h : s.Serves T service f n) (hs : s.Coherent) (httl : 0 < s.cache.ttl)
    (hlasts : Lasts service s rest) (hpush : ∀ instances, .push service instances ∉ rest) :
    (s.run rest).Serves T service f n := by
  induction rest generalizing s with
  | nil => exact h
  | cons st rest ih =>
    obtain ⟨hstep, hrest⟩ := hlasts
    have hst : ∀ instances, st ≠ .push service instances := fun instances hst =>
      hpush instances (hst ▸ List.mem_cons_self)
    exact ih (h.step hs httl hstep hst) (hs.step st) ((hs.cache_step st).config.1 ▸ httl) hrest
      fun instances hmem => hpush instances (List.mem_cons_of_mem _ hmem)

/-- The service is served from the table that a fetch has left. -/
theorem Coherent.serves_settle (hs : s.Coherent) (httl : 0 < s.cache.ttl) {given : FetchAnswer}
    (hcalls : s.Calls l service (.answered given) (.leading f))
    (hsettled : (s.step (.settle l)).Calls l service (.settled (.ok n)) (.leading f)) :
    (s.step (.settle l)).Serves ((s.step (.settle l)).Unjoined · service) service f n := by
  have hs' := hs.step (.settle l)
  obtain ⟨hleads, hnow, hcache⟩ := settle_leading hcalls
  -- The entry is renewed with the table that the load has settled.
  have hentry : (s.step (.settle l)).cache.entries.get? service = some ⟨n, s.now + s.cache.ttl⟩ := by
    obtain ⟨-, hvalue, -⟩ := hsettled.unique hleads
    have hsettles := s.cache.settles s.now service given
    rw [hcache]
    generalize (s.cache.settle s.now service given).1 = v,
      (s.cache.settle s.now service given).2.1 = outcome,
      (s.cache.settle s.now service given).2.2 = cache at hvalue hsettles
    cases hsettles with
    | made =>
      cases hvalue
      exact (TableCache.get?_store ..).trans (if_pos rfl)
    | stale =>
      cases hvalue
      exact (TableCache.get?_renew ..).trans (if_pos rfl)
    | failed => cases hvalue
  have hclean : (s.step (.settle l)).Clean (· = .ok n) service f := by
    constructor
    case finished =>
      intro v hv
      obtain ⟨c, -, hc⟩ := hsettled
      cases hv.symm.trans (hs'.flights.outcome hc rfl)
    case settled =>
      intro m v hm
      obtain rfl := hs'.leading_unique hm hsettled
      obtain ⟨-, hv, -⟩ := hm.unique hsettled
      cases hv
      rfl
  refine ⟨⟨⟨_, hentry, ?_⟩, ?_⟩, ?_, ⟨?_, ?_⟩, hclean, hs'.keyOf? ⟨_, _, hsettled, rfl⟩⟩
  · rw [hnow]
    exact Nat.lt_add_of_pos_right httl
  · exact hs'.not_fetching_of_settled hsettled
  · rintro entry hother
    cases hentry.symm.trans hother
    rfl
  · rintro g (hregistered | ⟨m, hm, work, p, ⟨c, hjoined, -⟩, -⟩)
    · -- The registered flight is the one that the load leads.
      obtain ⟨c, -, hc⟩ := hsettled
      cases hregistered.symm.trans (hs'.flights.registered.2 ⟨c, _, hc, rfl⟩)
      exact hclean
    · exact absurd hjoined hm.not_joined
  · exact fun hm hreturned => absurd hreturned hm.not_returned

/-! ## All runs -/

/-- What holds of a run of loads, for each service. -/
structure SharesFetches (s₀ : Loads) (steps : List Step) (service : String) : Prop where
  /-- No two fetches of the service are in progress. -/
  alone : ∀ {l m}, (s₀.run steps).Fetching l service → (s₀.run steps).Fetching m service → l = m
  /-- In a period in which no entry of the service is lost, one fetch at most ends with a new table. -/
  renewedOnce : ∀ {before during}, steps = before ++ during →
    Lasts service (s₀.run before) during →
      (s₀.run steps).renewals service ≤ (s₀.run before).renewals service + 1
  /-- If no load is cancelled, a load that has joined a flight is with it or has returned with its
  value. -/
  shared : Uncancelled steps → ∀ {before rest l f}, steps = before ++ rest →
    (s₀.run before).JoinedFlight l service f → (s₀.run steps).Shares l service f
  /-- And then it does return, once some load, which leads the flight if it has no value, and the load
  itself have taken their steps. -/
  returns : Uncancelled steps → ∀ {l f}, (s₀.run steps).JoinedFlight l service f →
    ∃ leader, ∀ given rest, Uncancelled rest →
      (remaining leader given .idle ++ [Step.leave l, .wake l]).Sublist rest →
        ∃ v, (s₀.run (steps ++ rest)).IsAt l service (.returned v) ∧
          (s₀.run (steps ++ rest)).flights.outcome? f = some (.finished v)
  /-- Of the loads that have joined a flight before its fetch is complete, none asks the registry
  again. -/
  askedOnce : Uncancelled steps → ∀ {before rest leader work l f}, steps = before ++ rest →
    (s₀.run before).Calls leader service work (.leading f) → work ≠ .idle →
    (s₀.run before).JoinedFlight l service f →
      ∀ {past st}, past ++ [st] <+: rest → ¬((s₀.run before).run past).Asks st l service
  /-- When a fetch has left a table, then as long as its entry is neither lost nor replaced by a push,
  those who have not joined a flight do not ask either, and all return with that table. -/
  latecomers : ∀ {before rest leader given f n}, steps = before ++ .settle leader :: rest →
    (s₀.run before).Calls leader service (.answered given) (.leading f) →
    ((s₀.run before).step (.settle leader)).Calls leader service (.settled (.ok n)) (.leading f) →
    Lasts service ((s₀.run before).step (.settle leader)) rest →
    (∀ instances, .push service instances ∉ rest) →
      (∀ {v}, (s₀.run steps).flights.outcome? f = some (.finished v) → v = .ok n) ∧
        ∀ {l}, ((s₀.run before).step (.settle leader)).Unjoined l service →
          (∀ {st}, ¬(s₀.run steps).Asks st l service) ∧
            ∀ {v}, (s₀.run steps).IsAt l service (.returned v) → v = .ok n

theorem unbroken_start (factory : SelectorFactory) (options : TableOptions) (ttl now : Nat) :
    (start factory options ttl now).flights.Unbroken :=
  ⟨nofun, nofun⟩

/-- **Many loads cause one fetch**, in whatever order they come, go on and are cancelled, and whatever
is pushed or taken away in between. -/
theorem run_sharesFetches (factory : SelectorFactory) (options : TableOptions) {ttl : Nat}
    (httl : 0 < ttl) (now : Nat) (steps : List Step) (service : String) :
    SharesFetches (start factory options ttl now) steps service where
  alone := ((coherent_start ..).run steps).fetching_unique
  renewedOnce := by
    rintro before during rfl hlasts
    rw [run_append]
    have httl' := ((coherent_start factory options ttl now).config_run before).1
    exact ((coherent_start ..).run before).renewals_run_le
      (Nat.lt_of_lt_of_eq httl httl'.symm) hlasts
  shared := by
    rintro huncancelled before rest l f rfl hjoined
    rw [run_append]
    exact ((coherent_start ..).run before).shares_run
      (unbroken_run (unbroken_start ..) fun m hm => huncancelled m (List.mem_append_left _ hm))
      (fun m hm => huncancelled m (List.mem_append_right _ hm)) (.inl hjoined)
  returns := by
    intro huncancelled l f hjoined
    simp only [run_append]
    exact ((coherent_start ..).run steps).returns
      (unbroken_run (unbroken_start ..) huncancelled) hjoined
  askedOnce := by
    rintro huncancelled before rest leader work l f rfl hleader hwork hjoined past st hpast
    exact ((coherent_start ..).run before).not_asks_of_joined
      (unbroken_run (unbroken_start ..) fun m hm => huncancelled m (List.mem_append_left _ hm))
      hleader hwork hjoined (fun m hm => huncancelled m (List.mem_append_right _ hm)) hpast
  latecomers := by
    rintro before rest leader given f n rfl hcalls hsettled hlasts hpush
    have hs := (coherent_start factory options ttl now).run before
    have httl' : 0 < ((start factory options ttl now).run before).cache.ttl :=
      Nat.lt_of_lt_of_eq httl ((coherent_start factory options ttl now).config_run before).1.symm
    have hserves := (hs.serves_settle httl' hcalls hsettled).run (hs.step _)
      ((hs.cache_step _).config.1 ▸ httl') hlasts hpush
    rw [run_append, run_cons]
    refine ⟨hserves.clean.finished, fun hl => ⟨?_, hserves.confined.returned hl⟩⟩
    rintro st ⟨-, -, hdue⟩
    exact isFresh_iff.1 hserves.supplied.fresh hdue

/-- Two loads join one flight, and a third one comes when the table is there. -/
def crowd : List Step :=
  opening 2 "users" ++ [.answer 0 (.ok [])] ++
    .settle 0 :: [.arrive "users", .finish 0, .leave 0, .wake 1, .look 2]

theorem crowd_sharesFetches :
    0 < 10000 ∧ SharesFetches (start {} {} 10000 0) crowd "users" ∧ Uncancelled crowd ∧
      Lasts "users" (start {} {} 10000 0) crowd ∧
      ((start {} {} 10000 0).run crowd).renewals "users" = 1 ∧
      ((start {} {} 10000 0).run (opening 2 "users")).JoinedFlight 1 "users" 0 ∧
      ∀ l < 3, ((start {} {} 10000 0).run crowd).IsAt l "users" (.returned (.ok 0)) := by
  have hshares := run_sharesFetches {} {} (by decide : 0 < 10000) 0 crowd "users"
  refine ⟨by decide, hshares, by simp [Uncancelled, crowd, opening], by decide +kernel,
    by decide +kernel, ⟨.idle, .waiting 0, ⟨1, rfl, rfl⟩, rfl⟩, ?_⟩
  rintro (_ | _ | _ | l) hl
  · rfl
  · rfl
  · rfl
  · omega

/-- A list that makes no table, as its instance has no weight. -/
def weightless : FetchAnswer :=
  .ok [{ address := "10.0.0.1", port := 80, weight := 0 }]

/-- Two loads look before the registry has answered, and the second one joins a flight after that. -/
def lateJoin (given : FetchAnswer) (between : List Step) : List Step :=
  [.arrive "users", .arrive "users", .look 0, .look 1, .join 0, .ask 0, .answer 0 given, .settle 0,
    .finish 0, .leave 0] ++ between ++ [.join 1]

/-- Two loads that are there before the registry answers can both ask it, if its first list makes no
table; and they can return with different tables, if one is pushed in between. -/
theorem lateJoin_asks_again :
    let s := start {} { kind := .weightedRoundRobin } 10000 0
    let again := s.run (lateJoin weightless [])
    let pushed := s.run (lateJoin (.ok []) [.push "users" []] ++ [.ask 1, .finish 1, .leave 1])
    (Uncancelled (lateJoin weightless []) ∧ Lasts "users" s (lateJoin weightless []) ∧
        (s.run ((lateJoin weightless []).take 5)).Asks (.ask 0) 0 "users" ∧
        again.Asks (.ask 1) 1 "users" ∧
        ((again.step (.ask 1)).step (.answer 1 weightless)).Calls 1 "users"
          (.answered weightless) (.leading 1)) ∧
      pushed.IsAt 0 "users" (.returned (.ok 0)) ∧ pushed.IsAt 1 "users" (.returned (.ok 1)) := by
  refine ⟨⟨?_, by decide +kernel, ⟨rfl, ⟨0, 0, rfl, rfl⟩, rfl⟩,
    ⟨rfl, ⟨1, 1, rfl, rfl⟩, by decide +kernel⟩, 1, rfl, rfl⟩, rfl, rfl⟩
  simp [Uncancelled, lateJoin]

end Loads

end TrafficGateway
