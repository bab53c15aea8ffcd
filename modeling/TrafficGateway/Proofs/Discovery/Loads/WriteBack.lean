import TrafficGateway.Proofs.Discovery.Loads.Fetches
import TrafficGateway.Proofs.Partition.Preference

/-!
# Refreshes that are overtaken

Nothing is locked while a load fetches, and it stores its table whatever has happened in between. So a
push can be undone by an answer that was given before it, and after an invalidation the service can
get back a table whose fetch had begun before; a later load can even join the flight of such a fetch.

That happens only through a refresh that is in progress at the push or the invalidation, and it can
happen through each of these (`Loads.push_and_invalidation_hold_iff`): a refresh that has a list which
makes a table, one that still waits for its answer, and one that has already handed its table to the
cache and not yet taken its registration away.

## Main definitions

* `Loads.Happens`: a step has been taken in a certain state.
* `Loads.Asked`, `Loads.Answered`, `Loads.Makes`: when a fetch has begun, when it was answered, and the
  table that it has made.
* `Loads.PushHolds`, `Loads.InvalidationHolds`: nothing older comes back.
* `Loads.CarriesOver`: a refresh in progress by which an older table can come back.
-/

namespace TrafficGateway

/-- How far a load has come, as a number. -/
def LoadStage.rank : LoadStage → Nat
  | .arrived => 0
  | .missed => 1
  | .joined _ .idle => 2
  | .joined _ .asked => 3
  | .joined _ (.answered _) => 4
  | .joined _ (.settled _) => 5
  | .returned _ => 6
  | .cancelled => 6

namespace Loads

variable {s s₀ t : Loads} {st : Step} {l m f n : Nat} {service : String} {a b : LoadStage}
  {work : RefreshStage} {p : CallPhase TableResult} {v : TableResult} {given : FetchAnswer}
  {rest steps past before : List Step}

/-! ## Loads do not go back -/

theorem Move.rank_le (h : s.Move st l service a b t) : a.rank ≤ b.rank := by
  cases h with
  | hit | miss | join | reuse | ask | answer | settle | finish | fly => simp [LoadStage.rank]
  | @land _ _ _ _ work => cases work <;> simp [LoadStage.rank]
  | go early => obtain rfl | rfl := early <;> simp [LoadStage.rank]

theorem rank_le_step (h : s.IsAt l service a) (st : Step) :
    ∃ b, (s.step st).IsAt l service b ∧ a.rank ≤ b.rank := by
  have hdoes := s.does st
  generalize s.step st = u at hdoes
  cases hdoes with
  | nothing | push | invalidate | wait => exact ⟨a, h, Nat.le_refl _⟩
  | arrive => exact ⟨a, isAt_arrive.2 (.inr h), Nat.le_refl _⟩
  | @move _ m other b c t hm hmove =>
    by_cases hml : m = l
    · subst hml
      obtain ⟨rfl, rfl⟩ := hm.unique h
      exact ⟨c, (isAt_setStage hm hmove.loads).2 (.inl ⟨rfl, rfl, rfl⟩), hmove.rank_le⟩
    · exact ⟨a, (isAt_setStage hm hmove.loads).2 (.inr ⟨hml, h⟩), Nat.le_refl _⟩

theorem rank_le_run (h : s.IsAt l service a) (rest : List Step) :
    ∃ b, (s.run rest).IsAt l service b ∧ a.rank ≤ b.rank := by
  induction rest generalizing s a with
  | nil => exact ⟨a, h, Nat.le_refl _⟩
  | cons st rest ih =>
    obtain ⟨b, hb, hab⟩ := rank_le_step h st
    obtain ⟨c, hc, hbc⟩ := ih hb
    exact ⟨c, hc, hab.trans hbc⟩

/-! ## What has happened -/

/-- In a run, a step has been taken in a certain state. -/
def Happens (s : Loads) (steps : List Step) (R : Loads → Step → Prop) : Prop :=
  ∃ past st, past ++ [st] <+: steps ∧ R (s.run past) st

variable {R : Loads → Step → Prop}

theorem Happens.later (h : s.Happens past R) (hpast : past <+: steps) : s.Happens steps R := by
  obtain ⟨early, st, hearly, hR⟩ := h
  exact ⟨early, st, hearly.trans hpast, hR⟩

theorem happens_append :
    s.Happens (steps ++ rest) R ↔ s.Happens steps R ∨ (s.run steps).Happens rest R := by
  constructor
  · rintro ⟨past, st, hpast, hR⟩
    -- The step is one of the first ones, or all of these come before it.
    obtain hearly | hlate := List.prefix_or_prefix_of_prefix hpast (List.prefix_append steps rest)
    · exact .inl ⟨past, st, hearly, hR⟩
    · obtain rfl | ⟨mid, rfl⟩ := List.prefix_concat_iff.1 hlate
      · exact .inl ⟨past, st, List.prefix_rfl, hR⟩
      · rw [List.append_assoc] at hpast
        rw [run_append] at hR
        exact .inr ⟨mid, st, (List.prefix_append_right_inj _).1 hpast, hR⟩
  · rintro (h | ⟨past, st, hpast, hR⟩)
    · exact h.later (List.prefix_append ..)
    · refine ⟨steps ++ past, st, ?_, by rwa [run_append]⟩
      rw [List.append_assoc]
      exact (List.prefix_append_right_inj _).2 hpast

theorem happens_cons :
    s.Happens (st :: rest) R ↔ R s st ∨ (s.step st).Happens rest R := by
  rw [← List.singleton_append, happens_append]
  refine or_congr_left ⟨?_, fun hR => ⟨[], st, List.prefix_rfl, hR⟩⟩
  rintro ⟨past, st', hpast, hR⟩
  obtain ⟨rfl, rfl⟩ : past = [] ∧ st' = st := by
    obtain ⟨rest, hrest⟩ := hpast
    cases past <;> simp_all
  exact hR

/-- How far a load has come by what has happened to it. -/
theorem Happens.rank_le {k : Nat} (h : s.Happens steps R)
    (hR : ∀ {s st}, R s st → ∃ b, (s.step st).IsAt l service b ∧ k ≤ b.rank) :
    ∃ b, (s.run steps).IsAt l service b ∧ k ≤ b.rank := by
  obtain ⟨past, st, ⟨rest, rfl⟩, hst⟩ := h
  obtain ⟨a, ha, hk⟩ := hR hst
  rw [run_append, run_concat]
  obtain ⟨b, hb, hab⟩ := rank_le_run ha rest
  exact ⟨b, hb, hk.trans hab⟩

/-- What happens to a load on its way does not happen once it has come further. -/
theorem not_happens_of_rank (h : s.IsAt l service a)
    (hR : ∀ {s st}, R s st → ∃ b, s.IsAt l service b ∧ b.rank < a.rank) : ¬s.Happens rest R := by
  rintro ⟨past, st, -, hst⟩
  obtain ⟨b, hb, hba⟩ := hR hst
  obtain ⟨c, hc, hac⟩ := rank_le_run h past
  obtain ⟨-, rfl⟩ := hb.unique hc
  omega

/-! ## Fetches of a run -/

/-- By a step, a load that leads a flight is answered. -/
def Answers (s : Loads) (st : Step) (l : Nat) (service : String) : Prop :=
  ∃ given f, st = .answer l given ∧ s.Calls l service .asked (.leading f)

/-- In a run, a load has begun a fetch. -/
def Asked (s : Loads) (steps : List Step) (l : Nat) (service : String) : Prop :=
  s.Happens steps (·.Asks · l service)

/-- In a run, the fetch of a load was answered. -/
def Answered (s : Loads) (steps : List Step) (l : Nat) (service : String) : Prop :=
  s.Happens steps (·.Answers · l service)

/-- In a run, a load has stored the table that its fetch has made, which is the table with a number. -/
def Makes (s : Loads) (steps : List Step) (l : Nat) (service : String) (n : Nat) : Prop :=
  s.Happens steps fun s st => s.Stores st l service ∧ s.cache.nextTable = n

/-- A load begins one fetch at most. -/
theorem Asked.once (h : s.Asked steps l service) : ¬(s.run steps).Asked rest l service := by
  obtain ⟨b, hb, hrank⟩ : ∃ b, (s.run steps).IsAt l service b ∧ 3 ≤ b.rank := by
    refine Happens.rank_le h ?_
    rintro s st ⟨rfl, ⟨f, hcalls⟩, -⟩
    obtain ⟨work, ⟨c, hl, -⟩, rfl | ⟨n, rfl⟩⟩ := ask_leading hcalls
    · exact ⟨_, hl, Nat.le_refl _⟩
    · exact ⟨_, hl, Nat.le_of_lt (by simp [LoadStage.rank])⟩
  refine not_happens_of_rank hb ?_
  rintro s st ⟨-, ⟨f, c, hl, -⟩, -⟩
  exact ⟨_, hl, hrank⟩

/-- A load is answered once at most. -/
theorem Answered.once (h : s.Answered steps l service) : ¬(s.run steps).Answered rest l service := by
  obtain ⟨b, hb, hrank⟩ : ∃ b, (s.run steps).IsAt l service b ∧ 4 ≤ b.rank := by
    refine Happens.rank_le h ?_
    rintro s st ⟨given, f, rfl, hcalls⟩
    obtain ⟨c, hl, -⟩ := answer_leading hcalls given
    exact ⟨_, hl, Nat.le_refl _⟩
  refine not_happens_of_rank hb ?_
  rintro s st ⟨given, f, -, c, hl, -⟩
  exact ⟨_, hl, hrank⟩

/-- What holds after a run held before it, or comes about by a step of it. -/
theorem Coherent.happens_of_run {Q : Loads → Prop} (hs : s.Coherent)
    (hQ : ∀ {s st}, s.Coherent → Q (s.step st) → Q s ∨ R s st) (h : Q (s.run rest)) :
    Q s ∨ s.Happens rest R := by
  induction rest using List.reverseRecOn with
  | nil => exact .inl h
  | append_singleton rest st ih =>
    rw [run_concat] at h
    obtain hold | hR := hQ (hs.run rest) h
    · exact (ih hold).imp_right fun hearly => hearly.later (List.prefix_append ..)
    · exact .inr ⟨rest, st, List.prefix_rfl, hR⟩

/-- A load that waits for the registry has been waiting, or has asked since. -/
theorem Coherent.asked_since (hs : s.Coherent)
    (h : (s.run rest).Calls l service .asked (.leading f)) :
    s.Calls l service .asked (.leading f) ∨ s.Asked rest l service := by
  refine hs.happens_of_run (Q := (·.Calls l service .asked (.leading f))) (fun hs h => ?_) h
  obtain hold | ⟨work', q, hold, hgoes⟩ | ⟨hidle, -⟩ := hs.calls_of_step h
  · exact .inl hold
  · cases hgoes with
    | ask due => exact .inr ⟨rfl, ⟨f, hold⟩, due⟩
  · cases hidle

/-- A load that has an answer in hand had it before, or has been answered since. -/
theorem Coherent.answered_since (hs : s.Coherent)
    (h : (s.run rest).Calls l service (.answered given) (.leading f)) :
    s.Calls l service (.answered given) (.leading f) ∨ s.Answered rest l service := by
  refine hs.happens_of_run (Q := (·.Calls l service (.answered given) (.leading f)))
    (fun hs h => ?_) h
  obtain hold | ⟨work', q, hold, hgoes⟩ | ⟨hidle, -⟩ := hs.calls_of_step h
  · exact .inl hold
  · cases hgoes with
    | answer => exact .inr ⟨given, f, rfl, hold⟩
  · cases hidle

/-- A load that stores a table in a run has the answer in hand at the beginning, or is answered in the
run. -/
theorem Coherent.stores_since (hs : s.Coherent) (h : s.Makes rest l service n) :
    s.Stores (.settle l) l service ∨ s.Answered rest l service := by
  obtain ⟨past, st, hpast, ⟨-, given, f, table, hcalls, hmade⟩, -⟩ := h
  rw [(hs.config_run past).2] at hmade
  obtain hold | hanswered := hs.answered_since hcalls
  · exact .inl ⟨rfl, given, f, table, hold, hmade⟩
  · exact .inr (Happens.later hanswered ((List.prefix_append ..).trans hpast))

/-- A load that is answered in a run waits for the registry at the beginning, or asks in the run. -/
theorem Coherent.asked_of_answered (hs : s.Coherent) (h : s.Answered rest l service) :
    (∃ f, s.Calls l service .asked (.leading f)) ∨ s.Asked rest l service := by
  obtain ⟨past, st, hpast, given, f, -, hcalls⟩ := h
  obtain hold | hasked := hs.asked_since hcalls
  · exact .inl ⟨f, hold⟩
  · exact .inr (Happens.later hasked ((List.prefix_append ..).trans hpast))

theorem Coherent.nextTable_le_run (hs : s.Coherent) (rest : List Step) :
    s.cache.nextTable ≤ (s.run rest).cache.nextTable := by
  induction rest generalizing s with
  | nil => exact Nat.le_refl _
  | cons st rest ih => exact (hs.cache_step st).nextTable_le.trans (ih (hs.step st))

theorem Coherent.lt_nextTable (hs : s.Coherent) (h : s.Makes steps l service n) :
    n < (s.run steps).cache.nextTable := by
  obtain ⟨past, st, ⟨rest, rfl⟩, hstores, rfl⟩ := h
  obtain ⟨-, -, hnext, -⟩ := hstores.step
  have hle := ((hs.run past).step st).nextTable_le_run rest
  rw [run_append, run_concat]
  omega

/-! ## Fetches since the beginning -/

/-- No load has come yet. -/
structure IsNew (s : Loads) : Prop where
  coherent : s.Coherent
  loads : s.loads = []

theorem isNew_start (factory : SelectorFactory) (options : TableOptions) (ttl now : Nat) :
    (start factory options ttl now).IsNew :=
  ⟨coherent_start .., rfl⟩

theorem IsNew.not_calls (h₀ : s₀.IsNew) : ¬s₀.Calls l service work p := by
  rintro ⟨c, hl, -⟩
  rw [IsAt, h₀.loads] at hl
  cases hl

theorem IsNew.asked (h₀ : s₀.IsNew) (h : (s₀.run steps).Calls l service .asked (.leading f)) :
    s₀.Asked steps l service :=
  (h₀.coherent.asked_since h).resolve_left h₀.not_calls

theorem IsNew.answered (h₀ : s₀.IsNew)
    (h : (s₀.run steps).Calls l service (.answered given) (.leading f)) :
    s₀.Answered steps l service :=
  (h₀.coherent.answered_since h).resolve_left h₀.not_calls

/-- Who is answered has asked before. -/
theorem Answered.asked (h : s₀.Answered steps l service) (h₀ : s₀.IsNew) :
    s₀.Asked steps l service :=
  (h₀.coherent.asked_of_answered h).resolve_left fun ⟨_, hcalls⟩ => h₀.not_calls hcalls

/-- Who has made a table has asked before. -/
theorem Makes.asked (h : s₀.Makes steps l service n) (h₀ : s₀.IsNew) :
    s₀.Asked steps l service := by
  obtain ⟨-, given, f, table, hcalls, -⟩ | hanswered := h₀.coherent.stores_since h
  · exact absurd hcalls h₀.not_calls
  · exact hanswered.asked h₀

/-! ## After a push -/

/-- After a push, the table of a service is never replaced by one whose fetch was answered before.
Tables get their numbers in the order in which they are built. -/
def PushHolds (s₀ : Loads) (before : List Step) (service : String) (instances : List Instance) :
    Prop :=
  ∀ rest {entry l},
    (s₀.run (before ++ .push service instances :: rest)).cache.entries.get? service = some entry →
    ((s₀.run before).step (.push service instances)).cache.nextTable ≤ entry.table →
    s₀.Answered before l service →
      ¬s₀.Makes (before ++ .push service instances :: rest) l service entry.table

/-- By a push no load moves. -/
theorem calls_push {instances : List Instance} : (s.step (.push service instances)).Calls l service
    work p ↔ s.Calls l service work p := by
  have hdoes := s.does (.push service instances)
  generalize s.step (.push service instances) = u at hdoes
  cases hdoes with
  | nothing | push => exact Iff.rfl
  | move _ hmove =>
    cases hmove with
    | fly flies | land flies => cases flies

theorem Coherent.stores_push (hs : s.Coherent) (instances : List Instance) :
    (s.step (.push service instances)).Stores (.settle l) l service ↔
      s.Stores (.settle l) l service := by
  simp only [Stores, calls_push, (hs.cache_step _).config.2]

/-- **A push holds exactly if no refresh has an answer in hand that makes a table.** -/
theorem IsNew.pushHolds_iff (h₀ : s₀.IsNew) (instances : List Instance) :
    s₀.PushHolds before service instances ↔
      ∀ l, ¬(s₀.run before).Stores (.settle l) l service := by
  have hs := h₀.coherent.run before
  have hs' := hs.step (.push service instances)
  constructor
  · intro hholds l hstores
    have hanswered : s₀.Answered before l service := by
      obtain ⟨-, given, f, table, hcalls, -⟩ := hstores
      exact h₀.answered hcalls
    -- The load settles right after the push.
    have hlate := (hs.stores_push instances).2 hstores
    obtain ⟨-, hentry, -, -⟩ := hlate.step
    refine hholds [.settle l] (by rw [run_append]; exact hentry) (Nat.le_refl _) hanswered ?_
    exact happens_append.2 (.inr (happens_cons.2 (.inr (happens_cons.2 (.inl ⟨hlate, rfl⟩)))))
  · intro hnone rest entry l hentry hnew hanswered hmakes
    -- The table is too new to be made before the push; and whoever makes it after the push without an
    -- answer in hand at the push is answered twice.
    obtain hearly | hlate := happens_append.1 hmakes
    · have hold := h₀.coherent.lt_nextTable hearly
      have hle := (hs.cache_step (.push service instances)).nextTable_le
      omega
    · obtain ⟨⟨hst, -⟩, -⟩ | hlate := happens_cons.1 hlate
      · cases hst
      · obtain hstores | hagain := hs'.stores_since hlate
        · exact hnone l ((hs.stores_push instances).1 hstores)
        · exact hanswered.once (happens_cons.2 (.inr hagain))

/-! ## After an invalidation -/

/-- After an invalidation, nothing comes back of the fetches that had begun before: no entry has a table
that one of them made, and no load that comes later returns with one. -/
def InvalidationHolds (s₀ : Loads) (before : List Step) (service : String) : Prop :=
  ∀ rest {l n}, s₀.Asked before l service →
    s₀.Makes (before ++ .invalidate service :: rest) l service n →
      (∀ {entry}, (s₀.run (before ++ .invalidate service :: rest)).cache.entries.get? service =
        some entry → entry.table ≠ n) ∧
      ∀ {late}, (s₀.run before).loads.length ≤ late →
        ¬(s₀.run (before ++ .invalidate service :: rest)).IsAt late service (.returned (.ok n))

/-- A refresh is in progress by which an older table of a service can come back. -/
inductive CarriesOver (s₀ : Loads) (before : List Step) (service : String) : Prop where
  /-- The registry was asked. -/
  | asked {l f : Nat} (calls : (s₀.run before).Calls l service .asked (.leading f))
  /-- It has given a list that makes a table. -/
  | answered {l : Nat} (stores : (s₀.run before).Stores (.settle l) l service)
  /-- The cache has a fetched table, and whoever comes now still joins the flight. -/
  | settled {l k n f : Nat} {p : CallPhase TableResult}
      (calls : (s₀.run before).Calls l service (.settled (.ok n)) p) (held : p.held? = some f)
      (makes : s₀.Makes before k service n)

/-- All tables that a service is served from have a property from some moment on: the one in its entry,
those that some loads can return with, and those that are still to be built. -/
structure Supplies (s : Loads) (P : Nat → Prop) (T : Nat → Prop) (service : String) : Prop where
  entry : ∀ {entry}, s.cache.entries.get? service = some entry → P entry.table
  confined : s.Confined (fun v => ∀ n, v = .ok n → P n) T service
  next : ∀ {n}, s.cache.nextTable ≤ n → P n

variable {P T : Nat → Prop}

theorem Supplies.step (h : s.Supplies P T service) (hs : s.Coherent) (st : Step) :
    (s.step st).Supplies P T service where
  entry := by
    intro entry hentry
    obtain ⟨old, hold, htable⟩ | ⟨hnew, -⟩ := (hs.cache_step st).entry hentry
    · exact htable ▸ h.entry hold
    · exact hnew ▸ h.next (Nat.le_refl _)
  confined := by
    refine h.confined.step hs (fun hfresh n hn => ?_) fun {l f given} _ _ n hn => ?_
    · obtain ⟨entry, hentry, -, rfl⟩ := TableCache.fresh?_eq_some_iff.1 hfresh
      cases hn
      exact h.entry hentry
    · have hsettles := s.cache.settles s.now service given
      rw [hn] at hsettles
      generalize (s.cache.settle s.now service given).2.1 = outcome,
        (s.cache.settle s.now service given).2.2 = cache at hsettles
      cases hsettles with
      | made => exact h.next (Nat.le_refl _)
      | stale _ hentry => exact h.entry hentry
  next := fun hn => h.next ((hs.cache_step st).nextTable_le.trans hn)

theorem Supplies.run (h : s.Supplies P T service) (hs : s.Coherent) (rest : List Step) :
    (s.run rest).Supplies P T service := by
  induction rest generalizing s with
  | nil => exact h
  | cons st rest ih => exact ih (h.step hs st) (hs.step st)

/-- If a service has no entry and what is settled for its flights has a property, then so have all
tables that loads to come can return with. -/
theorem Coherent.supplies (hs : s.Coherent) (hentry : s.cache.entries.get? service = none)
    (hsettled : ∀ {l n p f}, s.Calls l service (.settled (.ok n)) p → p.held? = some f → P n)
    (hnext : ∀ {n}, s.cache.nextTable ≤ n → P n) :
    s.Supplies P (s.loads.length ≤ ·) service where
  entry := fun hsome => nomatch hentry.symm.trans hsome
  next := hnext
  confined := by
    refine ⟨?_, fun hlate hreturned => absurd hreturned.lt (Nat.not_lt.2 hlate)⟩
    rintro f (hregistered | ⟨late, hlate, _, _, ⟨c, hjoined, -⟩, -⟩)
    · refine ⟨?_, ?_⟩
      · rintro v hfinished n rfl
        -- The leader of a flight with a value has settled it.
        obtain ⟨c, p, hc, hp⟩ := hs.flights.registered.1 hregistered
        have houtcome := hs.flights.outcome hc (CallPhase.led?_of_held? hp)
        cases p with
        | finishing g w =>
          cases hfinished.symm.trans houtcome
          obtain ⟨l, work, hl⟩ := hs.owned hc (CallPhase.flight?_of_led? (CallPhase.led?_of_held? hp))
          obtain rfl : work = _ := hs.fits ⟨c, hl, hc⟩
          exact hsettled ⟨c, hl, hc⟩ hp
        | leading => cases hfinished.symm.trans houtcome
        | waiting | dropping | returned | cancelled => cases hp
      · rintro l v hcalls n rfl
        exact hsettled hcalls rfl
    · exact absurd hjoined.lt (Nat.not_lt.2 hlate)

/-- A load comes while another one has a table in hand, joins its flight and is woken when the flight is
over. -/
def comeLate (late l : Nat) (service : String) : List Step :=
  [.arrive service, .look late, .join late, .finish l, .wake late]

theorem Coherent.calls_stays (hs : s.Coherent) (h : s.Calls l service work p) (st : Step)
    (hgoes : ∀ {work' q}, ¬s.GoesOn st l service work p work' q)
    (hreturns : ∀ {v}, ¬s.Returns st l work p v) : (s.step st).Calls l service work p :=
  (hs.calls_step h st).resolve_right fun hmoves =>
    hmoves.elim (fun ⟨_, _, hgoes', _⟩ => hgoes hgoes') fun ⟨_, hreturns', _⟩ => hreturns hreturns'

/-- A load that comes late returns with what is settled for the flight that is registered. -/
theorem Coherent.returns_late (hs : s.Coherent) (hcalls : s.Calls l service (.settled v) p)
    (hp : p.held? = some f) (hdue : s.cache.fresh? s.now service = none) :
    (s.run (comeLate s.loads.length l service)).IsAt s.loads.length service (.returned v) := by
  have harrived : (s.step (.arrive service)).IsAt s.loads.length service .arrived :=
    isAt_arrive.2 (.inl ⟨rfl, rfl, rfl⟩)
  have hcalls := hs.calls_stays hcalls (.arrive service) nofun nofun
  have hs := hs.step (.arrive service)
  have hmissed := look_due harrived hdue
  have hcalls := hs.calls_stays hcalls (.look s.loads.length) nofun nofun
  have hs := hs.step (.look s.loads.length)
  obtain ⟨c, -, hc⟩ := id hcalls
  have hwaits := join_registered hmissed (hs.flights.registered.2 ⟨c, p, hc, hp⟩)
  have hcalls := hs.calls_stays hcalls (.join s.loads.length) nofun nofun
  have hs := hs.step (.join s.loads.length)
  refine wake_waiting (hs.calls_stays hwaits (.finish l) nofun nofun) ?_
  cases p with
  | leading g =>
    cases hp
    exact finish_leading hcalls (hs.lt_length ⟨_, _, hcalls, rfl⟩)
  | finishing g w =>
    cases hp
    obtain ⟨c, -, hc⟩ := id hcalls
    cases hs.fits hcalls
    exact hs.finished_step (hs.flights.outcome hc rfl) _
  | waiting | dropping | returned | cancelled => cases hp

/-- Whoever waits for the registry can be given an empty list, and that makes a table. -/
theorem Calls.stores_answer (h : s.Calls l service .asked (.leading f)) :
    (s.step (.answer l (.ok []))).Stores (.settle l) l service := by
  have hmade := ServiceTable.build_cases (s.step (.answer l (.ok []))).cache.factory
    (s.step (.answer l (.ok []))).cache.options []
  obtain ⟨table, htable, -⟩ | ⟨i, hi, -⟩ := hmade
  · exact ⟨rfl, .ok [], f, table, answer_leading h _, htable⟩
  · cases hi

theorem InvalidationHolds.not_stores (h : s₀.InvalidationHolds before service) (mid : List Step)
    (hasked : s₀.Asked before l service) :
    ¬(s₀.run (before ++ .invalidate service :: mid)).Stores (.settle l) l service := by
  intro hstores
  obtain ⟨-, hentry, -, -⟩ := hstores.step
  have hsteps : before ++ .invalidate service :: (mid ++ [.settle l]) =
      before ++ .invalidate service :: mid ++ [.settle l] := by simp
  rw [← run_concat, ← hsteps] at hentry
  exact (h (mid ++ [.settle l]) hasked ⟨_, _, hsteps ▸ List.prefix_rfl, hstores, rfl⟩).1 hentry rfl

/-- Each refresh that is in progress brings an older table back if the right steps follow. -/
theorem CarriesOver.not_holds (h : s₀.CarriesOver before service) (h₀ : s₀.IsNew) :
    ¬s₀.InvalidationHolds before service := by
  intro hholds
  have hs := h₀.coherent.run before
  cases h with
  | @asked l f calls =>
    refine hholds.not_stores [.answer l (.ok [])] (h₀.asked calls) ?_
    rw [run_append]
    exact Calls.stores_answer (s := (s₀.run before).step (.invalidate service)) calls
  | @answered l stores =>
    obtain ⟨-, given, f, table, calls, hmade⟩ := id stores
    refine hholds.not_stores [] ((h₀.answered calls).asked h₀) ?_
    rw [run_append]
    exact stores
  | @settled l k n f p calls held makes =>
    have hdue : ((s₀.run before).step (.invalidate service)).cache.fresh? (s₀.run before).now
        service = none := by
      simp [TableCache.fresh?, step]
    have hlater := Happens.later makes (List.prefix_append before
      (.invalidate service :: comeLate (s₀.run before).loads.length l service))
    refine (hholds _ (makes.asked h₀) hlater).2 (Nat.le_refl _) ?_
    rw [run_append]
    exact (hs.step (.invalidate service)).returns_late calls held hdue

/-- What is made of the fetches that had begun before an invalidation was made before it, unless a
refresh carries it over. -/
theorem IsNew.makes_before (h₀ : s₀.IsNew) (hcarries : ¬s₀.CarriesOver before service)
    (hasked : s₀.Asked before l service)
    (hmakes : s₀.Makes (before ++ .invalidate service :: rest) l service n) :
    s₀.Makes before l service n := by
  have hs := h₀.coherent.run before
  have hs' := hs.step (.invalidate service)
  obtain hearly | hlate := happens_append.1 hmakes
  · exact hearly
  -- Otherwise the load was on its way at the invalidation, or asks twice.
  · exfalso
    obtain ⟨⟨hst, -⟩, -⟩ | hlate := happens_cons.1 hlate
    · cases hst
    · obtain hstores | hanswered := hs'.stores_since hlate
      · exact hcarries (.answered hstores)
      · obtain ⟨f, hcalls⟩ | hagain := hs'.asked_of_answered hanswered
        · exact hcarries (.asked hcalls)
        · exact hasked.once (happens_cons.2 (.inr hagain))

/-- **An invalidation holds exactly if no refresh is in progress by which an older table can come
back.** -/
theorem IsNew.invalidationHolds_iff (h₀ : s₀.IsNew) :
    s₀.InvalidationHolds before service ↔ ¬s₀.CarriesOver before service := by
  have hs := h₀.coherent.run before
  refine ⟨fun hholds hcarries => hcarries.not_holds h₀ hholds, ?_⟩
  intro hcarries rest l n hasked hmakes
  have hold := h₀.makes_before hcarries hasked hmakes
  -- From the invalidation on, the service is not served from a table that a fetch made before.
  have hentry : ((s₀.run before).step (.invalidate service)).cache.entries.get? service = none :=
    (TableCache.get?_invalidate ..).trans (if_pos rfl)
  have hsupplies := (hs.step (.invalidate service)).supplies
    (P := fun n => ∀ k, ¬s₀.Makes before k service n) hentry
    (fun hcalls hheld k hmakes => hcarries (.settled hcalls hheld hmakes))
    (fun hnext k hmakes => absurd (h₀.coherent.lt_nextTable hmakes) (Nat.not_lt.2 hnext))
  have hend := hsupplies.run (hs.step _) rest
  rw [run_append]
  refine ⟨?_, fun hlate hreturned => ?_⟩
  · rintro entry hentry rfl
    exact hend.entry hentry l hold
  · exact hend.confined.returned hlate hreturned n rfl l hold

/-- **What is older comes back exactly through a refresh that is in progress.** -/
theorem push_and_invalidation_hold_iff (factory : SelectorFactory) (options : TableOptions)
    (ttl now : Nat) (before : List Step) (service : String) :
    (∀ instances, (start factory options ttl now).PushHolds before service instances ↔
      ∀ l, ¬((start factory options ttl now).run before).Stores (.settle l) l service) ∧
    ((start factory options ttl now).InvalidationHolds before service ↔
      ¬(start factory options ttl now).CarriesOver before service) :=
  have h₀ := isNew_start factory options ttl now
  ⟨h₀.pushHolds_iff, h₀.invalidationHolds_iff⟩

/-- What was fetched before a push replaces what was pushed, and a load that comes after an invalidation
returns with a table whose fetch had begun before. -/
theorem overtaken_refreshes_come_back :
    let old : Instance := { address := "10.0.0.1", port := 80 }
    let new : Instance := { address := "10.0.0.2", port := 80 }
    let s := start {} {} 10000 0
    let answered := opening 1 "users" ++ [.answer 0 (.ok [old])]
    let pushed := s.run (answered ++ [.push "users" [new], .settle 0])
    let invalidated := s.run (opening 1 "users" ++
      [.invalidate "users", .arrive "users", .look 1, .join 1, .answer 0 (.ok [old]), .settle 0,
        .finish 0, .wake 1])
    (¬s.PushHolds answered "users" [new] ∧
      pushed.cache.entries.get? "users" = some ⟨1, 10000⟩ ∧
      (pushed.cache.table? 0).map (·.instances) = some [new.normalize] ∧
      (pushed.cache.table? 1).map (·.instances) = some [old.normalize]) ∧
    ¬s.InvalidationHolds (opening 1 "users") "users" ∧
      invalidated.IsAt 1 "users" (.returned (.ok 0)) ∧
      (invalidated.cache.table? 0).map (·.instances) = some [old.normalize] := by
  have hcarries : (start {} {} 10000 0).CarriesOver (opening 1 "users") "users" :=
    .asked (l := 0) (f := 0) ⟨0, rfl, rfl⟩
  refine ⟨⟨fun hholds => ?_, by decide +kernel, by decide +kernel, by decide +kernel⟩,
    hcarries.not_holds (isNew_start ..), rfl, by decide +kernel⟩
  exact ((isNew_start ..).pushHolds_iff _).1 hholds 0 ⟨rfl, .ok [_], 0, _, ⟨0, rfl, rfl⟩, rfl⟩

end Loads

end TrafficGateway
