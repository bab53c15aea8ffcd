import TrafficGateway.Discovery.Loads
import TrafficGateway.Proofs.Discovery.Cache
import TrafficGateway.Proofs.Discovery.Flight.Step

/-!
# How loads go on

Most steps of loads at the same time move one load, from its stage to another (`Loads.Move`); the others
bring a load, change the cache or let time pass (`Loads.does`). A load that has joined a flight is one
caller of the flights, and how far its refresh has come fits the phase of that caller (`Fits`): whoever
waits has done nothing, and who has handed a table over has settled it before.

Loads and callers stay coherent (`Loads.Coherent`), whatever the steps are.

## Main definitions

* `Loads.IsAt`, `Loads.Calls`: how far a load has come, and the phase that its caller is in.
* `Loads.Move`, `Loads.Does`: what a step does.
* `Loads.GoesOn`, `Loads.Returns`: what can happen to a load that has joined a flight.
* `Loads.Coherent`: the invariant.
* `Loads.start`: a cache as it is created.
-/

namespace TrafficGateway

/-- What a load returns with. -/
abbrev TableResult := Except BackendError Nat

namespace Loads

/-! ## Stages -/

/-- A load of a service has come to a stage. -/
def IsAt (s : Loads) (l : Nat) (service : String) (stage : LoadStage) : Prop :=
  s.loads[l]? = some ⟨service, stage⟩

/-- A load has joined a flight; its refresh has come to `work`, and its caller is in the phase `p`. -/
def Calls (s : Loads) (l : Nat) (service : String) (work : RefreshStage)
    (p : CallPhase TableResult) : Prop :=
  ∃ c, s.IsAt l service (.joined c work) ∧ s.flights.IsAt c service p

variable {s t : Loads} {st : Step} {l m c : Nat} {service other : String} {a b stage : LoadStage}
  {work : RefreshStage} {p : CallPhase TableResult} {v : TableResult}

theorem IsAt.unique (h : s.IsAt l service a) (h' : s.IsAt l other b) : service = other ∧ a = b := by
  cases h.symm.trans h'
  exact ⟨rfl, rfl⟩

theorem IsAt.lt (h : s.IsAt l service a) : l < s.loads.length :=
  (List.getElem?_eq_some_iff.1 h).1

/-- Where loads are after one of them was put into a stage. -/
theorem isAt_setStage (hl : s.IsAt l service a) (ht : t.loads = s.loads) :
    (t.setStage l b).IsAt m other stage ↔
      l = m ∧ service = other ∧ b = stage ∨ l ≠ m ∧ s.IsAt m other stage := by
  rw [IsAt, setStage, ht, List.getElem?_modify]
  by_cases hlm : l = m
  · subst hlm
    rw [hl]
    simp
  · simp [hlm, IsAt]

/-- Where loads are after one has come. -/
theorem isAt_arrive : (s.arrive service).IsAt m other stage ↔
    m = s.loads.length ∧ service = other ∧ stage = .arrived ∨ s.IsAt m other stage := by
  rw [IsAt, arrive, IsAt, List.getElem?_append]
  split
  · next hlt =>
    exact ⟨.inr, fun h => h.resolve_left fun hnew => absurd hnew.1 (Nat.ne_of_lt hlt)⟩
  · next hle =>
    have hnone : s.loads[m]? = none := List.getElem?_eq_none (Nat.not_lt.1 hle)
    rw [hnone, List.getElem?_singleton]
    by_cases hm : m = s.loads.length
    · simp [hm, eq_comm]
    · have hne : m - s.loads.length ≠ 0 := by omega
      simp [hm, hne]

theorem setStage_self (hl : s.IsAt l service a) : s.setStage l a = s := by
  have hloads : s.loads.modify l (fun x => { x with stage := a }) = s.loads := by
    refine List.ext_getElem? fun m => ?_
    rw [List.getElem?_modify]
    by_cases hlm : l = m
    · subst hlm
      rw [hl]
      simp
    · simp [hlm]
  rw [setStage, hloads]

theorem leads_iff : s.leads c = true ↔ ∃ f, s.flights.phase? c = some (.leading f) := by
  unfold leads
  split <;> simp_all

/-! ## Moves -/

/-- The steps of loads that are steps of their callers. -/
inductive Flies : Step → Nat → Nat → RefreshStage → Flights.Step String TableResult → Prop
  | leave {l c : Nat} {work : RefreshStage} : Flies (.leave l) l c work (.leave c)
  | wake {l c : Nat} {work : RefreshStage} : Flies (.wake l) l c work (.wake c)
  /-- Who has settled an answer is not cancelled. -/
  | cancel {l c : Nat} {work : RefreshStage} (unsettled : ∀ v, work ≠ .settled v) :
      Flies (.cancel l) l c work (.cancel c)
  | giveUp {l c : Nat} {work : RefreshStage} : Flies (.giveUp l) l c work (.giveUp c)

/-- `s.Move st l service a b t`: by the step `st`, the load `l` of a service goes from the stage `a` to
`b`, and apart from it the state becomes `t`. -/
inductive Move (s : Loads) : Step → Nat → String → LoadStage → LoadStage → Loads → Prop
  /-- It finds a fresh table. -/
  | hit {l n : Nat} {service : String} (fresh : s.cache.fresh? s.now service = some n) :
      s.Move (.look l) l service .arrived (.returned (.ok n)) s
  /-- It finds none. -/
  | miss {l : Nat} {service : String} (due : s.cache.fresh? s.now service = none) :
      s.Move (.look l) l service .arrived .missed s
  /-- It becomes a caller of the flights. -/
  | join {l : Nat} {service : String} :
      s.Move (.join l) l service .missed (.joined s.flights.nextCaller .idle)
        { s with flights := s.flights.step (.arrive service) }
  /-- It leads and finds that there is a fresh table by now. -/
  | reuse {l c n : Nat} {service : String} (leads : s.leads c = true)
      (fresh : s.cache.fresh? s.now service = some n) :
      s.Move (.ask l) l service (.joined c .idle) (.joined c (.settled (.ok n))) s
  /-- It leads and asks the registry. -/
  | ask {l c : Nat} {service : String} (leads : s.leads c = true)
      (due : s.cache.fresh? s.now service = none) :
      s.Move (.ask l) l service (.joined c .idle) (.joined c .asked) s
  /-- It is answered. -/
  | answer {l c : Nat} {service : String} {given : FetchAnswer} (leads : s.leads c = true) :
      s.Move (.answer l given) l service (.joined c .asked) (.joined c (.answered given)) s
  /-- It hands its answer to the cache. -/
  | settle {l c : Nat} {service : String} {given : FetchAnswer} (leads : s.leads c = true) :
      s.Move (.settle l) l service (.joined c (.answered given))
        (.joined c (.settled (s.cache.settle s.now service given).1))
        { s with
          cache := (s.cache.settle s.now service given).2.2
          outcomes := s.outcomes ++ [(service, (s.cache.settle s.now service given).2.1)] }
  /-- It hands its table to its flight. -/
  | finish {l c : Nat} {service : String} {v : TableResult} :
      s.Move (.finish l) l service (.joined c (.settled v)) (.joined c (.settled v))
        { s with flights := s.flights.step (.finish c v) }
  /-- Its caller takes a step and goes on calling. -/
  | fly {st : Step} {l c : Nat} {service : String} {work : RefreshStage}
      {fs : Flights.Step String TableResult} (flies : Flies st l c work fs)
      (value : (s.flights.step fs).value? c = none) :
      s.Move st l service (.joined c work) (.joined c work)
        { s with flights := s.flights.step fs }
  /-- Its caller takes a step and has a table. -/
  | land {st : Step} {l c : Nat} {service : String} {work : RefreshStage} {v : TableResult}
      {fs : Flights.Step String TableResult} (flies : Flies st l c work fs)
      (value : (s.flights.step fs).value? c = some v) :
      s.Move st l service (.joined c work) (.returned v)
        { s with flights := s.flights.step fs }
  /-- It is cancelled before it has joined a flight. -/
  | go {l : Nat} {service : String} {a : LoadStage} (early : a = .arrived ∨ a = .missed) :
      s.Move (.cancel l) l service a .cancelled s

theorem Move.loads (h : s.Move st l service a b t) : t.loads = s.loads := by
  cases h <;> rfl

/-- What a step does: nothing, it moves one load, or it changes what loads share. -/
inductive Does (s : Loads) : Step → Loads → Prop
  | nothing {st : Step} : s.Does st s
  | arrive {service : String} : s.Does (.arrive service) (s.arrive service)
  | move {st : Step} {l : Nat} {service : String} {a b : LoadStage} {t : Loads}
      (isAt : s.IsAt l service a) (move : s.Move st l service a b t) : s.Does st (t.setStage l b)
  | push {service : String} {instances : List Instance} {table : ServiceTable}
      (made : s.cache.buildTable instances = .ok table) :
      s.Does (.push service instances) { s with cache := s.cache.store s.now service table }
  | invalidate {service : String} :
      s.Does (.invalidate service) { s with cache := s.cache.invalidate service }
  | wait {ms : Nat} : s.Does (.wait ms) { s with now := s.now + ms }

/-- A step of the caller of a load. -/
theorem does_fly {fs : Flights String TableResult → Nat → Flights String TableResult}
    (step : Nat → Flights.Step String TableResult) (hfs : ∀ u d, fs u d = u.step (step d))
    (hflies : ∀ service c work, s.IsAt l service (.joined c work) → Flies st l c work (step c)) :
    s.Does st (s.fly l fs) := by
  unfold fly
  split
  · next service c work hl =>
    dsimp only
    rw [hfs]
    split
    · next v hv => exact .move hl (.land (hflies service c work hl) hv)
    · next hnone =>
      have hself : ({ s with flights := s.flights.step (step c) } : Loads).IsAt l service
          (.joined c work) := hl
      rw [← setStage_self hself]
      exact .move hl (.fly (hflies service c work hl) hnone)
  · exact .nothing

theorem does (s : Loads) (st : Step) : s.Does st (s.step st) := by
  cases st with
  | arrive service => exact .arrive
  | look l =>
    simp only [step, look]
    split
    · next service hl =>
      split
      · next n hn => exact .move hl (.hit hn)
      · next hnone => exact .move hl (.miss hnone)
    · exact .nothing
  | join l =>
    simp only [step, join]
    split
    · next service hl => exact .move hl .join
    · exact .nothing
  | ask l =>
    simp only [step, ask]
    split
    · next service c hl =>
      split
      · next hleads =>
        split
        · next n hn => exact .move hl (.reuse hleads hn)
        · next hnone => exact .move hl (.ask hleads hnone)
      · exact .nothing
    · exact .nothing
  | answer l given =>
    simp only [step, answer]
    split
    · next service c hl =>
      split
      · next hleads => exact .move hl (.answer hleads)
      · exact .nothing
    · exact .nothing
  | settle l =>
    simp only [step, settle]
    split
    · next service c given hl =>
      split
      · next hleads => exact .move hl (.settle hleads)
      · exact .nothing
    · exact .nothing
  | finish l =>
    simp only [step, finish]
    split
    · next service c v hl =>
      have hself : ({ s with flights := s.flights.finish c v } : Loads).IsAt l service
          (.joined c (.settled v)) := hl
      rw [← setStage_self hself]
      exact .move hl .finish
    · exact .nothing
  | leave l => exact does_fly .leave (fun _ _ => rfl) fun _ _ _ _ => .leave
  | wake l => exact does_fly .wake (fun _ _ => rfl) fun _ _ _ _ => .wake
  | giveUp l => exact does_fly .giveUp (fun _ _ => rfl) fun _ _ _ _ => .giveUp
  | cancel l =>
    simp only [step, cancel]
    split
    · next service hl => exact .move hl (.go (.inl rfl))
    · next service hl => exact .move hl (.go (.inr rfl))
    · exact .nothing
    · next hsettled =>
      refine does_fly .cancel (fun _ _ => rfl) fun service c work hl => .cancel ?_
      rintro v rfl
      exact hsettled service c v hl
  | push service instances =>
    simp only [step, push, TableCache.update]
    cases hmade : s.cache.buildTable instances with
    | error e => exact .nothing
    | ok table => exact .push hmade
  | invalidate service => exact .invalidate
  | wait ms => exact .wait

/-! ## Loads and their callers -/

/-- How far the refresh of a load can have come in the phase of its caller. -/
def Fits (work : RefreshStage) : CallPhase TableResult → Prop
  | .waiting _ => work = .idle
  | .leading _ => True
  | .finishing _ v => work = .settled v
  | .dropping _ => ∀ v, work ≠ .settled v
  | .returned _ => False
  | .cancelled => ∀ v, work ≠ .settled v

/-- `s.GoesOn st l service work p work' p'`: by the step `st` the load `l`, which has joined a flight,
goes on from `work` and `p` to `work'` and `p'`. -/
inductive GoesOn (s : Loads) : Step → Nat → String → RefreshStage → CallPhase TableResult →
    RefreshStage → CallPhase TableResult → Prop
  | reuse {l f n : Nat} {service : String} (fresh : s.cache.fresh? s.now service = some n) :
      s.GoesOn (.ask l) l service .idle (.leading f) (.settled (.ok n)) (.leading f)
  | ask {l f : Nat} {service : String} (due : s.cache.fresh? s.now service = none) :
      s.GoesOn (.ask l) l service .idle (.leading f) .asked (.leading f)
  | answer {l f : Nat} {service : String} {given : FetchAnswer} :
      s.GoesOn (.answer l given) l service .asked (.leading f) (.answered given) (.leading f)
  | settle {l f : Nat} {service : String} {given : FetchAnswer} :
      s.GoesOn (.settle l) l service (.answered given) (.leading f)
        (.settled (s.cache.settle s.now service given).1) (.leading f)
  | finish {l f : Nat} {service : String} {v : TableResult} :
      s.GoesOn (.finish l) l service (.settled v) (.leading f) (.settled v) (.finishing f v)
  /-- Its flight was given up, and it waits for the one that is registered. -/
  | wait {l f g : Nat} {service : String} (abandoned : s.flights.outcome? f = some .abandoned)
      (registered : s.flights.registered.get? service = some g) :
      s.GoesOn (.wake l) l service .idle (.waiting f) .idle (.waiting g)
  /-- Its flight was given up, and it leads the next one. -/
  | lead {l f : Nat} {service : String} (abandoned : s.flights.outcome? f = some .abandoned)
      (unregistered : s.flights.registered.get? service = none) :
      s.GoesOn (.wake l) l service .idle (.waiting f) .idle (.leading s.flights.flights.length)
  | go {l f : Nat} {service : String} :
      s.GoesOn (.cancel l) l service .idle (.waiting f) .idle .cancelled
  | drop {l f : Nat} {service : String} {work : RefreshStage}
      (unsettled : ∀ v, work ≠ .settled v) :
      s.GoesOn (.cancel l) l service work (.leading f) work (.dropping f)
  | giveUp {l f : Nat} {service : String} {work : RefreshStage} :
      s.GoesOn (.giveUp l) l service work (.dropping f) work .cancelled

/-- `s.Returns st l work p v`: by the step `st` the load `l`, which has joined a flight, returns with
`v`. -/
inductive Returns (s : Loads) : Step → Nat → RefreshStage → CallPhase TableResult → TableResult →
    Prop
  | leave {l f : Nat} {v : TableResult} : s.Returns (.leave l) l (.settled v) (.finishing f v) v
  | wake {l f : Nat} {v : TableResult} (finished : s.flights.outcome? f = some (.finished v)) :
      s.Returns (.wake l) l .idle (.waiting f) v

theorem GoesOn.fits {work' : RefreshStage} {q : CallPhase TableResult}
    (h : s.GoesOn st l service work p work' q) (hfits : Fits work p) : Fits work' q := by
  cases h with
  | reuse | ask | answer | settle | lead => trivial
  | finish | wait => rfl
  | go => exact nofun
  | drop unsettled => exact unsettled
  | giveUp => exact hfits

theorem value?_eq_some_iff {u : Flights String TableResult} :
    u.value? c = some v ↔ ∃ k, u.IsAt c k (.returned v) := by
  unfold Flights.value?
  constructor
  · intro h
    split at h
    · next w hw =>
      cases h
      exact Flights.isAt_of_phase? hw
    · cases h
  · rintro ⟨k, hc⟩
    have hphase : u.phase? c = some (.returned v) := congrArg (Option.map _) hc
    rw [hphase]

/-- By a step of its caller a load stays as it is, goes on, or gets the value that it returns with. -/
theorem Flies.cases {fs : Flights.Step String TableResult} (h : Flies st l c work fs)
    (hc : s.flights.IsAt c service p) (hfits : Fits work p) :
    (s.flights.step fs).IsAt c service p ∨
      (∃ q, (s.flights.step fs).IsAt c service q ∧ s.GoesOn st l service work p work q) ∨
      ∃ v, (s.flights.step fs).IsAt c service (.returned v) ∧ s.Returns st l work p v := by
  obtain hstays | ⟨q, u, hmove, hstep⟩ := hc.step fs
  · exact .inl hstays
  · have hq : (s.flights.step fs).IsAt c service q :=
      hstep ▸ Flights.isAt_put_self hc hmove.callers
    right
    cases h with
    | leave =>
      cases hmove with
      | wait hjoins | lead hjoins => exact hjoins.elim
      | leave hd =>
        obtain ⟨-, rfl⟩ := hc.unique hd
        obtain rfl := hfits
        exact .inr ⟨_, hq, .leave⟩
    | wake =>
      -- Who wakes waits for a flight, and so has done nothing yet.
      cases hmove with
      | wait hjoins registered =>
        obtain ⟨-, f, hd, abandoned⟩ := hjoins.of_isAt hc
        obtain ⟨-, rfl⟩ := hc.unique hd
        obtain rfl := hfits
        exact .inl ⟨_, hq, .wait abandoned registered⟩
      | lead hjoins unregistered =>
        obtain ⟨-, f, hd, abandoned⟩ := hjoins.of_isAt hc
        obtain ⟨-, rfl⟩ := hc.unique hd
        obtain rfl := hfits
        exact .inl ⟨_, hq, .lead abandoned unregistered⟩
      | answer hd finished =>
        obtain ⟨-, rfl⟩ := hc.unique hd
        obtain rfl := hfits
        exact .inr ⟨_, hq, .wake finished⟩
    | cancel unsettled =>
      cases hmove with
      | wait hjoins | lead hjoins => exact hjoins.elim
      | go hd =>
        obtain ⟨-, rfl⟩ := hc.unique hd
        obtain rfl := hfits
        exact .inl ⟨_, hq, .go⟩
      | drop hd =>
        obtain ⟨-, rfl⟩ := hc.unique hd
        exact .inl ⟨_, hq, .drop unsettled⟩
    | giveUp =>
      cases hmove with
      | wait hjoins | lead hjoins => exact hjoins.elim
      | giveUp hd =>
        obtain ⟨-, rfl⟩ := hc.unique hd
        exact .inl ⟨_, hq, .giveUp⟩

/-- The caller of a load takes a step and goes on calling. -/
theorem Flies.fits {fs : Flights.Step String TableResult} (h : Flies st l c work fs)
    (hc : s.flights.IsAt c service p) (hfits : Fits work p)
    (hvalue : (s.flights.step fs).value? c = none) :
    ∃ q, (s.flights.step fs).IsAt c service q ∧ Fits work q := by
  obtain hstays | ⟨q, hq, hgoes⟩ | ⟨v, hreturned, -⟩ := h.cases hc hfits
  · exact ⟨p, hstays, hfits⟩
  · exact ⟨q, hq, hgoes.fits hfits⟩
  · rw [value?_eq_some_iff.2 ⟨service, hreturned⟩] at hvalue
    cases hvalue

theorem Flies.mover {fs : Flights.Step String TableResult} (h : Flies st l c work fs)
    (u : Flights String TableResult) : u.mover fs = c := by
  cases h <;> rfl

/-! ## Coherence -/

/-- Loads and callers fit each other. -/
structure Coherent (s : Loads) : Prop where
  flights : s.flights.Coherent
  /-- A load that has joined a flight is a caller that asks for its service. -/
  calls : ∀ {l service c work}, s.IsAt l service (.joined c work) →
    ∃ p, s.flights.IsAt c service p ∧ Fits work p
  /-- No two loads are the same caller. -/
  distinct : ∀ {l m service other c work work'}, s.IsAt l service (.joined c work) →
    s.IsAt m other (.joined c work') → l = m
  /-- Callers that wait for a flight or lead one are loads. -/
  owned : ∀ {c service p f}, s.flights.IsAt c service p → p.flight? = some f →
    ∃ l work, s.IsAt l service (.joined c work)

/-- A load leads that is a leading caller. -/
theorem Coherent.leading (hs : s.Coherent) (hl : s.IsAt l service (.joined c work))
    (hleads : s.leads c = true) : ∃ f, s.flights.IsAt c service (.leading f) := by
  obtain ⟨f, hf⟩ := leads_iff.1 hleads
  obtain ⟨k, hc⟩ := Flights.isAt_of_phase? hf
  obtain ⟨p, hp, -⟩ := hs.calls hl
  obtain ⟨rfl, rfl⟩ := hp.unique hc
  exact ⟨f, hp⟩

/-- A load goes to another stage while its caller `c`, and no other, moves. -/
theorem Coherent.put (hs : s.Coherent) (hl : s.IsAt l service a) (ht : t.loads = s.loads)
    (hflights : t.flights.Coherent)
    (hown : ∀ {m other work}, s.IsAt m other (.joined c work) → m = l)
    (hleft : ∀ {d work}, a = .joined d work → d = c)
    (hothers : ∀ {d k p}, d ≠ c → (t.flights.IsAt d k p ↔ s.flights.IsAt d k p))
    (hcalls : ∀ {d work}, b = .joined d work →
      d = c ∧ ∃ p, t.flights.IsAt c service p ∧ Fits work p)
    (howned : ∀ {k p f}, t.flights.IsAt c k p → p.flight? = some f →
      k = service ∧ ∃ work, b = .joined c work) : (t.setStage l b).Coherent := by
  have hat {m : Nat} {other : String} {stage : LoadStage} :
      (t.setStage l b).IsAt m other stage ↔
        l = m ∧ service = other ∧ b = stage ∨ l ≠ m ∧ s.IsAt m other stage :=
    isAt_setStage hl ht
  -- The caller of another load is not `c`.
  have hne {m other d work} (hlm : l ≠ m) (hm : s.IsAt m other (.joined d work)) : d ≠ c :=
    fun hd => hlm (hown (hd ▸ hm)).symm
  constructor
  case flights => exact hflights
  case calls =>
    intro m other d work hm
    obtain ⟨rfl, rfl, rfl⟩ | ⟨hlm, hm⟩ := hat.1 hm
    · obtain ⟨rfl, hp⟩ := hcalls rfl
      exact hp
    · obtain ⟨p, hp, hfits⟩ := hs.calls hm
      exact ⟨p, (hothers (hne hlm hm)).2 hp, hfits⟩
  case distinct =>
    intro m n other other' d work work' hm hn
    obtain ⟨rfl, rfl, rfl⟩ | ⟨hlm, hm⟩ := hat.1 hm <;>
      obtain ⟨rfl, rfl, hb⟩ | ⟨hln, hn⟩ := hat.1 hn
    · rfl
    · exact absurd (hcalls rfl).1 (hne hln hn)
    · exact absurd (hcalls hb).1 (hne hlm hm)
    · exact hs.distinct hm hn
  case owned =>
    intro d k p f hd hp
    -- What `c` holds belongs to `l`, and what other callers hold to the load that it did.
    by_cases hdc : d = c
    · subst hdc
      obtain ⟨rfl, work, hb⟩ := howned hd hp
      exact ⟨l, work, hat.2 (.inl ⟨rfl, rfl, hb⟩)⟩
    · obtain ⟨m, work, hm⟩ := hs.owned ((hothers hdc).1 hd) hp
      refine ⟨m, work, hat.2 (.inr ⟨?_, hm⟩)⟩
      rintro rfl
      exact hdc (hleft (hl.unique hm).2)

/-- A load keeps its caller. -/
theorem Coherent.put_joined {work' : RefreshStage} {q : CallPhase TableResult} (hs : s.Coherent)
    (hl : s.IsAt l service (.joined c work)) (ht : t.loads = s.loads) (hflights : t.flights.Coherent)
    (hothers : ∀ {d k p}, d ≠ c → (t.flights.IsAt d k p ↔ s.flights.IsAt d k p))
    (hq : t.flights.IsAt c service q) (hfits : Fits work' q) :
    (t.setStage l (.joined c work')).Coherent := by
  refine hs.put (c := c) hl ht hflights (fun hm => hs.distinct hm hl) ?_ hothers ?_ ?_
  · rintro d work ⟨⟩
    rfl
  · rintro d work ⟨⟩
    exact ⟨rfl, q, hq, hfits⟩
  · intro k p f hd _
    exact ⟨(hd.unique hq).1, _, rfl⟩

/-- A load goes to another stage before it has a caller, or without one. -/
theorem Coherent.put_still (hs : s.Coherent) (hl : s.IsAt l service a)
    (ha : ∀ d work, a ≠ .joined d work) (hb : ∀ d work, b ≠ .joined d work) :
    (s.setStage l b).Coherent := by
  -- The caller that moves is one that is still to come.
  refine hs.put (c := s.flights.nextCaller) hl rfl hs.flights ?_ ?_ ?_ ?_ ?_
  · intro m other work hm
    obtain ⟨p, hp, -⟩ := hs.calls hm
    exact absurd hp Flights.not_isAt_nextCaller
  · exact fun hd => absurd hd (ha _ _)
  · exact fun _ => Iff.rfl
  · exact fun hd => absurd hd (hb _ _)
  · exact fun hd => absurd hd Flights.not_isAt_nextCaller

/-- **A move keeps loads and callers coherent.** -/
theorem Coherent.move (hs : s.Coherent) (hl : s.IsAt l service a) (h : s.Move st l service a b t) :
    (t.setStage l b).Coherent := by
  cases h with
  | hit | miss => exact hs.put_still hl (by simp) (by simp)
  | go early =>
    refine hs.put_still hl ?_ (by simp)
    obtain rfl | rfl := early <;> simp
  | reuse leads | ask leads | answer leads | settle leads =>
    obtain ⟨f, hc⟩ := hs.leading hl leads
    exact hs.put_joined hl rfl hs.flights (fun _ => Iff.rfl) hc trivial
  | join =>
    obtain ⟨q, u, hmove, harrive⟩ := s.flights.arrive_cases service
    have hc : (s.flights.step (.arrive service)).IsAt s.flights.nextCaller service q := by
      rw [Flights.step, harrive]
      exact (Flights.isAt_put hmove.le hmove.callers).2 (.inl ⟨rfl, rfl, rfl⟩)
    have hfits : Fits .idle q := by
      cases hmove with
      | wait => rfl
      | lead => trivial
    refine hs.put (c := s.flights.nextCaller) hl rfl (hs.flights.step (.arrive service)) ?_ (by simp) ?_
      ?_ ?_
    · intro m other work hm
      obtain ⟨p, hp, -⟩ := hs.calls hm
      exact absurd hp Flights.not_isAt_nextCaller
    · exact fun hd => Flights.isAt_step_of_ne hd
    · rintro d work ⟨⟩
      exact ⟨rfl, q, hc, hfits⟩
    · intro k p f hd _
      exact ⟨(hd.unique hc).1, _, rfl⟩
  | @finish _ c _ v =>
    obtain ⟨p, hc, hfits⟩ := hs.calls hl
    obtain ⟨q, hq, hfits⟩ : ∃ q, (s.flights.step (.finish c v)).IsAt c service q ∧
        Fits (.settled v) q := by
      obtain hstays | ⟨q, u, hmove, hstep⟩ := hc.step (.finish c v)
      · exact ⟨p, hstays, hfits⟩
      · cases hmove with
        | wait hjoins | lead hjoins => exact hjoins.elim
        | finish =>
          rw [hstep]
          exact ⟨_, Flights.isAt_put_self hc rfl, rfl⟩
    exact hs.put_joined hl rfl (hs.flights.step (.finish c v)) (fun hd => Flights.isAt_step_of_ne hd)
      hq hfits
  | @fly _ _ c _ work fs flies value =>
    obtain ⟨p, hc, hfits⟩ := hs.calls hl
    obtain ⟨q, hq, hfits⟩ := flies.fits hc hfits value
    exact hs.put_joined hl rfl (hs.flights.step fs)
      (fun hd => Flights.isAt_step_of_ne (flies.mover s.flights ▸ hd)) hq hfits
  | @land _ _ c _ work v fs flies value =>
    refine hs.put (c := c) hl rfl (hs.flights.step fs) ?_ ?_ ?_ (by simp) ?_
    · exact fun hm => hs.distinct hm hl
    · rintro d work ⟨⟩
      rfl
    · exact fun hd => Flights.isAt_step_of_ne (flies.mover s.flights ▸ hd)
    · intro k p f hd hp
      obtain ⟨k', hreturned⟩ := value?_eq_some_iff.1 value
      obtain ⟨-, rfl⟩ := hd.unique hreturned
      cases hp

/-- **A step keeps loads and callers coherent.** -/
theorem Coherent.step (hs : s.Coherent) (st : Step) : (s.step st).Coherent := by
  obtain hdoes := s.does st
  generalize s.step st = u at hdoes
  cases hdoes with
  | nothing => exact hs
  | move hl hmove => exact hs.move hl hmove
  | push | invalidate | wait => exact ⟨hs.flights, hs.calls, hs.distinct, hs.owned⟩
  | @arrive other =>
    -- The new load has not joined a flight.
    have hold {l service c work} (h : (s.arrive other).IsAt l service (.joined c work)) :
        s.IsAt l service (.joined c work) :=
      (isAt_arrive.1 h).resolve_left fun hnew => nomatch hnew.2.2
    refine ⟨hs.flights, fun h => hs.calls (hold h), fun h h' => hs.distinct (hold h) (hold h'),
      fun hc hp => ?_⟩
    obtain ⟨l, work, hl⟩ := hs.owned hc hp
    exact ⟨l, work, isAt_arrive.2 (.inr hl)⟩

/-! ## Runs -/

/-- Loads of a cache as it is created: it has no tables, and there are no loads. -/
def start (factory : SelectorFactory) (options : TableOptions) (ttl now : Nat) : Loads :=
  { now, cache := { factory, options, ttl } }

theorem coherent_start (factory : SelectorFactory) (options : TableOptions) (ttl now : Nat) :
    (start factory options ttl now).Coherent where
  flights := Flights.coherent_empty
  calls := nofun
  distinct := nofun
  owned := nofun

@[simp] theorem run_cons (s : Loads) (st : Step) (rest : List Step) :
    s.run (st :: rest) = (s.step st).run rest := rfl

theorem run_append (s : Loads) (steps rest : List Step) :
    s.run (steps ++ rest) = (s.run steps).run rest :=
  List.foldl_append

theorem run_concat (s : Loads) (steps : List Step) (st : Step) :
    s.run (steps ++ [st]) = (s.run steps).step st :=
  List.foldl_append

theorem Coherent.run (hs : s.Coherent) (steps : List Step) : (s.run steps).Coherent := by
  induction steps generalizing s with
  | nil => exact hs
  | cons st steps ih => exact ih (hs.step st)

end Loads

end TrafficGateway
