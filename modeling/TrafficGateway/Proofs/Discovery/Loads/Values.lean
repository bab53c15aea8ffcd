import TrafficGateway.Proofs.Discovery.Loads.Step

/-!
# What loads can return with

A load returns with a table that is fresh when it looks, or with the value of its flight, which the
leader of the flight found fresh or got from the registry. If all of these have a property from some
moment on, then so have all the values that some of the loads return with (`Loads.Confined.step`): the
loads that are yet to join a flight join one that is registered, or a new one.

## Main definitions

* `Loads.Clean`: what has become of a flight, or is about to, has the property.
* `Loads.Confined`: the flights that matter for some loads are clean, and so is what these loads have
  returned with.
-/

namespace TrafficGateway

namespace Loads

variable {s : Loads} {st : Step} {l f : Nat} {service : String} {v : TableResult}
  {P : TableResult → Prop} {T : Nat → Prop}

/-- The value that a flight has, or that its leader has for it, has a property. -/
structure Clean (s : Loads) (P : TableResult → Prop) (service : String) (f : Nat) : Prop where
  finished : ∀ {v}, s.flights.outcome? f = some (.finished v) → P v
  settled : ∀ {l v}, s.Calls l service (.settled v) (.leading f) → P v

/-- A flight matters for some loads: one of them has joined it, or still can. -/
def Matters (s : Loads) (T : Nat → Prop) (service : String) (f : Nat) : Prop :=
  s.flights.registered.get? service = some f ∨ ∃ l, T l ∧ s.JoinedFlight l service f

/-- What some loads of a service have returned with has a property, and so has what can still come of
the flights that matter for them. -/
structure Confined (s : Loads) (P : TableResult → Prop) (T : Nat → Prop) (service : String) :
    Prop where
  flights : ∀ {f}, s.Matters T service f → s.Clean P service f
  returned : ∀ {l v}, T l → s.IsAt l service (.returned v) → P v

/-- A flight that matters did so before, or is new. -/
theorem Coherent.matters_of_step (hs : s.Coherent) (h : (s.step st).Matters T service f) :
    s.Matters T service f ∨ f = s.flights.flights.length := by
  obtain hregistered | ⟨l, hl, work, p, hcalls, hp⟩ := h
  · exact (registered_of_step hregistered).imp_left .inl
  · obtain hold | ⟨work', q, hold, hgoes⟩ | ⟨-, ⟨g, rfl, hg⟩ | rfl⟩ := hs.calls_of_step hcalls
    · exact .inl (.inr ⟨l, hl, work, p, hold, hp⟩)
    · have hjoined (hq : q.flight? = some f) : s.Matters T service f :=
        .inr ⟨l, hl, work', q, hold, hq⟩
      cases hgoes with
      | reuse | ask | answer | settle | finish | drop => exact .inl (hjoined hp)
      | wait _ registered =>
        cases hp
        exact .inl (.inl registered)
      | lead =>
        cases hp
        exact .inr rfl
      | go | giveUp => cases hp
    · cases hp
      exact .inl (.inl hg)
    · cases hp
      exact .inr rfl

/-- A flight that matters has the service for its key. -/
theorem Coherent.keyOf?_of_matters (hs : s.Coherent) (h : s.Matters T service f) :
    s.flights.keyOf? f = some service := by
  obtain hregistered | ⟨l, -, hjoined⟩ := h
  · exact hs.flights.keyOf?_registered hregistered
  · exact hs.keyOf? hjoined

/-- A flight stays clean if what is fresh and what is settled has the property. -/
theorem Coherent.clean_step (hs : s.Coherent)
    (h : s.Clean P service f ∧ s.flights.keyOf? f = some service ∨ f = s.flights.flights.length)
    (hfresh : ∀ {n}, s.cache.fresh? s.now service = some n → P (.ok n))
    (hsettled : ∀ {l given}, st = .settle l → s.Calls l service (.answered given) (.leading f) →
      P (s.cache.settle s.now service given).1) : (s.step st).Clean P service f := by
  -- Nobody has joined a flight that is new, and the others were joined for this service.
  have hclean {l other work p} (hcalls : s.Calls l other work p) (hp : p.flight? = some f) :
      s.Clean P service f ∧ other = service := by
    have hjoined : s.JoinedFlight l other f := ⟨work, p, hcalls, hp⟩
    obtain ⟨hclean, hkey⟩ := h.resolve_right (Nat.ne_of_lt (hs.lt_length hjoined))
    exact ⟨hclean, Option.some.inj ((hs.keyOf? hjoined).symm.trans hkey)⟩
  constructor
  case finished =>
    intro v hv
    obtain hold | ⟨l, other, -, hcalls⟩ := hs.finished_of_step hv
    · obtain ⟨hclean, -⟩ := h.resolve_right fun hnew => by simp [Flights.outcome?, hnew] at hold
      exact hclean.finished hold
    · obtain ⟨hclean, rfl⟩ := hclean hcalls rfl
      exact hclean.settled hcalls
  case settled =>
    intro l v hcalls
    obtain hold | ⟨work', q, hold, hgoes⟩ | ⟨hidle, -⟩ := hs.calls_of_step hcalls
    · exact (hclean hold rfl).1.settled hold
    · cases hgoes with
      | reuse fresh => exact hfresh fresh
      | settle => exact hsettled rfl hold
    · cases hidle

/-- **What is fresh and what is settled decides what loads can return with.** -/
theorem Confined.step (h : s.Confined P T service) (hs : s.Coherent)
    (hfresh : ∀ {n}, s.cache.fresh? s.now service = some n → P (.ok n))
    (hsettled : ∀ {l f given}, st = .settle l →
      s.Calls l service (.answered given) (.leading f) →
        P (s.cache.settle s.now service given).1) : (s.step st).Confined P T service where
  flights hmatters := by
    refine hs.clean_step ?_ hfresh hsettled
    obtain hold | hnew := hs.matters_of_step hmatters
    · exact .inl ⟨h.flights hold, hs.keyOf?_of_matters hold⟩
    · exact .inr hnew
  returned := by
    intro l v hl hreturned
    obtain hold | ⟨n, rfl, -, fresh⟩ | ⟨work, p, hcalls, hreturns⟩ := hs.returned_of_step hreturned
    · exact h.returned hl hold
    · exact hfresh fresh
    · cases hreturns with
      | leave =>
        -- Its flight was given the value when it finished.
        obtain ⟨c, hjoined, hc⟩ := hcalls
        have hclean := h.flights (.inr ⟨l, hl, _, _, ⟨c, hjoined, hc⟩, rfl⟩)
        exact hclean.finished (hs.flights.outcome hc rfl)
      | wake finished =>
        exact (h.flights (.inr ⟨l, hl, _, _, hcalls, rfl⟩)).finished finished

end Loads

end TrafficGateway
