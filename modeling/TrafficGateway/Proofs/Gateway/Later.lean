import TrafficGateway.Gateway.Handling
import TrafficGateway.Proofs.Balance.Selector
import TrafficGateway.Proofs.Forward.Attempts
import TrafficGateway.Proofs.Route.Expression

/-!
# A gateway at work

Once its routes are registered a gateway finds transports for requests and handles them, while the time, the
registry and the subscriptions go their own way (`Gateway.Later`). Whatever it does to a backend it does
through a choice of one, so a property of gateways that lookups, choices and changes of what is discovered
keep is one that the gateway keeps for ever (`Gateway.Later.keeps`). Two properties are carried along in
that way: the table of routes, and which nodes the selector in a place chooses from (`Gateway.Backs`).

## Main definitions

* `Gateway.Later`: what can happen to a gateway.
* `Gateway.Backs`: the selector in a place is over some nodes.

## Main statements

* `Gateway.handle_keeps`, `Gateway.Later.keeps`: one request and, by induction, all that can happen.
* `Gateway.Backs.exists_ok`: a selector over nodes does not fail.
-/

namespace TrafficGateway

/-! ## Exchanges -/

section Exchanges

variable {σ : Type} {P : σ → Prop} {resolve : Resolve σ} {s : σ}

/-- What every choice keeps holds before any attempt. -/
theorem Exchange.stateAt_keeps (hresolve : ∀ c s, P s → P (resolve c s).2) (hs : P s)
    (x : Exchange) (k : Nat) : P (x.stateAt resolve s k) := by
  induction k with
  | zero => exact hs
  | succ k ih => exact hresolve _ _ ih

/-- An exchange changes the state by its choices only, of which there may be none. -/
theorem Request.forward_keeps (hresolve : ∀ c s, P s → P (resolve c s).2) (hs : P s) (r : Request)
    (rule : PathRule) (context : RouteContext) (discovered : Bool) (p : RetryPolicy)
    (backends : Backends) :
    P (r.forward rule context discovered p resolve backends s).state := by
  rw [Request.forward]
  cases r.bytes with
  | error e => exact hs
  | ok body =>
    let x := Exchange.ofRequest r body rule context discovered
    obtain ⟨n, hrun⟩ : ∃ n, x.RunsTo p resolve backends s p.maxRetries.toNat 0 n
        (x.run p resolve backends s) := Exchange.runFrom_runsTo p.maxRetries.toNat 0
    show P (x.run p resolve backends s).state
    rw [hrun.state]
    exact Exchange.stateAt_keeps hresolve hs x _

end Exchanges

namespace Gateway

variable {g g' : Gateway} {place : Nat} {nodes : List (Node Endpoint)}

/-! ## What can happen -/

/-- The gateway at a later time: it was asked for routes and handled requests, of whatever transports, and
what is discovered has changed. -/
inductive Later (g : Gateway) : Gateway → Prop where
  | now : Later g g
  | find {g' : Gateway} (h : Later g g') (v : RequestView) : Later g (g'.find v).2
  | handle {g' : Gateway} (h : Later g g') (backends : Backends) (t : Transport) (r : Request) :
      Later g (g'.handle backends t r).2
  | discover {g' : Gateway} (h : Later g g') (d : Discovery) : Later g { g' with discovery := d }

/-- Handling a request changes the gateway by choices from the source of the transport only. -/
theorem handle_keeps_of_source {P : Gateway → Prop} {t : Transport}
    (hresolve : ∀ source hashHeader, t.target = .forward source hashHeader →
      ∀ c g, P g → P (resolve source c g).2)
    (hg : P g) (backends : Backends) (r : Request) : P (g.handle backends t r).2 := by
  rw [handle]
  cases htarget : t.target with
  | mock spec => exact hg
  | forward source hashHeader =>
    have hsource := hresolve source hashHeader htarget
    dsimp only
    split
    · exact hsource _ g hg
    · exact Request.forward_keeps hsource hg ..

/-- Handling a request changes the gateway by the choices of backends only. -/
theorem handle_keeps {P : Gateway → Prop}
    (hresolve : ∀ source c g, P g → P (resolve source c g).2) (hg : P g) (backends : Backends)
    (t : Transport) (r : Request) : P (g.handle backends t r).2 :=
  handle_keeps_of_source (fun source _ _ => hresolve source) hg backends r

/-- What lookups, choices and changes of what is discovered keep is kept for ever. -/
theorem Later.keeps {P : Gateway → Prop} (h : Later g g') (hfind : ∀ (g : Gateway) v, P g → P (g.find v).2)
    (hresolve : ∀ source c g, P g → P (resolve source c g).2)
    (hdiscover : ∀ g d, P g → P { g with discovery := d }) (hg : P g) : P g' := by
  induction h with
  | now => exact hg
  | find _ v ih => exact hfind _ v ih
  | handle _ backends t r ih => exact handle_keeps hresolve ih backends t r
  | discover _ d ih => exact hdiscover _ d ih

/-! ## What is kept -/

/-- The choice of an instance changes nothing but what is discovered. -/
theorem resolveDiscovered_snd (g : Gateway) (kind : SelectorKind) (service : String)
    (c : RouteContext) :
    ∃ d, (g.resolveDiscovered kind service c).2 = { g with discovery := d } := by
  unfold resolveDiscovered
  split
  · exact ⟨_, rfl⟩
  · exact ⟨_, rfl⟩
  · split
    · exact ⟨_, rfl⟩
    · exact ⟨_, rfl⟩

/-- The choice of a backend changes nothing but selectors and what is discovered. -/
theorem resolve_snd (source : BackendSource) (c : RouteContext) (g : Gateway) :
    ∃ selectors d, (resolve source c g).2 = { g with selectors, discovery := d } := by
  cases source with
  | fixed place =>
    show ∃ selectors d, (g.resolveFixed place c).2 = { g with selectors, discovery := d }
    unfold resolveFixed
    split
    · exact ⟨_, _, rfl⟩
    · exact ⟨_, _, rfl⟩
  | discovered kind service =>
    obtain ⟨d, hd⟩ := g.resolveDiscovered_snd kind service c
    exact ⟨_, d, hd⟩

/-- The routes stay as they are, and so do the notes of the services that they name. -/
theorem Later.frame (h : Later g g') : g'.table = g.table ∧ g'.followed = g.followed := by
  refine h.keeps (P := fun later => later.table = g.table ∧ later.followed = g.followed) ?_ ?_ ?_
    ⟨rfl, rfl⟩
  · intro later v hlater
    exact hlater
  · intro source c later hlater
    obtain ⟨selectors, d, hd⟩ := resolve_snd source c later
    rw [hd]
    exact hlater
  · intro later d hlater
    exact hlater

theorem Later.table_eq (h : Later g g') : g'.table = g.table :=
  h.frame.1

/-- In the place of the gateway's list is a selector over the nodes, wherever it stands. -/
def Backs (g : Gateway) (place : Nat) (nodes : List (Node Endpoint)) : Prop :=
  ∃ s, g.selectors[place]? = some s ∧ s.Over nodes

/-- A pick from any selector leaves every selector over its nodes. -/
theorem Backs.resolveFixed (h : g.Backs place nodes) (other : Nat) (c : RouteContext) :
    (g.resolveFixed other c).2.Backs place nodes := by
  obtain ⟨s, hs, hover⟩ := h
  unfold Gateway.resolveFixed
  cases hother : g.selectors[other]? with
  | none => exact ⟨s, hs, hover⟩
  | some t =>
    by_cases hplace : other = place
    · -- It is the selector itself that picks.
      subst hplace
      obtain rfl := Option.some.inj (hother.symm.trans hs)
      refine ⟨(t.select c.hashKey).2, ?_, hover.select c.hashKey⟩
      have hlt : other < g.selectors.length := (List.getElem?_eq_some_iff.1 hother).1
      exact List.getElem?_set_self hlt
    · refine ⟨s, ?_, hover⟩
      show (g.selectors.set other _)[place]? = some s
      rw [List.getElem?_set_ne hplace, hs]

theorem Backs.later (h : g.Backs place nodes) (hlater : Later g g') : g'.Backs place nodes := by
  refine hlater.keeps (P := fun later => later.Backs place nodes) ?_ ?_ ?_ h
  · intro later v hbacks
    exact hbacks
  · intro source c later hbacks
    cases source with
    | fixed other => exact hbacks.resolveFixed other c
    | discovered kind service =>
      obtain ⟨d, hd⟩ := later.resolveDiscovered_snd kind service c
      show (later.resolveDiscovered kind service c).2.Backs place nodes
      rw [hd]
      exact hbacks
  · intro later d hbacks
    exact hbacks

/-- The choice from a selector over some nodes is one of them, and does not fail. -/
theorem Backs.exists_ok (h : g.Backs place nodes) (hne : nodes ≠ []) (c : RouteContext) :
    ∃ node ∈ nodes, (g.resolveFixed place c).1 = .ok node.data := by
  obtain ⟨s, hs, hover⟩ := h
  obtain ⟨node, hnode, hpick⟩ := (hover.isPick c.hashKey).exists_ok hne
  refine ⟨node, hnode, ?_⟩
  simp only [Gateway.resolveFixed, hs]
  rw [hpick]
  rfl

end Gateway

end TrafficGateway
