import TrafficGateway.Proofs.Gateway.Service

/-!
# The metrics balance

One middleware of the chain counts. It counts a request when that comes, and its duration, and its failure
if there is one, when it is known how the request ended. These are two walks along the chain, in opposite
directions, and either may stop before it comes to the middleware that counts. If no other middleware fails
neither does (`MiddlewareChain.get_run`), so that every request which a route has claimed is counted in both,
under the name of its route; and then the numbers agree with each other and with what was served, after any
run (`Service.accounts_balance`).

Several routes may share a name. What is counted under it is the requests of all of them.

## Main definitions

* `Middleware.Steady`: never fails, and leaves the counts to the one that counts.
* `Service.Completed`, `Service.completed`: the claimed requests of a run, with what became of them.
* `Metrics.requestsFor`: the requests of a route, over all types of target.

## Main statements

* `Service.counts_serve`: what one request adds.
* `Service.accounts_balance`: what a run adds.
-/

namespace TrafficGateway

variable {σ : Type}

/-! ## What is counted -/

namespace Metrics

/-- The requests that were counted under the name of a route, over all types of target. -/
def requestsFor (m : Metrics) (route : String) : Nat :=
  m.requests.count (route, .discovery) + m.requests.count (route, .domain) +
    m.requests.count (route, .mock)

/-- A request adds one to the requests of its route. -/
theorem requestsFor_observe_request (m : Metrics) (context : HookContext) (route : String) :
    (m.observe context .request).requestsFor route =
      m.requestsFor route + if context.route = route then 1 else 0 := by
  by_cases h : context.route = route
  · cases hkind : context.targetType <;> simp [requestsFor, observe, h, hkind] <;> omega
  · simp [requestsFor, observe, h]

end Metrics

/-! ## Chains in which one middleware counts -/

namespace Middleware

/-- The middleware never fails, whatever it is asked about, and leaves the counts in the world as they
are. -/
def Steady (get : σ → Metrics) (m : Middleware σ) : Prop :=
  ∀ context occasion s, ((m.hook context occasion).run s).1 = .ok () ∧
    get ((m.hook context occasion).run s).2.world = get s.world

end Middleware

namespace MiddlewareChain

variable {get : σ → Metrics} {count : (Metrics → Metrics) → σ → σ} {context : HookContext}
  {occasion : Occasion} {m : Middleware σ} {position : Nat} {order front back : List (Middleware σ × Nat)}

/-- After one that does not fail the others are asked. -/
theorem ask_cons_state {s : HookState σ} (h : ((m.hook context occasion).run s).1 = .ok ()) :
    (ask context occasion ((m, position) :: order) s).state =
      (ask context occasion order ((m.hook context occasion).run s).2).state := by
  rw [ask]
  rcases hrun : (m.hook context occasion).run s with ⟨reason | ⟨⟩, shared⟩
  · rw [hrun] at h
    cases h
  · rfl

/-- Those that do not fail let those behind them be asked, with the same counts. -/
theorem exists_ask_append (context : HookContext) (occasion : Occasion)
    (order : List (Middleware σ × Nat)) (hfront : ∀ e ∈ front, e.1.Steady get) (s : HookState σ) :
    ∃ shared : HookState σ, get shared.world = get s.world ∧
      (ask context occasion (front ++ order) s).state = (ask context occasion order shared).state := by
  induction front generalizing s with
  | nil => exact ⟨s, rfl, rfl⟩
  | cons e front ih =>
    obtain ⟨hok, hcounts⟩ := hfront e List.mem_cons_self context occasion s
    obtain ⟨shared, hshared, hstate⟩ := ih (fun e' he' => hfront e' (List.mem_cons_of_mem e he'))
      ((e.1.hook context occasion).run s).2
    exact ⟨shared, hshared.trans hcounts, (ask_cons_state hok).trans hstate⟩

/-- Where one counts and the others are steady the counts change by what the one observes. -/
theorem get_ask (hcount : ∀ f w, get (count f w) = f (get w))
    (hfront : ∀ e ∈ front, e.1.Steady get) (hback : ∀ e ∈ back, e.1.Steady get) (s : HookState σ) :
    get (ask context occasion (front ++ (Middleware.metrics count, position) :: back) s).state.world =
      (get s.world).observe context occasion := by
  obtain ⟨shared, hshared, hstate⟩ := exists_ask_append context occasion
    ((Middleware.metrics count, position) :: back) hfront s
  obtain ⟨last, hlast, hend⟩ := exists_ask_append context occasion [] hback
    (((Middleware.metrics count).hook context occasion).run shared).2
  rw [List.append_nil] at hend
  rw [hstate, ask_cons_state rfl, hend]
  show get last.world = _
  rw [hlast, ← hshared]
  exact hcount _ _

/-- On every occasion the one that counts has its turn somewhere. -/
theorem exists_callOrder_eq (before after : List (Middleware σ)) (m : Middleware σ)
    (occasion : Occasion) :
    ∃ front back position, callOrder (before ++ m :: after) occasion =
        front ++ (m, position) :: back ∧
      (∀ e ∈ front, e.1 ∈ before ++ after) ∧ ∀ e ∈ back, e.1 ∈ before ++ after := by
  have hzip : (before ++ m :: after).zipIdx = before.zipIdx ++ (m, before.length) ::
      after.zipIdx (before.length + 1) := by
    rw [List.zipIdx_append, List.zipIdx_cons, Nat.zero_add]
  have hbefore : ∀ e ∈ before.zipIdx, e.1 ∈ before ++ after := fun e he =>
    List.mem_append_left after (List.fst_mem_of_mem_zipIdx he)
  have hafter : ∀ e ∈ after.zipIdx (before.length + 1), e.1 ∈ before ++ after := fun e he =>
    List.mem_append_right before (List.fst_mem_of_mem_zipIdx he)
  have hreverse : ((before ++ m :: after).zipIdx).reverse =
      (after.zipIdx (before.length + 1)).reverse ++ (m, before.length) :: before.zipIdx.reverse := by
    rw [hzip, List.reverse_append, List.reverse_cons, List.append_assoc, List.singleton_append]
  cases occasion with
  | request => exact ⟨_, _, _, hzip, hbefore, hafter⟩
  | response status =>
    exact ⟨_, _, _, hreverse, fun e he => hafter e (List.mem_reverse.1 he),
      fun e he => hbefore e (List.mem_reverse.1 he)⟩
  | failure status message =>
    exact ⟨_, _, _, hreverse, fun e he => hafter e (List.mem_reverse.1 he),
      fun e he => hbefore e (List.mem_reverse.1 he)⟩

/-- A chain in which one counts, at whatever position, and the others are steady: a run changes the counts
by what the one observes. -/
theorem get_run {before after : List (Middleware σ)} (hcount : ∀ f w, get (count f w) = f (get w))
    (hothers : ∀ m ∈ before ++ after, m.Steady get) (s : HookState σ) :
    get (run (before ++ Middleware.metrics count :: after) context occasion s).state.world =
      (get s.world).observe context occasion := by
  obtain ⟨front, back, position, horder, hfront, hback⟩ :=
    exists_callOrder_eq before after (Middleware.metrics count) occasion
  rw [run, horder]
  exact get_ask hcount (fun e he => hothers e.1 (hfront e he))
    (fun e he => hothers e.1 (hback e he)) s

end MiddlewareChain

/-! ## What was served -/

namespace Service

/-- A request that a route has claimed and that is done: the transport of the route, what that made of the
request, and the answer that the client got. -/
structure Completed where
  transport : Transport
  result : Except ForwardError Response
  response : Response

namespace Completed

/-- The request was matched to a route of that name. -/
def isFor (c : Completed) (route : String) : Bool :=
  c.transport.name == route

/-- The transport failed, and the client was answered with that status. -/
def failedWith (c : Completed) (status : Nat) : Bool :=
  !c.result.isOk && c.response.status.code == status

end Completed

variable {behind : Service σ → Request → Response} {backends : Backends} {r : Request}

/-- What there is to be counted of a request: nothing if no route claims it. -/
def completed? (behind : Service σ → Request → Response) (s : Service σ) (backends : Backends)
    (r : Request) : Option Completed :=
  (s.gateway.respond backends r).1.map fun claimed =>
    ⟨claimed.1, claimed.2, (s.serve backends behind r).response⟩

/-- The claimed requests of a run, in order. -/
def completed (behind : Service σ → Request → Response) (s : Service σ) : List Step → List Completed
  | [] => []
  | .request backends r :: steps =>
    (s.completed? behind backends r).toList ++
      (s.step behind (.request backends r)).completed behind steps
  | .meanwhile change :: steps => (s.step behind (.meanwhile change)).completed behind steps

/-! ## What is counted of it -/

section Counts

variable {get : σ → Metrics} {count : (Metrics → Metrics) → σ → σ} {s : Service σ}
  {before after : List (Middleware σ)}

/-- The counts grew by what was completed, under each name. -/
structure Grew (old new : Metrics) (cs : List Completed) : Prop where
  requests : ∀ route, new.requestsFor route = old.requestsFor route + cs.countP (·.isFor route)
  durations : ∀ route,
    new.durations.count route = old.durations.count route + cs.countP (·.isFor route)
  failures : ∀ route status, new.failures.count (route, status) =
    old.failures.count (route, status) + cs.countP fun c => c.isFor route && c.failedWith status

theorem Grew.refl (m : Metrics) : Grew m m [] :=
  ⟨fun _ => rfl, fun _ => rfl, fun _ _ => rfl⟩

theorem Grew.trans {old middle new : Metrics} {cs cs' : List Completed} (h : Grew old middle cs)
    (h' : Grew middle new cs') : Grew old new (cs ++ cs') where
  requests route := by rw [h'.requests, h.requests, List.countP_append, Nat.add_assoc]
  durations route := by rw [h'.durations, h.durations, List.countP_append, Nat.add_assoc]
  failures route status := by rw [h'.failures, h.failures, List.countP_append, Nat.add_assoc]

/-- A request that is observed twice, when it comes and when it is known how it ended, is counted once
under each heading that concerns it. -/
theorem grew_observe (m : Metrics) {t : Transport} {result : Except ForwardError Response}
    {errorBody : String} {response : Response} {occasion : Occasion}
    (h : Concludes errorBody result response occasion) :
    Grew m ((m.observe (hookContext t r) .request).observe (hookContext t r) occasion)
      [⟨t, result, response⟩] := by
  have hroute : (hookContext t r).route = t.name := rfl
  cases h with
  | answered response =>
    refine ⟨fun route => ?_, fun route => ?_, fun route status => ?_⟩
    · exact (Metrics.requestsFor_observe_request m _ route).trans
        (by simp [hroute, Completed.isFor])
    · by_cases hname : t.name = route <;> simp [Metrics.observe, hroute, Completed.isFor, hname]
    · simp [Metrics.observe, Completed.failedWith, Except.isOk, Except.toBool]
  | failed e =>
    refine ⟨fun route => ?_, fun route => ?_, fun route status => ?_⟩
    · exact (Metrics.requestsFor_observe_request m _ route).trans
        (by simp [hroute, Completed.isFor])
    · by_cases hname : t.name = route <;> simp [Metrics.observe, hroute, Completed.isFor, hname]
    · by_cases hname : t.name = route <;> by_cases hstatus : e.status.code = status <;>
        simp [Metrics.observe, hroute, Completed.isFor, Completed.failedWith, Except.isOk,
          Except.toBool, hname, hstatus]

/-- A claimed request is observed when it comes and when it is known how it ended. -/
theorem get_serveRoute (hcount : ∀ f w, get (count f w) = f (get w))
    (hchain : s.chain = before ++ Middleware.metrics count :: after)
    (hothers : ∀ m ∈ before ++ after, m.Steady get) (t : Transport) :
    get (s.serveRoute backends t r).service.world =
      ((get s.world).observe (hookContext t r) .request).observe (hookContext t r)
        (s.conclude (s.gateway.handle backends t r).1).2 := by
  let first := MiddlewareChain.run s.chain (hookContext t r) .request { world := s.world }
  have hworld : (s.serveRoute backends t r).service.world =
      (MiddlewareChain.run s.chain (hookContext t r)
        (s.conclude (s.gateway.handle backends t r).1).2 first.state).state.world := rfl
  have hfirst : get first.state.world = (get s.world).observe (hookContext t r) .request := by
    show get (MiddlewareChain.run s.chain _ _ _).state.world = _
    rw [hchain, MiddlewareChain.get_run hcount hothers]
  rw [hworld, hchain, MiddlewareChain.get_run hcount hothers, hfirst]

/-- What one request adds to the counts: nothing if no route claims it. -/
theorem counts_serve (hcount : ∀ f w, get (count f w) = f (get w))
    (hchain : s.chain = before ++ Middleware.metrics count :: after)
    (hothers : ∀ m ∈ before ++ after, m.Steady get) :
    Grew (get s.world) (get (s.serve backends behind r).service.world)
      (s.completed? behind backends r).toList := by
  unfold completed?
  cases hfound : (s.gateway.find r.head.view).1 with
  | none =>
    rw [serve_of_unclaimed hfound, respond_of_unclaimed hfound]
    exact .refl _
  | some t =>
    rw [serve_of_claimed hfound, respond_of_claimed hfound]
    let found : Service σ := { s with gateway := (s.gateway.find r.head.view).2 }
    have hconcludes := found.conclude_concludes (found.gateway.handle backends t r).1
    show Grew _ (get (found.serveRoute backends t r).service.world) _
    rw [get_serveRoute (s := found) hcount hchain hothers t]
    exact grew_observe _ hconcludes

/-- What a run adds to the counts. -/
theorem counts_after (hcount : ∀ f w, get (count f w) = f (get w))
    (hchain : s.chain = before ++ Middleware.metrics count :: after)
    (hothers : ∀ m ∈ before ++ after, m.Steady get) (steps : List Step) :
    Grew (get s.world) (get (s.after behind steps).world) (s.completed behind steps) := by
  induction steps generalizing s with
  | nil => exact .refl _
  | cons st steps ih =>
    cases st with
    | request backends r =>
      have hkept : (s.step behind (.request backends r)).chain = _ :=
        (s.serve_settings backends behind r).1.trans hchain
      exact (counts_serve hcount hchain hothers).trans (ih hkept)
    | meanwhile change => exact ih (s := s.step behind (.meanwhile change)) hchain

end Counts

/-- **The metrics balance, after any run.** Let one middleware of a chain count, at any position, and let the
others never fail and leave its counts alone. Then of every name, however many routes share it, the requests
over all types of target and the observed durations both grow by the number of requests that were matched
to a route of that name; the failures under a status grow by the number of those whose transport failed and
that were answered with that status; and a request that no route claims changes nothing at all of what the
middleware reports to. -/
theorem accounts_balance (get : σ → Metrics) (count : (Metrics → Metrics) → σ → σ)
    (hcount : ∀ f w, get (count f w) = f (get w)) (s : Service σ)
    (before after : List (Middleware σ))
    (hchain : s.chain = before ++ Middleware.metrics count :: after)
    (hothers : ∀ m ∈ before ++ after, m.Steady get) (behind : Service σ → Request → Response)
    (steps : List Step) :
    let now := s.after behind steps
    let served := s.completed behind steps
    (∀ route,
      (get now.world).requestsFor route =
          (get s.world).requestsFor route + served.countP (·.isFor route) ∧
        (get now.world).durations.count route =
          (get s.world).durations.count route + served.countP (·.isFor route) ∧
        ∀ status, (get now.world).failures.count (route, status) =
          (get s.world).failures.count (route, status) +
            served.countP fun c => c.isFor route && c.failedWith status) ∧
    ∀ backends r, (now.gateway.respond backends r).1 = none →
      (now.serve backends behind r).service.world = now.world := by
  intro now served
  have hgrew : Grew (get s.world) (get now.world) served := counts_after hcount hchain hothers steps
  refine ⟨fun route => ⟨hgrew.requests route, hgrew.durations route, hgrew.failures route⟩, ?_⟩
  intro backends r hunclaimed
  cases hfound : (now.gateway.find r.head.view).1 with
  | none => rw [serve_of_unclaimed hfound]
  | some t =>
    rw [respond_of_claimed hfound] at hunclaimed
    cases hunclaimed

/-- A gateway with a route that answers by itself and one whose backend is away, and a chain in which the
middleware that counts stands between one that writes down paths and one that does nothing. -/
def watchedService : Service (Metrics × List String) :=
  { gateway := (Gateway.registerAll
      [{ matchType := "fullMatch", path := "/up", targetType := "mock", mock := some { body := "[]" } },
        { matchType := "fullMatch", path := "/down", targetType := "domain",
          targets := [{ target := "127.0.0.1:80" }] }] { table := { policy := .longest } }).2
    chain :=
      [{ hook := fun context _ =>
          modify fun s => { s with world := (s.world.1, context.path :: s.world.2) } },
        .metrics fun f w => (f w.1, w.2), .silent]
    world := ({}, []) }

/-- A visit to each of the two routes, and one to a path that no route claims. -/
def visits : List Step :=
  ["/up", "/down", "/down", "/elsewhere"].map fun path =>
    .request .unreachable { head := { uri := { target := ⟨path, none⟩ } } }

/-- Of three claimed requests two fail, and are counted as requests, with their durations, and as
failures. -/
theorem watched_accounts_balance :
    let others := watchedService.chain.take 1 ++ [.silent]
    let now := watchedService.after (fun _ _ => Behind.notFound) visits
    (∀ m ∈ others, m.Steady Prod.fst) ∧
      now.world.1.requestsFor "/down" = 2 ∧ now.world.1.durations.count "/down" = 2 ∧
      now.world.1.failures.count ("/down", 502) = 2 := by
  intro others now
  have hothers : ∀ m ∈ others, m.Steady Prod.fst := by
    intro m hm
    rcases List.mem_cons.1 hm with rfl | hm
    · exact fun context occasion s => ⟨rfl, rfl⟩
    · obtain rfl := List.mem_singleton.1 hm
      exact fun context occasion s => ⟨rfl, rfl⟩
  obtain ⟨hcounts, -⟩ := accounts_balance Prod.fst (fun f w => (f w.1, w.2)) (fun _ _ => rfl)
    watchedService (watchedService.chain.take 1) [.silent] rfl hothers
    (fun _ _ => Behind.notFound) visits
  have hserved (p : String × Bool × Nat → Bool) :
      (watchedService.completed (fun _ _ => Behind.notFound) visits).countP
          (fun c => p (c.transport.name, c.result.isOk, c.response.status.code)) =
        [("/up", true, 200), ("/down", false, 502), ("/down", false, 502)].countP p := by
    rw [← Function.comp_def, ← List.countP_map]
    exact congrArg (List.countP p) (by decide +kernel)
  obtain ⟨hrequests, hdurations, hfailures⟩ := hcounts "/down"
  refine ⟨hothers, ?_, ?_, ?_⟩
  · exact hrequests.trans (congrArg (0 + ·) (hserved fun c => c.1 == "/down"))
  · exact hdurations.trans (congrArg (0 + ·) (hserved fun c => c.1 == "/down"))
  · exact (hfailures 502).trans
      (congrArg (0 + ·) (hserved fun c => c.1 == "/down" && (!c.2.1 && c.2.2 == 502)))

end Service

end TrafficGateway
