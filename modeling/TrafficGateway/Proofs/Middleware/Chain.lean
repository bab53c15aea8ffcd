import TrafficGateway.Middleware.Hook

/-!
# Whom a chain asks

A chain asks its middleware in turn, from the front when a request comes and from the back when it is known
what became of it, and stops at the first that fails. Said without the loop: what the one whose turn is
`k`-th says is what it says after all before it were asked (`MiddlewareChain.saysAt`), and a run asks
everyone whose turn comes before the first failure, the one that fails included
(`MiddlewareChain.AskedInTurn`).

Hooks are arbitrary here: they may fail or not, on any occasion, for any reason that they find in what is
shared.

## Main definitions

* `MiddlewareChain.turns`: the positions of a chain in the order of their turns.
* `MiddlewareChain.AskedInTurn`: a run asks everyone up to the first that fails.

## Main statements

* `MiddlewareChain.run_askedInTurn`: every run of a chain does.
-/

namespace TrafficGateway

namespace MiddlewareChain

variable {σ : Type}

/-- The positions of a chain in the order of their turns. -/
def turns (chain : List (Middleware σ)) : Occasion → List Nat
  | .request => List.range chain.length
  | _ => (List.range chain.length).reverse

section Turns

variable (chain : List (Middleware σ)) (context : HookContext) (occasion : Occasion)

/-- What is shared after the middleware at some positions was asked. -/
def sharedAfter (s : HookState σ) (positions : List Nat) : HookState σ :=
  positions.foldl
    (fun s position =>
      match chain[position]? with
      | some m => ((m.hook context occasion).run s).2
      | none => s)
    s

/-- What the middleware says whose turn is `k`-th, if all before it were asked. -/
def saysAt (positions : List Nat) (s : HookState σ) (k : Nat) : Option (Except String Unit) := do
  let m ← chain[← positions[k]?]?
  return ((m.hook context occasion).run (sharedAfter chain context occasion s (positions.take k))).1

/-- A run over some positions asks all of them if none fails, and otherwise those up to the first that
does, which gives the reason to stop. -/
inductive AskedInTurn (positions : List Nat) (s : HookState σ) : HookRun σ → Prop where
  | whole (succeed : ∀ i < positions.length,
        saysAt chain context occasion positions s i = some (.ok ())) :
      AskedInTurn positions s
        ⟨positions, none, sharedAfter chain context occasion s positions⟩
  | upTo {k : Nat} {reason : String}
      (succeed : ∀ i < k, saysAt chain context occasion positions s i = some (.ok ()))
      (fails : saysAt chain context occasion positions s k = some (.error reason)) :
      AskedInTurn positions s
        ⟨positions.take (k + 1), some reason,
          sharedAfter chain context occasion s (positions.take (k + 1))⟩

end Turns

variable {chain : List (Middleware σ)} {context : HookContext} {occasion : Occasion}
  {m : Middleware σ} {position : Nat} {positions : List Nat} {s : HookState σ}

theorem sharedAfter_cons (h : chain[position]? = some m) (positions : List Nat) :
    sharedAfter chain context occasion s (position :: positions) =
      sharedAfter chain context occasion ((m.hook context occasion).run s).2 positions := by
  rw [sharedAfter, List.foldl_cons, h]
  rfl

theorem saysAt_zero (h : chain[position]? = some m) :
    saysAt chain context occasion (position :: positions) s 0 =
      some ((m.hook context occasion).run s).1 := by
  simp [saysAt, h, sharedAfter]

/-- After the first turn the others follow. -/
theorem saysAt_succ (h : chain[position]? = some m) (k : Nat) :
    saysAt chain context occasion (position :: positions) s (k + 1) =
      saysAt chain context occasion positions ((m.hook context occasion).run s).2 k := by
  simp only [saysAt, List.getElem?_cons_succ, List.take_succ_cons, sharedAfter_cons h]

/-- One that succeeds comes before the run of the others. -/
theorem AskedInTurn.after {r : HookRun σ} (h : chain[position]? = some m)
    (hok : ((m.hook context occasion).run s).1 = .ok ())
    (hr : AskedInTurn chain context occasion positions ((m.hook context occasion).run s).2 r) :
    AskedInTurn chain context occasion (position :: positions) s (r.after position) := by
  have hsucceed : ∀ k, (∀ i < k, saysAt chain context occasion positions
      ((m.hook context occasion).run s).2 i = some (.ok ())) →
      ∀ i < k + 1, saysAt chain context occasion (position :: positions) s i = some (.ok ()) := by
    intro k hrest i hi
    cases i with
    | zero => rw [saysAt_zero h, hok]
    | succ i => rw [saysAt_succ h, hrest i (Nat.lt_of_succ_lt_succ hi)]
  cases hr with
  | whole succeed =>
    rw [HookRun.after, ← sharedAfter_cons h]
    exact .whole (hsucceed _ succeed)
  | @upTo k reason succeed fails =>
    rw [HookRun.after, ← sharedAfter_cons h, ← List.take_succ_cons]
    exact .upTo (hsucceed k succeed) (saysAt_succ h k ▸ fails)

theorem AskedInTurn.asked_of_nil {r : HookRun σ}
    (h : AskedInTurn chain context occasion [] s r) : r.asked = [] := by
  cases h with
  | whole succeed => rfl
  | upTo succeed fails => rfl

/-- Whatever the order is, everyone up to the first that fails is asked. -/
theorem ask_askedInTurn (order : List (Middleware σ × Nat))
    (horder : ∀ e ∈ order, chain[e.2]? = some e.1) (s : HookState σ) :
    AskedInTurn chain context occasion (order.map (·.2)) s (ask context occasion order s) := by
  induction order generalizing s with
  | nil => exact .whole fun i hi => absurd hi (Nat.not_lt_zero i)
  | cons e order ih =>
    obtain ⟨m, position⟩ := e
    have h : chain[position]? = some m := horder _ List.mem_cons_self
    have hrest := ih (fun e he => horder e (List.mem_cons_of_mem _ he))
      ((m.hook context occasion).run s).2
    rw [ask, List.map_cons]
    rcases hresult : (m.hook context occasion).run s with ⟨reason | ⟨⟩, shared⟩
    · have hfirst : sharedAfter chain context occasion s [position] = shared := by
        rw [sharedAfter_cons h, hresult]
        rfl
      rw [← hfirst]
      exact .upTo (k := 0) (fun i hi => absurd hi (Nat.not_lt_zero i))
        (by rw [saysAt_zero h, hresult])
    · rw [hresult] at hrest
      exact AskedInTurn.after h (by rw [hresult]) (by rw [hresult]; exact hrest)

theorem callOrder_map_snd (chain : List (Middleware σ)) (occasion : Occasion) :
    (callOrder chain occasion).map (·.2) = turns chain occasion := by
  have hrange : chain.zipIdx.map (·.2) = List.range chain.length := by
    rw [List.zipIdx_map_snd, List.range_eq_range']
  have hreverse : chain.zipIdx.reverse.map (·.2) = (List.range chain.length).reverse := by
    rw [List.map_reverse, hrange]
  cases occasion with
  | request => exact hrange
  | response status => exact hreverse
  | failure status message => exact hreverse

theorem getElem?_of_mem_callOrder {e : Middleware σ × Nat} (h : e ∈ callOrder chain occasion) :
    chain[e.2]? = some e.1 := by
  have hmem : e ∈ chain.zipIdx := by
    cases occasion with
    | request => exact h
    | response status => exact List.mem_reverse.1 h
    | failure status message => exact List.mem_reverse.1 h
  exact List.mem_zipIdx_iff_getElem?.1 hmem

/-- What becomes of a request goes from the back to the front. -/
theorem turns_of_ne_request (h : occasion ≠ .request) :
    turns chain occasion = (List.range chain.length).reverse := by
  cases occasion with
  | request => exact absurd rfl h
  | response status => rfl
  | failure status message => rfl

/-- On every occasion a chain asks its middleware in turn, up to the first that fails. -/
theorem run_askedInTurn (chain : List (Middleware σ)) (context : HookContext) (occasion : Occasion)
    (s : HookState σ) :
    AskedInTurn chain context occasion (turns chain occasion) s (run chain context occasion s) := by
  rw [← callOrder_map_snd]
  exact ask_askedInTurn _ (fun e he => getElem?_of_mem_callOrder he) s

end MiddlewareChain

end TrafficGateway
