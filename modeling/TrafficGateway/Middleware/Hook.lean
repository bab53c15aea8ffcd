import TrafficGateway.Dict
import TrafficGateway.Route.Kind

/-!
# Middleware

What runs around every request that a route has claimed: once before the request is sent on, and once
when it is known how it ended. Middleware looks at a request and cannot change it; if a hook fails,
the rest of the chain is skipped for this occasion, and that is all.

## Main definitions

* `HookContext`: what a hook is told of the request.
* `Occasion`: when hooks run.
* `Middleware`: what is done on an occasion.
* `MiddlewareChain.callOrder`: in which order a chain is asked.
* `MiddlewareChain.run`: whom a chain has asked, and why it stopped early.
-/

namespace TrafficGateway

/-- What a hook is told of the request. -/
structure HookContext where
  method : String
  path : String
  route : String
  targetType : TargetType
  deriving DecidableEq, Repr

/-- What the hooks of one request share: notes that one leaves for the others, and the world outside,
to which a hook may report. -/
structure HookState (σ : Type) where
  notes : Dict String String := .empty
  world : σ

/-- What a hook does. It may fail with a reason; whatever it did before remains done. -/
abbrev HookM (σ : Type) := ExceptT String (StateM (HookState σ))

/-- When hooks run: before the request is sent on, when the head of the response is there, or when
there will be none. The status is the one that the client gets. -/
inductive Occasion where
  | request
  | response (status : Nat)
  | failure (status : Nat) (message : String)
  deriving DecidableEq, Repr

/-- What is done on each occasion. -/
structure Middleware (σ : Type) where
  hook : HookContext → Occasion → HookM σ Unit := fun _ _ => pure ()

namespace Middleware

variable {σ : Type}

instance : Inhabited (Middleware σ) := ⟨{}⟩

/-- The middleware that does nothing. -/
def silent : Middleware σ := {}

end Middleware

/-- Whom a chain has asked on an occasion, by position; why it stopped early, if it did; and the state
after it. -/
structure HookRun (σ : Type) where
  asked : List Nat
  refusal : Option String
  state : HookState σ

/-- The run that asked someone first. -/
def HookRun.after {σ : Type} (position : Nat) (r : HookRun σ) : HookRun σ :=
  { r with asked := position :: r.asked }

namespace MiddlewareChain

variable {σ : Type}

/-- In which order a chain is asked, with the positions: requests pass from the front to the back, and
what becomes of them from the back to the front. -/
def callOrder (chain : List (Middleware σ)) : Occasion → List (Middleware σ × Nat)
  | .request => chain.zipIdx
  | _ => chain.zipIdx.reverse

/-- Asks one middleware after the other, up to the first that fails. -/
def ask (context : HookContext) (occasion : Occasion) :
    List (Middleware σ × Nat) → HookState σ → HookRun σ
  | [], s => ⟨[], none, s⟩
  | (m, position) :: rest, s =>
    match (m.hook context occasion).run s with
    | (.error reason, s) => ⟨[position], some reason, s⟩
    | (.ok _, s) => (ask context occasion rest s).after position

/-- Asks a chain on an occasion. -/
def run (chain : List (Middleware σ)) (context : HookContext) (occasion : Occasion)
    (s : HookState σ) : HookRun σ :=
  ask context occasion (callOrder chain occasion) s

end MiddlewareChain

end TrafficGateway
