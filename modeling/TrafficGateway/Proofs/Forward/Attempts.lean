import TrafficGateway.Forward.Exchange

/-!
# Which attempts are made

A request goes to a backend until an attempt ends in a way that no other attempt could mend, or until
the policy allows no more of them. Which attempts these are can be said without the loop that makes
them: attempt `k` is made in the state that the choices of all attempts before it have left
(`Exchange.attemptAt`), and there is an attempt `k + 1` exactly if fewer than the allowed retries were
made and the outcome of attempt `k` calls for another one (`Exchange.Follows`).

Resolvers and backends are arbitrary here, so this covers every sequence of outcomes.

## Main statements

* `Exchange.runFrom_runsTo`: the loop from some attempt on, by induction on the retries that are left.
* `Request.forward_follows_policy`: whole requests, with bodies that can be read and others.
-/

namespace TrafficGateway

/-! ## Outcomes -/

namespace Attempt

/-- The outcome calls for another attempt: the connection failed, or the policy lists the status of
the response. -/
def CallsForAnother (p : RetryPolicy) (a : Attempt) : Prop :=
  (∃ detail, a.reply = .ok (.failed detail)) ∨
    ∃ r, a.reply = .ok (.answered r) ∧
      ∃ code ∈ p.retryableStatusCodes, code.toNat = r.status.code

/-- What the client gets after the last attempt: the response, whatever its status is, or the reason why
there is none. -/
inductive Concludes (a : Attempt) : Except ForwardError Response → Prop where
  | answered {r : Response} (h : a.reply = .ok (.answered r)) : Concludes a (.ok (r.passedOn false))
  | failed {detail : String} (h : a.reply = .ok (.failed detail)) :
      Concludes a (.error (.exchange .badGateway detail))
  | timedOut (h : a.reply = .ok .timedOut) : Concludes a (.error .timeout)
  /-- No backend could be chosen, or no request be made for it. -/
  | unsent {e : ForwardError} (h : a.reply = .error e) : Concludes a (.error e)

theorem isRetryable_iff {p : RetryPolicy} {a : Attempt} :
    a.isRetryable p = true ↔ a.CallsForAnother p := by
  unfold isRetryable CallsForAnother
  cases a.reply with
  | error e => simp
  | ok reply =>
    cases reply with
    | answered r => simp [RetryPolicy.shouldRetry]
    | failed detail => simp
    | timedOut => simp

theorem concludes_result (a : Attempt) : a.Concludes a.result := by
  unfold result
  cases h : a.reply with
  | error e => exact .unsent h
  | ok reply =>
    cases reply with
    | answered r => exact .answered h
    | failed detail => exact .failed h
    | timedOut => exact .timedOut h

end Attempt

/-! ## The loop -/

namespace Exchange

variable {σ : Type} (x : Exchange) (p : RetryPolicy) (resolve : Resolve σ) (backends : Backends)
  (s : σ)

/-- The state in which the backend of an attempt is chosen, after the choices for those before it. -/
def stateAt : Nat → σ
  | 0 => s
  | k + 1 => (resolve (x.contextOf k) (stateAt k)).2

/-- The attempt with a number, if all before it are made. -/
def attemptAt (k : Nat) : Attempt :=
  (x.attempt resolve backends k (x.stateAt resolve s k)).1

/-- From attempt `k` on, `n` attempts were followed by another one and attempt `k + n` was the last,
where there could be `left` more. -/
structure RunsTo (left k n : Nat) (f : Forwarded σ) : Prop where
  le : n ≤ left
  length : f.attempts.length = n + 1
  attempts : ∀ i ≤ n, f.attempts[i]? = some
    { x.attemptAt resolve backends s (k + i) with
      pause := if i < n then some (p.backoff (k + i)) else none }
  again : ∀ i < n, (x.attemptAt resolve backends s (k + i)).isRetryable p = true
  enough : n < left → (x.attemptAt resolve backends s (k + n)).isRetryable p = false
  result : f.result = (x.attemptAt resolve backends s (k + n)).result
  state : f.state = x.stateAt resolve s (k + n + 1)

variable {x p resolve backends s}

/-- The last attempt is the whole run. -/
theorem RunsTo.last {left k : Nat}
    (h : 0 < left → (x.attemptAt resolve backends s k).isRetryable p = false) :
    x.RunsTo p resolve backends s left k 0
      ⟨[x.attemptAt resolve backends s k], (x.attemptAt resolve backends s k).result,
        x.stateAt resolve s (k + 1)⟩ where
  le := Nat.zero_le left
  length := rfl
  attempts := by
    intro i hi
    obtain rfl := Nat.le_zero.1 hi
    rfl
  again := fun i hi => absurd hi (Nat.not_lt_zero i)
  enough := h
  result := rfl
  state := rfl

/-- An attempt that calls for another one goes before the run from the next one on. -/
theorem RunsTo.after {left k n : Nat} {f : Forwarded σ}
    (hagain : (x.attemptAt resolve backends s k).isRetryable p = true)
    (h : x.RunsTo p resolve backends s left (k + 1) n f) :
    x.RunsTo p resolve backends s (left + 1) k (n + 1)
      (f.after { x.attemptAt resolve backends s k with pause := some (p.backoff k) }) := by
  have hshift : ∀ i, k + 1 + i = k + (i + 1) := fun i => by omega
  refine { le := Nat.succ_le_succ h.le, length := ?_, attempts := ?_, again := ?_, enough := ?_,
           result := ?_, state := ?_ }
  · show f.attempts.length + 1 = n + 1 + 1
    rw [h.length]
  · intro i hi
    cases i with
    | zero => rfl
    | succ i =>
      have hattempt := h.attempts i (Nat.le_of_succ_le_succ hi)
      rw [hshift] at hattempt
      simpa [Forwarded.after, Nat.succ_lt_succ_iff] using hattempt
  · intro i hi
    cases i with
    | zero => exact hagain
    | succ i => exact hshift i ▸ h.again i (Nat.lt_of_succ_lt_succ hi)
  · intro hlt
    exact hshift n ▸ h.enough (Nat.lt_of_succ_lt_succ hlt)
  · exact hshift n ▸ h.result
  · show f.state = x.stateAt resolve s (k + (n + 1) + 1)
    rw [h.state, hshift]

/-- The loop goes on as long as attempts call for others and some are left. -/
theorem runFrom_runsTo (left k : Nat) :
    ∃ n, x.RunsTo p resolve backends s left k n
      (x.runFrom p resolve backends left k (x.stateAt resolve s k)) := by
  induction left generalizing k with
  | zero => exact ⟨0, .last fun h => absurd h (Nat.lt_irrefl 0)⟩
  | succ left ih =>
    cases hagain : (x.attemptAt resolve backends s k).isRetryable p with
    | false =>
      have hrun : x.runFrom p resolve backends (left + 1) k (x.stateAt resolve s k) =
          ⟨[x.attemptAt resolve backends s k], (x.attemptAt resolve backends s k).result,
            x.stateAt resolve s (k + 1)⟩ :=
        if_neg (Bool.eq_false_iff.1 hagain)
      rw [hrun]
      exact ⟨0, .last fun _ => hagain⟩
    | true =>
      have hrun : x.runFrom p resolve backends (left + 1) k (x.stateAt resolve s k) =
          (x.runFrom p resolve backends left (k + 1) (x.stateAt resolve s (k + 1))).after
            { x.attemptAt resolve backends s k with pause := some (p.backoff k) } :=
        if_pos hagain
      obtain ⟨n, hn⟩ := ih (k + 1)
      rw [hrun]
      exact ⟨n + 1, hn.after hagain⟩

/-! ## The policy -/

variable (x p resolve backends s)

/-- What came of an exchange follows the policy of retries. -/
structure Follows (f : Forwarded σ) : Prop where
  /-- There is a first attempt. -/
  first : 0 < f.attempts.length
  /-- There is another attempt exactly if one is left and the one before calls for it. -/
  next : ∀ k, k + 1 < f.attempts.length ↔
    k < p.maxRetries.toNat ∧ ∃ a, f.attempts[k]? = some a ∧ a.CallsForAnother p
  /-- Before the next attempt there is the pause that the policy has for it. -/
  pause : ∀ k a, f.attempts[k]? = some a →
    a.pause = if k + 1 < f.attempts.length then some (p.backoff k) else none
  /-- After the first attempt a discovered backend is chosen for the default version and the same
  key. Everything else is chosen for what the request says. -/
  context : ∀ k a, f.attempts[k]? = some a →
    a.context = if k = 0 ∨ x.discovered = false then x.context
      else { version := some defaultVersion, hashKey := x.context.hashKey }
  /-- The backend is chosen in the state that the choices before it have left. -/
  chosen : ∀ k a, f.attempts[k]? = some a →
    a.sent = (resolve a.context (x.stateAt resolve s k)).1.bind x.outbound
  /-- Whatever is sent, but for the backend it is always the same. -/
  sent : ∀ a ∈ f.attempts, ∀ o, a.sent = .ok o →
    o.method = x.method ∧ PathAndQuery.readAbsolute x.target.toList = some o.uri.target ∧
      o.headers = x.headers ∧ o.body = [.frame (.data x.body)]
  /-- The reply is that of the backend to what was sent, if anything was. -/
  reply : ∀ (k : Nat) (a : Attempt), f.attempts[k]? = some a → a.reply = a.sent.map (backends.reply k)
  /-- The last attempt decides what the client gets. -/
  last : ∃ a, f.attempts.getLast? = some a ∧ a.Concludes f.result
  /-- Nothing but the choices changes the state. -/
  state : f.state = x.stateAt resolve s f.attempts.length

variable {x p resolve backends s}

/-- What is sent to an endpoint differs from what is sent to another in the endpoint only. -/
theorem outbound_ok {endpoint : Endpoint} {o : Outbound} (h : x.outbound endpoint = .ok o) :
    o.method = x.method ∧ PathAndQuery.readAbsolute x.target.toList = some o.uri.target ∧
      o.headers = x.headers ∧ o.body = [.frame (.data x.body)] := by
  unfold outbound Endpoint.uri at h
  cases htarget : PathAndQuery.readAbsolute x.target.toList with
  | none =>
    rw [htarget] at h
    cases h
  | some target =>
    rw [htarget] at h
    obtain rfl := Except.ok.inj h
    exact ⟨rfl, rfl, rfl, rfl⟩

theorem contextOf_eq (k : Nat) :
    x.contextOf k = if k = 0 ∨ x.discovered = false then x.context
      else { version := some defaultVersion, hashKey := x.context.hashKey } := by
  unfold contextOf RouteContext.pinnedToDefault
  rcases Nat.eq_zero_or_pos k with rfl | hk
  · simp
  · have hne : k ≠ 0 := Nat.ne_of_gt hk
    cases hd : x.discovered <;> simp [hne, hk]

/-- A run that ends somewhere follows the policy. -/
theorem RunsTo.follows {n : Nat} {f : Forwarded σ}
    (h : x.RunsTo p resolve backends s p.maxRetries.toNat 0 n f) :
    x.Follows p resolve backends s f := by
  -- an attempt of the list is the one with its number, up to the pause after it
  have hat : ∀ {k a}, f.attempts[k]? = some a → k ≤ n ∧
      a = { x.attemptAt resolve backends s k with
            pause := if k < n then some (p.backoff k) else none } := by
    intro k a ha
    have hk : k ≤ n := by
      have hlt := (List.getElem?_eq_some_iff.1 ha).1
      rw [h.length] at hlt
      omega
    refine ⟨hk, ?_⟩
    have hattempt := h.attempts k hk
    rw [Nat.zero_add] at hattempt
    exact Option.some.inj (ha.symm.trans hattempt)
  have hlt : ∀ k, k + 1 < f.attempts.length ↔ k < n := fun k => by rw [h.length]; omega
  have hsent : ∀ k a, f.attempts[k]? = some a →
      a.sent = (resolve a.context (x.stateAt resolve s k)).1.bind x.outbound := by
    intro k a ha
    rw [(hat ha).2]
    rfl
  refine { first := by rw [h.length]; omega, next := ?_, pause := ?_, context := ?_, chosen := hsent,
           sent := ?_, reply := ?_, last := ?_, state := ?_ }
  · intro k
    rw [hlt]
    constructor
    · intro hk
      have hagain := h.again k hk
      rw [Nat.zero_add] at hagain
      have hattempt := h.attempts k (Nat.le_of_lt hk)
      rw [Nat.zero_add] at hattempt
      exact ⟨Nat.lt_of_lt_of_le hk h.le, _, hattempt, Attempt.isRetryable_iff.1 hagain⟩
    · rintro ⟨hk, a, ha, hcalls⟩
      obtain ⟨hkn, rfl⟩ := hat ha
      -- the last attempt would have been followed by another one
      refine Nat.lt_of_le_of_ne hkn fun heq => ?_
      subst heq
      have henough := h.enough hk
      rw [Nat.zero_add] at henough
      exact Bool.eq_false_iff.1 henough (Attempt.isRetryable_iff.2 hcalls)
  · intro k a ha
    rw [(hat ha).2]
    simp only [hlt]
  · intro k a ha
    rw [(hat ha).2]
    exact contextOf_eq k
  · intro a ha o ho
    obtain ⟨k, hk⟩ := List.mem_iff_getElem?.1 ha
    rw [hsent k a hk] at ho
    cases hendpoint : (resolve a.context (x.stateAt resolve s k)).1 with
    | error e =>
      rw [hendpoint] at ho
      cases ho
    | ok endpoint =>
      rw [hendpoint] at ho
      exact outbound_ok ho
  · intro k a ha
    rw [(hat ha).2]
    rfl
  · have hlast : f.attempts.getLast? = f.attempts[n]? := by
      rw [List.getLast?_eq_getElem?, h.length]
      rfl
    refine ⟨_, hlast.trans (h.attempts n (Nat.le_refl n)), ?_⟩
    rw [h.result]
    exact Attempt.concludes_result _
  · rw [h.state, h.length, Nat.zero_add]

end Exchange

/-! ## Requests -/

namespace Request

/-- A body is frames to its end, or frames up to the first failure. -/
theorem collect_frames_or_failure (items : List ChannelItem) :
    (∃ frames : List Frame, items = frames.map .frame ∧ collect items = .ok frames) ∨
      ∃ (frames : List Frame) (reason : String) (rest : List ChannelItem),
        items = frames.map .frame ++ .failure reason :: rest ∧
          collect items = .error (.body reason) := by
  induction items with
  | nil => exact .inl ⟨[], rfl, rfl⟩
  | cons item items ih =>
    cases item with
    | failure reason => exact .inr ⟨[], reason, items, rfl, rfl⟩
    | frame frame =>
      obtain ⟨frames, rfl, hcollect⟩ | ⟨frames, reason, rest, rfl, hcollect⟩ := ih
      · exact .inl ⟨frame :: frames, rfl, by rw [collect, hcollect]; rfl⟩
      · exact .inr ⟨frame :: frames, reason, rest, rfl, by rw [collect, hcollect]; rfl⟩

variable {σ : Type}

/-- A request whose body is frames to its end goes through the attempts, and no other is sent. -/
theorem forward_cases (r : Request) (rule : PathRule) (context : RouteContext) (discovered : Bool)
    (p : RetryPolicy) (resolve : Resolve σ) (backends : Backends) (s : σ) :
    (∃ (frames : List Frame) (n : Nat), r.body = frames.map .frame ∧
      (Exchange.ofRequest r (Frame.bytes frames) rule context discovered).RunsTo p resolve backends s
        p.maxRetries.toNat 0 n (r.forward rule context discovered p resolve backends s)) ∨
    ∃ (frames : List Frame) (reason : String) (rest : List ChannelItem),
      r.body = frames.map .frame ++ .failure reason :: rest ∧
        r.forward rule context discovered p resolve backends s = ⟨[], .error (.body reason), s⟩ := by
  rw [forward, bytes]
  obtain ⟨frames, hbody, hcollect⟩ | ⟨frames, reason, rest, hbody, hcollect⟩ :=
    collect_frames_or_failure r.body
  · rw [hcollect]
    obtain ⟨n, hn⟩ := Exchange.runFrom_runsTo p.maxRetries.toNat 0
    exact .inl ⟨frames, n, hbody, hn⟩
  · rw [hcollect]
    exact .inr ⟨frames, reason, rest, hbody, rfl⟩

/-- Two failures of a discovered service and an answer that nothing could mend: three attempts, of
which only the first asks for a version. -/
example :
    let reply : Nat → Reply
      | 0 => .answered (.empty .unavailable)
      | 1 => .failed "connection reset"
      | _ => .answered (.empty .notFound)
    let f := ({ head := default } : Request).forward .copyFullPath { version := some "v2" } true
      { maxRetries := 5 } (fun _ choices => (.ok ⟨"http", "10.0.0.1:80"⟩, choices + 1))
      { Backends.unreachable with reply := fun k _ => reply k } 0
    f.attempts.map (fun a => (a.context.version, a.pause)) =
        [(some "v2", some 50), (some "default", some 100), (some "default", none)] ∧ f.state = 3 := by
  decide

end Request

end TrafficGateway
