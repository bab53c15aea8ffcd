import TrafficGateway.Proofs.Forward.Attempts
import TrafficGateway.Proofs.Forward.Chain

/-!
# The host that a backend is told

A backend gets a request under its own host. The host that the client asked for is put aside, in the
`x-forwarded-host` header. Routes take the host from the `host` header if that can be read, and from
the address otherwise (`RequestHead.view`); what is put aside is the `host` header alone, whether it can
be read or not.

So the backend is told the host that the routes saw if there is a `host` header that can be read. If
there is none, it is told what the client wrote into `x-forwarded-host`, and that may be anything
(`Request.forwardedHost_told_iff`).

## Main definitions

* `Headers.moveHost`: the step that puts the host aside.
* `Outbound.Tells`: a request tells its backend a host.
-/

namespace TrafficGateway

namespace Headers

variable {h : Headers} {name : String} {client : Option String}

/-! ## Putting the host aside -/

/-- The headers with the first value of the host, if there is one, as that of the forwarded host. -/
def moveHost (h : Headers) : Headers :=
  match h.get? "host" with
  | some host => (h.remove "host").insert "x-forwarded-host" host
  | none => h

/-- No host is left, since it was moved or there was none. -/
theorem getAll_host_moveHost : h.moveHost.getAll "host" = [] := by
  unfold moveHost
  split
  · next host _ =>
    have hremoved : ((h.remove "host").insert "x-forwarded-host" host).filter
        (·.1 == asciiLower "host") = [] := by
      rw [filter_insert_of_ne (by rw [asciiLower_host, asciiLower_forwardedHost]; decide),
        filter_remove_self]
    rw [getAll, hremoved, List.map_nil]
  · next hnone =>
    rwa [get?_eq_head?_getAll, List.head?_eq_none_iff] at hnone

/-- What is told of the host is its first value, or what was told before. -/
theorem getAll_forwardedHost_moveHost :
    h.moveHost.getAll "x-forwarded-host" =
      match h.get? "host" with
      | some host => [host]
      | none => h.getAll "x-forwarded-host" := by
  unfold moveHost
  split
  · exact getAll_insert
  · rfl

/-- The last step on the way to a backend concerns the chain of clients only. -/
theorem filter_forwardedHeaders (hne : name ≠ "x-forwarded-for") :
    (forwardedHeaders h client).filter (·.1 == name) =
      (h.stripHop false).moveHost.filter (·.1 == name) := by
  cases client with
  | none => rfl
  | some address => exact filter_insert_of_ne (by rwa [asciiLower_forwardedFor])

theorem getAll_host_forwardedHeaders : (forwardedHeaders h client).getAll "host" = [] := by
  rw [← getAll_host_moveHost (h := h.stripHop false)]
  refine getAll_congr (filter_forwardedHeaders ?_)
  rw [asciiLower_host]
  decide

theorem getAll_stripHop (hlower : asciiLower name = name) (hhop : name ∉ HopByHop.names)
    (hnames : ¬h.Names name) : (h.stripHop false).getAll name = h.getAll name := by
  refine getAll_congr ?_
  rw [hlower, filter_stripHop hhop hnames]

/-- Where no `connection` header names the two headers, the forwarded host is the first value of the
host, or what the client told if there is no host. -/
theorem getAll_forwardedHost_forwardedHeaders (hhost : ¬h.Names "host")
    (htold : ¬h.Names "x-forwarded-host") :
    (forwardedHeaders h client).getAll "x-forwarded-host" =
      match h.get? "host" with
      | some host => [host]
      | none => h.getAll "x-forwarded-host" := by
  have hmoved : (forwardedHeaders h client).getAll "x-forwarded-host" =
      (h.stripHop false).moveHost.getAll "x-forwarded-host" := by
    refine getAll_congr (filter_forwardedHeaders ?_)
    rw [asciiLower_forwardedHost]
    decide
  have hfirst : (h.stripHop false).get? "host" = h.get? "host" := by
    rw [get?_eq_head?_getAll, getAll_stripHop asciiLower_host (by decide) hhost,
      get?_eq_head?_getAll]
  rw [hmoved, getAll_forwardedHost_moveHost, hfirst,
    getAll_stripHop asciiLower_forwardedHost (by decide) htold]

end Headers

/-! ## What routes see and what the backend is told -/

/-- A request to a backend tells it a host, and no other. -/
def Outbound.Tells (o : Outbound) (host : String) : Prop :=
  o.headers.getAll "x-forwarded-host" = [HeaderValue.ofText host]

instance (o : Outbound) (host : String) : Decidable (o.Tells host) :=
  inferInstanceAs (Decidable (_ = _))

namespace RequestHead

/-- A host that can be read is the one that routes see, and it is written as it was. -/
theorem get?_host_of_text? {r : RequestHead} (h : (r.headers.text? "host").isSome) :
    r.headers.get? "host" = some (HeaderValue.ofText r.view.host) := by
  obtain ⟨host, hhost⟩ := Option.isSome_iff_exists.1 h
  have hview : r.view.host = host := by simp [view, hhost]
  obtain ⟨value, hvalue, htext⟩ := Option.bind_eq_some_iff.1 hhost
  rw [hview, hvalue, HeaderValue.ofText_of_text? htext]

end RequestHead

namespace Request

variable {σ : Type}

/-- All requests of an exchange have the headers that its client sent, made ready for a backend. -/
theorem headers_of_mem_forward {r : Request} {rule : PathRule} {context : RouteContext}
    {discovered : Bool} {p : RetryPolicy} {resolve : Resolve σ} {backends : Backends} {s : σ}
    {a : Attempt} {o : Outbound}
    (ha : a ∈ (r.forward rule context discovered p resolve backends s).attempts)
    (ho : a.sent = .ok o) :
    o.headers = forwardedHeaders r.head.headers (r.client.map (·.host.render)) := by
  obtain ⟨frames, n, -, hn⟩ | ⟨frames, reason, rest, -, hf⟩ :=
    r.forward_cases rule context discovered p resolve backends s
  · exact (hn.follows.sent a ha o ho).2.2.1
  · rw [hf] at ha
    exact absurd ha List.not_mem_nil

/-- **The backend is told the host that the routes saw, if the client named it in a `host` header.** Let
no `connection` header name the two headers. Then whatever is sent, by whichever attempt and to
whichever backend, has no `host` header of the client. It tells the host of the request if there is a
`host` header that can be read, whatever else the client told; and otherwise exactly if that header was
the host all the same, or if there is none and the client told the host by itself. -/
theorem forwardedHost_told_iff (r : Request) (rule : PathRule) (context : RouteContext)
    (discovered : Bool) (p : RetryPolicy) (resolve : Resolve σ) (backends : Backends) (s : σ)
    (hhost : ¬r.head.headers.Names "host") (htold : ¬r.head.headers.Names "x-forwarded-host") :
    let host := r.head.view.host
    ∀ a ∈ (r.forward rule context discovered p resolve backends s).attempts, ∀ o, a.sent = .ok o →
      o.headers.getAll "host" = [] ∧
        ((r.head.headers.text? "host").isSome → o.Tells host) ∧
        (o.Tells host ↔
          r.head.headers.get? "host" = some (HeaderValue.ofText host) ∨
            r.head.headers.getAll "host" = [] ∧
              r.head.headers.getAll "x-forwarded-host" = [HeaderValue.ofText host]) := by
  intro host a ha o ho
  have hheaders := headers_of_mem_forward ha ho
  have htells : o.Tells host ↔ r.head.headers.get? "host" = some (HeaderValue.ofText host) ∨
      r.head.headers.getAll "host" = [] ∧
        r.head.headers.getAll "x-forwarded-host" = [HeaderValue.ofText host] := by
    rw [Outbound.Tells, hheaders, Headers.getAll_forwardedHost_forwardedHeaders hhost htold,
      ← List.head?_eq_none_iff, ← Headers.get?_eq_head?_getAll]
    cases r.head.headers.get? "host" with
    | some value => simp
    | none => simp
  refine ⟨?_, fun hreadable => ?_, htells⟩
  · rw [hheaders, Headers.getAll_host_forwardedHeaders]
  · exact htells.2 (.inl (RequestHead.get?_host_of_text? hreadable))

/-- A request for a shop whose client pretends that it came for another host. -/
def shopRequest : Request :=
  { head :=
      { uri := { target := ⟨"/h", none⟩ }
        headers := [("host", "shop.example.com".toUTF8.toList), ("connection", "x-hint".toUTF8.toList),
          ("x-forwarded-host", "evil.example".toUTF8.toList)] } }

/-- With a `host` header the backend is told it. -/
theorem shop_host_told :
    let f := shopRequest.forward .copyFullPath {} false {}
      (fun _ choices => (.ok ⟨"http", "10.0.0.1:80"⟩, choices)) Backends.unreachable 0
    ¬shopRequest.head.headers.Names "host" ∧ ¬shopRequest.head.headers.Names "x-forwarded-host" ∧
      ∃ a ∈ f.attempts, ∃ o, a.sent = .ok o ∧ o.Tells "shop.example.com" := by
  intro f
  have hhost : ¬shopRequest.head.headers.Names "host" := by decide +kernel
  have htold : ¬shopRequest.head.headers.Names "x-forwarded-host" := by decide +kernel
  have hreadable : (shopRequest.head.headers.text? "host").isSome = true := by decide +kernel
  have hview : shopRequest.head.view.host = "shop.example.com" := by decide +kernel
  obtain ⟨a, ha, o, ho⟩ : ∃ a ∈ f.attempts, ∃ o, a.sent = .ok o :=
    ⟨_, List.mem_cons_self, _, rfl⟩
  obtain ⟨-, htells, -⟩ :=
    forwardedHost_told_iff shopRequest .copyFullPath {} false {} _ Backends.unreachable 0 hhost htold
      a ha o ho
  exact ⟨hhost, htold, a, ha, o, ho, hview ▸ htells hreadable⟩

/-- Without a `host` header, as a request is that names the host in its address, the backend is told
whatever the client says. -/
theorem pretended_host_is_told :
    let r : Request :=
      { head :=
          { uri :=
              { scheme := some "http", authority := some "gw.example.com", target := ⟨"/h", none⟩ }
            headers := [("x-forwarded-host", "evil.example".toUTF8.toList)] } }
    let f := r.forward .copyFullPath {} false {}
      (fun _ choices => (.ok ⟨"http", "10.0.0.1:80"⟩, choices)) Backends.unreachable 0
    r.head.view.host = "gw.example.com" ∧
      ¬r.head.headers.Names "host" ∧ ¬r.head.headers.Names "x-forwarded-host" ∧
      ∃ a ∈ f.attempts, ∃ o, a.sent = .ok o ∧ o.Tells "evil.example" ∧ ¬o.Tells "gw.example.com" := by
  refine ⟨by decide +kernel, by decide +kernel, by decide +kernel, _, List.mem_cons_self, _, rfl, ?_⟩
  decide +kernel

end Request

end TrafficGateway
