import Mathlib.Data.List.Dedup
import TrafficGateway.Proofs.Gateway.Refusal

/-!
# Which caches follow which services

A gateway notes the service of a route as soon as a transport is built for the route, together with the
algorithm that the policy of the route calls for. It notes nothing twice, and different policies call for
different algorithms, so what is noted are the pairs of a policy and a service that routes ask for, each once
(`Gateway.followed_perm`). A route that the table refuses after that, since its path is taken, is one of
these routes; if none is refused so they are the accepted ones (`Gateway.connected_eq_accepted`).

To follow the services is to subscribe once for each note, whether the subscription comes about or not
(`Gateway.followEach_attempts`), and so once for each pair (`Gateway.follow_followsOnce`).

## Main definitions

* `RouteConfig.discovers?`, `RouteConfig.pairs`: the policy and the service of a route, and those of many.
* `Gateway.connected`: the routes that a transport is built for.
* `Gateway.Attempts`: one subscription is attempted for each note of a list.
* `Gateway.FollowsOnce`: one subscription is attempted for each pair of a policy and a service.

## Main statements

* `Gateway.mem_followed_register`, `Gateway.followed_perm`: what is noted, by induction on the registrations.
* `Gateway.followEach_attempts`, `Gateway.follow_followsOnce`: what following does, by induction on the notes.
-/

namespace TrafficGateway

theorem SelectorFactory.kindFor_injective (f : SelectorFactory) : Function.Injective f.kindFor := by
  intro a b h
  cases a <;> cases b <;> first | rfl | cases h

/-! ## Policies and services -/

namespace RouteTarget

/-- The policy and the service of a target whose backends are discovered. -/
def discovers? : RouteTarget → Option (BalancePolicy × String)
  | .discovery service policy _ => some (policy, service)
  | _ => none

end RouteTarget

namespace RouteConfig

/-- The policy and the service of a route whose description is in order and whose backends are
discovered. -/
def discovers? (r : RouteConfig) : Option (BalancePolicy × String) :=
  r.validate.toOption.bind (·.target.discovers?)

/-- The pairs of a policy and a service that some routes ask for, each once. -/
def pairs (rs : List RouteConfig) : List (BalancePolicy × String) :=
  (rs.filterMap discovers?).dedup

theorem mem_pairs {rs : List RouteConfig} {p : BalancePolicy × String} :
    p ∈ pairs rs ↔ ∃ r ∈ rs, r.discovers? = some p := by
  rw [pairs, List.mem_dedup, List.mem_filterMap]

end RouteConfig

namespace Gateway

variable {g : Gateway} {r : RouteConfig}

/-! ## Notes -/

/-- The note for a policy and a service: the algorithm of the cache, and the service. -/
def note (g : Gateway) (p : BalancePolicy × String) : SelectorKind × String :=
  (g.factory.kindFor p.1, p.2)

theorem note_injective (g : Gateway) : Function.Injective g.note := by
  intro a b h
  obtain ⟨hkind, hservice⟩ := Prod.mk.inj h
  exact Prod.ext (g.factory.kindFor_injective hkind) hservice

theorem note_congr {g' : Gateway} (h : g.factory = g'.factory) : g.note = g'.note := by
  funext p
  rw [note, note, h]

/-- The notes after a target was connected: those before, and that of the target if its backends are
discovered. -/
theorem mem_noted_iff {target : RouteTarget} {x : SelectorKind × String} :
    x ∈ g.noted target ↔ x ∈ g.followed ∨ ∃ p, target.discovers? = some p ∧ x = g.note p := by
  cases target with
  | mock spec => simp [noted, RouteTarget.discovers?]
  | domain targets policy hashHeader => simp [noted, RouteTarget.discovers?]
  | discovery service policy hashHeader =>
    have hsome : (RouteTarget.discovery service policy hashHeader).discovers? =
      some (policy, service) := rfl
    simp only [hsome, Option.some.injEq, exists_eq_left']
    show x ∈ (if g.followed.contains (g.note (policy, service)) then g.followed
      else g.followed ++ [g.note (policy, service)]) ↔ _
    split
    · next hknown =>
      refine ⟨.inl, ?_⟩
      rintro (hx | rfl)
      · exact hx
      · exact List.contains_iff_mem.1 hknown
    · rw [List.mem_append, List.mem_singleton]

/-- Nothing is noted twice. -/
theorem nodup_noted (h : g.followed.Nodup) (target : RouteTarget) : (g.noted target).Nodup := by
  cases target with
  | mock spec => exact h
  | domain targets policy hashHeader => exact h
  | discovery service policy hashHeader =>
    show (if g.followed.contains (g.note (policy, service)) then g.followed
      else g.followed ++ [g.note (policy, service)]).Nodup
    split
    · exact h
    · next hnew =>
      refine List.nodup_append.2 ⟨h, List.nodup_singleton _, ?_⟩
      intro a ha b hb heq
      rw [List.mem_singleton.1 hb] at heq
      exact hnew (List.contains_iff_mem.2 (heq ▸ ha))

/-! ## One registration -/

/-- A route was prepared from its checked description. -/
theorem discovers?_of_prepare {p : Prepared} (h : g.prepare r = .ok p) :
    r.discovers? = p.spec.target.discovers? := by
  rw [RouteConfig.discovers?, (prepare_eq_ok h).1]
  rfl

theorem factory_register (g : Gateway) (r : RouteConfig) :
    (g.register r).2.factory = g.factory := by
  have hstage := g.register_stages r
  revert hstage
  generalize g.register r = result
  obtain ⟨outcome, after⟩ := result
  intro hstage
  cases hstage with
  | unprepared _ hrouting => exact congrArg Routing.factory hrouting
  | taken _ _ hrouting => exact congrArg Routing.factory hrouting
  | accepted _ _ hrouting => exact congrArg Routing.factory hrouting

/-- A registration notes what the route asks for as soon as a transport was built, and leaves the notes
without repetitions. -/
theorem followed_register (g : Gateway) (r : RouteConfig) :
    (∃ p, g.prepare r = .ok p ∧ (g.register r).2.followed = g.noted p.spec.target) ∨
      (∃ e, g.prepare r = .error e) ∧ (g.register r).2.followed = g.followed := by
  have hstage := g.register_stages r
  revert hstage
  generalize g.register r = result
  obtain ⟨outcome, after⟩ := result
  intro hstage
  cases hstage with
  | unprepared hprepare _ hfollowed => exact .inr ⟨⟨_, hprepare⟩, hfollowed⟩
  | taken hprepare _ _ hfollowed => exact .inl ⟨_, hprepare, hfollowed⟩
  | accepted hprepare _ _ hfollowed => exact .inl ⟨_, hprepare, hfollowed⟩

theorem nodup_followed_register (h : g.followed.Nodup) (r : RouteConfig) :
    (g.register r).2.followed.Nodup := by
  rcases g.followed_register r with ⟨p, -, hfollowed⟩ | ⟨-, hfollowed⟩
  · exact hfollowed ▸ nodup_noted h _
  · exact hfollowed ▸ h

/-- The routes of a list that a transport is built for, whether or not the table takes them then. -/
def connected : List RouteConfig → Gateway → List RouteConfig
  | [], _ => []
  | r :: rs, g => (if (g.prepare r).isOk then [r] else []) ++ connected rs (g.register r).2

/-- The notes after one registration. -/
theorem mem_followed_register {x : SelectorKind × String} :
    x ∈ (g.register r).2.followed ↔ x ∈ g.followed ∨
      ∃ p, (g.prepare r).isOk ∧ r.discovers? = some p ∧ x = g.note p := by
  rcases g.followed_register r with ⟨p, hprepare, hfollowed⟩ | ⟨⟨e, hprepare⟩, hfollowed⟩
  · rw [hfollowed, mem_noted_iff, hprepare, discovers?_of_prepare hprepare]
    simp [Except.isOk, Except.toBool]
  · rw [hfollowed, hprepare]
    simp [Except.isOk, Except.toBool]

/-! ## All registrations -/

theorem nodup_followed_registerAll (h : g.followed.Nodup) (rs : List RouteConfig) :
    (registerAll rs g).2.followed.Nodup := by
  induction rs generalizing g with
  | nil => exact h
  | cons r rs ih => exact ih (nodup_followed_register h r)

theorem mem_followed_registerAll {rs : List RouteConfig} {x : SelectorKind × String} :
    x ∈ (registerAll rs g).2.followed ↔ x ∈ g.followed ∨
      ∃ p ∈ RouteConfig.pairs (connected rs g), x = g.note p := by
  simp only [RouteConfig.mem_pairs]
  induction rs generalizing g with
  | nil => simp [registerAll, connected]
  | cons r rs ih =>
    rw [registerAll, connected]
    dsimp only
    -- a pair has the same note before and after a registration
    rw [ih, mem_followed_register, note_congr (g.factory_register r), or_assoc]
    refine or_congr_right ?_
    by_cases hprepare : (g.prepare r).isOk
    · simp [hprepare, or_and_right, exists_or]
    · simp [hprepare]

/-- **What is noted are the pairs that routes ask for, each once**: of all the routes that a transport was
built for, in a gateway that noted nothing before. -/
theorem followed_perm (h : g.followed = []) (rs : List RouteConfig) :
    (registerAll rs g).2.followed.Perm ((RouteConfig.pairs (connected rs g)).map g.note) := by
  have hnone : g.followed.Nodup := h ▸ List.nodup_nil
  have hpairs : (RouteConfig.pairs (connected rs g)).Nodup := List.nodup_dedup _
  refine (List.perm_ext_iff_of_nodup (nodup_followed_registerAll hnone rs)
    (hpairs.map g.note_injective)).2 fun x => ?_
  rw [mem_followed_registerAll, h, List.mem_map]
  simp [eq_comm]

/-! ## Accepted routes -/

/-- A transport is built for every route that is accepted, and for one that is refused only if its path
is taken. -/
theorem connected_cases (g : Gateway) (r : RouteConfig) :
    (∃ a, g.accept? r = some a ∧ a.config = r ∧ (g.prepare r).isOk) ∨
      g.accept? r = none ∧ ((g.prepare r).isOk →
        (g.register r).1 = .error (.route (.invalid (.duplicateExact r.path))) ∨
          (g.register r).1 = .error (.route (.invalid (.duplicatePrefix r.path)))) := by
  have hstage := g.register_stages r
  rw [accept?]
  generalize g.register r = result at hstage ⊢
  obtain ⟨outcome, after⟩ := result
  cases hstage with
  | unprepared hprepare =>
    refine .inr ⟨rfl, fun hbuilt => ?_⟩
    rw [hprepare] at hbuilt
    cases hbuilt
  | taken hprepare hplace =>
    refine .inr ⟨rfl, fun _ => ?_⟩
    rcases (place_eq_error hprepare hplace).2 with rfl | rfl
    · exact .inl rfl
    · exact .inr rfl
  | accepted hprepare hplace =>
    rw [transportFor_of_prepare hprepare, hprepare]
    exact .inl ⟨_, rfl, rfl, rfl⟩

/-- Some route is refused since its path is taken. -/
def TakesPaths (outcomes : List (Except ForwardError Unit)) : Prop :=
  ∃ path, .error (.route (.invalid (.duplicateExact path))) ∈ outcomes ∨
    .error (.route (.invalid (.duplicatePrefix path))) ∈ outcomes

theorem accepted_sublist_connected (rs : List RouteConfig) (g : Gateway) :
    ((g.accepted rs).map (·.config)).Sublist (connected rs g) := by
  induction rs generalizing g with
  | nil => exact .slnil
  | cons r rs ih =>
    rw [accepted, connected, List.map_append]
    refine List.Sublist.append ?_ (ih _)
    rcases g.connected_cases r with ⟨a, haccept, hconfig, hbuilt⟩ | ⟨hnone, -⟩
    · rw [haccept, hbuilt, Option.toList_some, List.map_singleton, hconfig]
      exact List.Sublist.refl _
    · rw [hnone]
      exact List.nil_sublist _

/-- If no path is taken a transport is built for the accepted routes only. -/
theorem connected_eq_accepted {rs : List RouteConfig} (h : ¬TakesPaths (registerAll rs g).1) :
    connected rs g = (g.accepted rs).map (·.config) := by
  induction rs generalizing g with
  | nil => rfl
  | cons r rs ih =>
    have hrest : ¬TakesPaths (registerAll rs (g.register r).2).1 := by
      rintro ⟨path, htaken | htaken⟩
      · exact h ⟨path, .inl (List.mem_cons_of_mem _ htaken)⟩
      · exact h ⟨path, .inr (List.mem_cons_of_mem _ htaken)⟩
    rw [accepted, connected, List.map_append, ih hrest]
    refine congrArg (· ++ _) ?_
    rcases g.connected_cases r with ⟨a, haccept, hconfig, hbuilt⟩ | ⟨hnone, htaken⟩
    · rw [haccept, hbuilt, Option.toList_some, List.map_singleton, hconfig]
      rfl
    · rw [hnone, if_neg]
      · rfl
      · -- a refused route with a transport would have found its path taken
        intro hbuilt
        rcases htaken hbuilt with heq | heq
        · exact h ⟨r.path, .inl (heq ▸ List.mem_cons_self)⟩
        · exact h ⟨r.path, .inr (heq ▸ List.mem_cons_self)⟩

end Gateway

/-! ## Following -/

namespace Discovery

/-- How many subscriptions to a service the cache with an algorithm has. -/
def followers (d : Discovery) (kind : SelectorKind) (service : String) : Nat :=
  (d.watcher.notifier.subscribersOf service).countP (·.callback = .cache kind)

/-- An attempt to subscribe is a fetch, whatever comes of it. -/
theorem fetchCount_onChange (d : Discovery) (name : String) (l : Listener) (service : String) :
    (d.onChange name l).2.2.registry.fetchCount service =
      d.registry.fetchCount service + if name = service then 1 else 0 := by
  rw [← Registry.fetchCount_counted]
  cases hanswer : d.registry.answer name with
  | error e => rw [onChange_error l hanswer]
  | ok is => rw [(onChange_ok l hanswer).2.2.2]

theorem isOk_onChange (d : Discovery) (name : String) (l : Listener) :
    (d.onChange name l).1.isOk = (d.registry.answer name).isOk := by
  cases hanswer : d.registry.answer name with
  | error e =>
    rw [onChange_error l hanswer]
    rfl
  | ok is =>
    rw [(onChange_ok l hanswer).1]
    rfl

/-- A cache that subscribes is a follower once more, if the service can be fetched. -/
theorem followers_onChange (d : Discovery) (name service : String) (k kind : SelectorKind) :
    (d.onChange name (.cache k)).2.2.followers kind service =
      d.followers kind service +
        if (d.registry.answer service).isOk ∧ (k, name) = (kind, service) then 1 else 0 := by
  unfold followers
  cases hanswer : d.registry.answer name with
  | error e =>
    rw [onChange_error _ hanswer, if_neg]
    · rfl
    · rintro ⟨hok, heq⟩
      obtain ⟨-, rfl⟩ := Prod.mk.inj heq
      rw [hanswer] at hok
      cases hok
  | ok is =>
    rw [(onChange_ok _ hanswer).2.2.1]
    dsimp only
    rw [Notifier.subscribersOf_subscribe]
    by_cases hname : name = service
    · subst hname
      rw [if_pos rfl, List.countP_append, hanswer]
      by_cases hkind : k = kind <;> simp [hkind, Except.isOk, Except.toBool]
    · simp [hname]

end Discovery

namespace Gateway

/-- One subscription was attempted for each note of a list: `n` of them came about, each attempt fetched its
service once, and where a service can be fetched each cache follows it as many times more as the note is in
the list. -/
structure Attempts (list : List (SelectorKind × String)) (d : Discovery) (n : Nat) (after : Discovery) :
    Prop where
  answer : after.registry.answer = d.registry.answer
  number : n = list.countP fun x => (d.registry.answer x.2).isOk
  fetches : ∀ service, after.registry.fetchCount service =
    d.registry.fetchCount service + list.countP (·.2 = service)
  followers : ∀ kind service, after.followers kind service =
    d.followers kind service +
      if (d.registry.answer service).isOk then list.count (kind, service) else 0

/-- Following attempts one subscription for each note. -/
theorem followEach_attempts (list : List (SelectorKind × String)) (d : Discovery) :
    Attempts list d (followEach list d).1 (followEach list d).2 := by
  induction list generalizing d with
  | nil => exact ⟨rfl, rfl, fun _ => rfl, fun _ _ => by simp [followEach]⟩
  | cons x list ih =>
    obtain ⟨k, name⟩ := x
    have hrest := ih (d.onChange name (.cache k)).2.2
    have hanswer := d.answer_onChange name (.cache k)
    refine ⟨hrest.answer.trans hanswer, ?_, fun service => ?_, fun kind service => ?_⟩
    · rw [followEach]
      dsimp only
      rw [hrest.number, hanswer, d.isOk_onChange, List.countP_cons, Nat.add_comm]
    · refine (hrest.fetches service).trans ?_
      rw [d.fetchCount_onChange, List.countP_cons]
      simp only [decide_eq_true_eq]
      omega
    · refine (hrest.followers kind service).trans ?_
      rw [hanswer, d.followers_onChange, List.count_cons]
      simp only [beq_iff_eq]
      by_cases hok : (d.registry.answer service).isOk
      · simp only [hok, true_and, if_true]
        omega
      · simp [hok]

/-- A cache for each of some pairs of a policy and a service subscribed to the service, as far as it could be
fetched: `n` of them did, there was one fetch for each pair, and no other cache follows a service more than
before. -/
structure FollowsOnce (f : SelectorFactory) (pairs : List (BalancePolicy × String)) (d : Discovery)
    (n : Nat) (after : Discovery) : Prop where
  number : n = pairs.countP fun p => (d.registry.answer p.2).isOk
  fetches : ∀ service, after.registry.fetchCount service =
    d.registry.fetchCount service + pairs.countP (·.2 = service)
  followers : ∀ policy service, after.followers (f.kindFor policy) service =
    d.followers (f.kindFor policy) service +
      if (policy, service) ∈ pairs ∧ (d.registry.answer service).isOk then 1 else 0

variable {g : Gateway}

/-- Pairs that differ have notes that differ, so that one attempt for each note is one for each pair. -/
theorem Attempts.followsOnce {list : List (SelectorKind × String)}
    {pairs : List (BalancePolicy × String)} {d after : Discovery} {n : Nat}
    (h : Attempts list d n after) (hperm : list.Perm (pairs.map g.note)) (hnodup : pairs.Nodup) :
    FollowsOnce g.factory pairs d n after := by
  refine ⟨?_, fun service => ?_, fun policy service => ?_⟩
  · rw [h.number, hperm.countP_eq, List.countP_map]
    rfl
  · rw [h.fetches, hperm.countP_eq, List.countP_map]
    rfl
  · rw [h.followers]
    have hcount : list.count (g.factory.kindFor policy, service) =
        if (policy, service) ∈ pairs then 1 else 0 := by
      rw [hperm.count_eq]
      show (pairs.map g.note).count (g.note (policy, service)) = _
      rw [List.count_map_of_injective _ _ g.note_injective, hnodup.count]
    rw [hcount]
    by_cases hmem : (policy, service) ∈ pairs
    · simp [hmem]
    · simp [hmem]

/-- **To follow is to attempt one subscription for each pair of a policy and a service** that routes asked
for, in a gateway that noted nothing before its routes. -/
theorem follow_followsOnce (h : g.followed = []) (rs : List RouteConfig) (d : Discovery) :
    FollowsOnce g.factory (RouteConfig.pairs (connected rs g)) d
      (followEach (registerAll rs g).2.followed d).1
      (followEach (registerAll rs g).2.followed d).2 :=
  (followEach_attempts _ d).followsOnce (followed_perm h rs) (List.nodup_dedup _)

end Gateway

end TrafficGateway
