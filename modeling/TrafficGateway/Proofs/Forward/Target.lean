import TrafficGateway.Forward.Path
import TrafficGateway.Proofs.Gateway.Lookup
import TrafficGateway.Proofs.Http.Uri

/-!
# The address that a request is sent to

A forwarded request goes to an address that is put together from texts: the path that the rule of the
route makes, and the query of the request. The address is the one that the texts say
(`Endpoint.SendsAsRuled`) as long as the path that the rule makes is a path. The rules that keep the
path or shorten it make a path of every path; the rule that replaces it makes one only if the
replacement is one, which the check of a description does not ask for.

## Main definitions

* `Endpoint.SendsAsRuled`: the address is what the rule says.
* `PathRule.IsSound`: the rule makes paths of paths.

## Main statements

* `Endpoint.sendsAsRuled_iff`: the sound rules are those by which the address is right.
* `Gateway.domain_sendsAsRuled_iff`: what this means for the routes of a gateway.
-/

namespace TrafficGateway

open PathAndQuery

/-! ## Paths that rules make -/

theorem dropPrefix?_eq_some_iff {α : Type} [DecidableEq α] {start as rest : List α} :
    dropPrefix? start as = some rest ↔ as = start ++ rest := by
  induction start generalizing as with
  | nil => simp [dropPrefix?]
  | cons s start ih =>
    cases as with
    | nil => simp [dropPrefix?]
    | cons a as =>
      rw [dropPrefix?]
      split
      · next heq =>
        rw [ih, heq]
        simp
      · next hne => simp [Ne.symm hne]

theorem rootedPath_eq (path : List Char) :
    rootedPath path = if path.head? = some '/' then path else '/' :: path := by
  unfold rootedPath
  split
  · next rest => rw [List.head?_cons, if_pos rfl]
  · next hnot =>
    rw [if_neg]
    intro hhead
    obtain ⟨rest, hpath⟩ := List.head?_eq_some_iff.1 hhead
    exact hnot rest hpath

theorem mem_rootedPath {path : List Char} {c : Char} :
    c ∈ path → c ∈ rootedPath path := by
  rw [rootedPath_eq]
  split
  · exact id
  · exact List.mem_cons_of_mem _

theorem eq_or_mem_of_mem_rootedPath {path : List Char} {c : Char} (h : c ∈ rootedPath path) :
    c = '/' ∨ c ∈ path := by
  rw [rootedPath_eq] at h
  split at h
  · exact .inr h
  · exact List.mem_cons.1 h

namespace PathRule

variable {rule : PathRule} {path : String}

/-- A rule that makes a path of every path: a replacement is one itself. -/
def IsSound : PathRule → Prop
  | .copyFullPath => True
  | .stripPrefix _ => True
  | .replaceAny fixed => IsPath fixed

theorem exists_apply_eq (rule : PathRule) (path : String) :
    ∃ rest, (rule.apply path).toList = '/' :: rest := by
  rw [apply, String.toList_ofList, rootedPath_eq]
  split
  · next hhead =>
    obtain ⟨rest, hrest⟩ := List.head?_eq_some_iff.1 hhead
    exact ⟨rest, hrest⟩
  · exact ⟨_, rfl⟩

/-- The sound rules make paths of paths, the others of none. -/
theorem isPath_apply_iff (hpath : IsPath path) : IsPath (rule.apply path) ↔ rule.IsSound := by
  rw [IsPath, apply, String.toList_ofList]
  have hrooted : (∀ c ∈ rootedPath (rule.bare path.toList), isPathChar c = true) ↔
      ∀ c ∈ rule.bare path.toList, isPathChar c = true := by
    constructor
    · exact fun h c hc => h c (mem_rootedPath hc)
    · intro h c hc
      obtain rfl | hc := eq_or_mem_of_mem_rootedPath hc
      · decide
      · exact h c hc
  rw [hrooted]
  cases rule with
  | copyFullPath => exact iff_true_intro hpath
  | stripPrefix start =>
    refine iff_true_intro fun c hc => ?_
    rw [bare] at hc
    cases hrest : dropPrefix? start.toList path.toList with
    | none =>
      rw [hrest] at hc
      exact hpath c hc
    | some rest =>
      rw [hrest] at hc
      refine hpath c ?_
      rw [dropPrefix?_eq_some_iff.1 hrest]
      exact List.mem_append_right _ hc
  | replaceAny fixed => exact Iff.rfl

/-- A prefix is taken away, and a slash put in front of the rest if it has none. -/
theorem apply_stripPrefix (start rest : String) :
    (stripPrefix start).apply (start ++ rest) =
      if rest.toList.head? = some '/' then rest else "/" ++ rest := by
  have hrest : dropPrefix? start.toList (start ++ rest).toList = some rest.toList :=
    dropPrefix?_eq_some_iff.2 String.toList_append
  rw [apply, bare, hrest, Option.getD_some, rootedPath_eq, ← String.toList_inj,
    String.toList_ofList]
  split
  · rfl
  · rw [String.toList_append]
    rfl

end PathRule

/-! ## Addresses -/

namespace Endpoint

/-- A request is sent to the address that the rule says: at the endpoint, with the path that the rule
makes, and with the query of the request unless that is empty. -/
def SendsAsRuled (e : Endpoint) (rule : PathRule) (path : String) (query : Option String) : Prop :=
  ∃ uri, e.uri (rule.target path query) = .ok uri ∧
    uri.scheme = some e.scheme ∧ uri.authority = some e.authority ∧
    uri.path = rule.apply path ∧ uri.query = query.filter (· ≠ "")

variable {e : Endpoint} {rule : PathRule} {path target : String} {query : Option String}

/-- The path of an address is a path. -/
theorem isPath_of_uri {uri : Uri} (h : e.uri target = .ok uri) : IsPath uri.path := by
  rw [Endpoint.uri] at h
  split at h
  · next p hp =>
    obtain rfl := Except.ok.inj h
    have hread : PathAndQuery.read target.toList = some p := by
      unfold readAbsolute at hp
      split at hp
      · exact hp
      · split at hp
        · exact hp
        · cases hp
    have hscheme : Uri.path ⟨some e.scheme, some e.authority, p⟩ = p.rooted := rfl
    rw [hscheme, rooted]
    split
    · decide
    · exact isPath_of_read hread
  · cases h

/-- The address of a path that starts at the root is read from the path and the query. -/
theorem uri_of_read {p : PathAndQuery} {rest : List Char} (hroot : target.toList = '/' :: rest)
    (hread : PathAndQuery.read target.toList = some p) :
    e.uri target = .ok ⟨some e.scheme, some e.authority, p⟩ := by
  have habsolute : readAbsolute target.toList = some p := by
    rw [hroot] at hread ⊢
    rw [readAbsolute, if_pos (.inl rfl), hread]
  rw [Endpoint.uri, habsolute]

/-- An address with a path that is not empty has that path. -/
theorem path_mk (e : Endpoint) {s : String} (hs : s.toList ≠ []) (query : Option String) :
    Uri.path ⟨some e.scheme, some e.authority, ⟨s, query⟩⟩ = s := by
  have hempty : s.isEmpty = false := by
    rw [Bool.eq_false_iff]
    intro h
    exact hs (String.toList_eq_nil_iff.2 (String.isEmpty_iff.1 h))
  have hscheme : Uri.path ⟨some e.scheme, some e.authority, ⟨s, query⟩⟩ = rooted ⟨s, query⟩ := rfl
  rw [hscheme, rooted, hempty]
  rfl

/-- A path that a sound rule made is sent with the query as it is. -/
theorem sendsAsRuled_of_isPath (hmade : IsPath (rule.apply path))
    (hquery : ∀ q ∈ query, IsQuery q) : e.SendsAsRuled rule path query := by
  obtain ⟨rest, hroot⟩ := rule.exists_apply_eq path
  have hne : (rule.apply path).toList ≠ [] := by simp [hroot]
  -- Without a query, and with an empty one, the target is the path alone.
  have hbare : e.uri (rule.apply path) =
      .ok ⟨some e.scheme, some e.authority, ⟨rule.apply path, none⟩⟩ := by
    refine uri_of_read hroot ?_
    rw [read_path hmade, String.ofList_toList]
  cases query with
  | none => exact ⟨_, hbare, rfl, rfl, path_mk e hne _, rfl⟩
  | some q =>
    rw [SendsAsRuled, PathRule.target]
    split
    · next hempty =>
      refine ⟨_, hbare, rfl, rfl, path_mk e hne _, ?_⟩
      rw [String.isEmpty_iff.1 hempty]
      rfl
    · next hfull =>
      have hread : PathAndQuery.read (rule.apply path ++ "?" ++ q).toList =
          some ⟨rule.apply path, some q⟩ := by
        have hlist : (rule.apply path ++ "?" ++ q).toList =
            (rule.apply path).toList ++ '?' :: q.toList := by
          simp [String.toList_append]
        rw [hlist, read_path_query hmade (hquery q rfl), String.ofList_toList, String.ofList_toList]
      have hfront : (rule.apply path ++ "?" ++ q).toList = '/' :: (rest ++ '?' :: q.toList) := by
        simp [String.toList_append, hroot]
      refine ⟨_, uri_of_read hfront hread, rfl, rfl, path_mk e hne _, ?_⟩
      have hq : q ≠ "" := fun h => hfull (String.isEmpty_iff.2 h)
      rw [Option.filter_some, if_pos (decide_eq_true hq)]
      rfl

/-- The rules by which the address is right are the sound ones. -/
theorem sendsAsRuled_iff (hpath : IsPath path) (hquery : ∀ q ∈ query, IsQuery q) :
    e.SendsAsRuled rule path query ↔ rule.IsSound := by
  rw [← PathRule.isPath_apply_iff hpath]
  constructor
  · rintro ⟨uri, huri, -, -, hmade, -⟩
    exact hmade ▸ isPath_of_uri huri
  · exact fun hmade => sendsAsRuled_of_isPath hmade hquery

end Endpoint

/-! ## Routes -/

namespace RouteConfig

variable {r : RouteConfig}

/-- The rule of a checked description: it replaces a path by what the description says, and takes the
path of the route away only if the route goes by a path. -/
theorem validatePathRule_ok {m : RouteMatcher} {rule : PathRule}
    (h : r.validatePathRule m = .ok rule) :
    (rule.IsSound ↔ (r.pathRule = "replaceAny" → IsPath r.replacePath)) ∧
      ∀ start, rule = .stripPrefix start → start = r.path ∧ m.matchType ≠ .expression := by
  unfold validatePathRule at h
  obtain ⟨kind, hkind, h⟩ := bind_eq_ok_iff.1 h
  unfold PathRuleKind.ofName at hkind
  split at hkind
  · next hname =>
    obtain rfl := Except.ok.inj hkind
    obtain rfl := Except.ok.inj h
    exact ⟨iff_of_true trivial (by simp [hname]), by simp⟩
  · next hname =>
    obtain rfl := Except.ok.inj hkind
    obtain rfl := Except.ok.inj h
    exact ⟨iff_of_true trivial (by simp [hname]), by simp⟩
  · next hname =>
    obtain rfl := Except.ok.inj hkind
    dsimp only at h
    split at h
    · cases h
    · next hkind =>
      obtain rfl := Except.ok.inj h
      refine ⟨iff_of_true trivial (by simp [hname]), fun start hstart => ?_⟩
      exact ⟨(PathRule.stripPrefix.inj hstart).symm, hkind⟩
  · next hname =>
    obtain rfl := Except.ok.inj hkind
    dsimp only at h
    split at h
    · cases h
    · obtain rfl := Except.ok.inj h
      exact ⟨by simp [PathRule.IsSound, hname], by simp⟩
  · cases hkind

theorem validateTarget_domain {target : RouteTarget} (h : r.validateTarget = .ok target)
    (hdomain : r.targetType = "domain") :
    ∃ policy hashHeader, target = .domain r.targets policy hashHeader := by
  have hkind : TargetType.ofName r.targetType = .ok .domain := by
    rw [hdomain]
    rfl
  rw [validateTarget, hkind, ok_bind] at h
  obtain ⟨policy, -, h⟩ := bind_eq_ok_iff.1 h
  dsimp only at h
  split at h
  · cases h
  · obtain ⟨-, -, h⟩ := bind_eq_ok_iff.1 h
    obtain rfl := Except.ok.inj h
    exact ⟨policy, _, rfl⟩

end RouteConfig

namespace Gateway

variable {g : Gateway} {r : RouteConfig} {t : Transport}

theorem connect_domain {targets : List TargetConfig} {policy : BalancePolicy}
    {hashHeader : Option String} {made : TransportTarget × Gateway}
    (h : g.connect (.domain targets policy hashHeader) = .ok made) :
    made.1 = .forward (.fixed g.selectors.length) hashHeader := by
  obtain ⟨nodes, selector, -, -, rfl⟩ := connect_domain_ok h
  rfl

/-- The transport of a route has the rule of its checked description and the target that was
connected. -/
theorem transportFor_ok (h : g.transportFor r = .ok t) :
    ∃ spec made, r.validate = .ok spec ∧ g.connect spec.target = .ok made ∧
      t = ⟨r.name, spec.pathRule, made.1⟩ := by
  obtain ⟨spec, hspec, h⟩ := bind_eq_ok_iff.1 h
  obtain ⟨made, hmade, h⟩ := bind_eq_ok_iff.1 h
  obtain rfl := Except.ok.inj h
  cases hvalid : r.validate with
  | error e =>
    rw [hvalid] at hspec
    cases hspec
  | ok checked =>
    rw [hvalid, ok_mapError] at hspec
    obtain rfl := Except.ok.inj hspec
    exact ⟨_, made, rfl, hmade, rfl⟩

/-- An accepted route got the transport that the gateway had for it when it was registered. -/
theorem transportFor_of_mem_accepted {rs : List RouteConfig} {a : AcceptedRoute}
    (h : a ∈ g.accepted rs) : ∃ before : Gateway, before.transportFor a.config = .ok a.transport := by
  obtain ⟨before, -, -, haccept, -⟩ :=
    exists_before_of_mem_accepted (P := fun _ => True) (fun _ _ _ => trivial) trivial h
  exact ⟨before, (accept?_eq_some haccept).2⟩

/-- The rule of an accepted route. -/
theorem pathRule_of_mem_accepted {rs : List RouteConfig} {a : AcceptedRoute}
    (h : a ∈ g.accepted rs) :
    (a.transport.pathRule.IsSound ↔
        (a.config.pathRule = "replaceAny" → IsPath a.config.replacePath)) ∧
      ∀ start, a.transport.pathRule = .stripPrefix start →
        start = a.config.path ∧ a.config.matchType ≠ "exprMatch" := by
  obtain ⟨before, htransport⟩ := transportFor_of_mem_accepted h
  obtain ⟨spec, made, hspec, -, ht⟩ := transportFor_ok htransport
  obtain ⟨hmatch, -, hrule, -, -⟩ := RouteConfig.validate_eq_ok_iff.1 hspec
  obtain ⟨hsound, hstrip⟩ := RouteConfig.validatePathRule_ok hrule
  rw [ht]
  refine ⟨hsound, fun start hstart => ?_⟩
  obtain ⟨hpath, hkind⟩ := hstrip start hstart
  refine ⟨hpath, fun hexpr => ?_⟩
  -- Only routes that go by a path are given a rule that strips it.
  have hdescribes := RouteConfig.validateMatch_ok hmatch
  cases hm : spec.matcher with
  | expression e => exact hkind (by rw [hm]; rfl)
  | full =>
    rw [hm, RouteConfig.Describes, hexpr] at hdescribes
    exact absurd hdescribes (by decide)
  | leading =>
    rw [hm, RouteConfig.Describes, hexpr] at hdescribes
    exact absurd hdescribes (by decide)

/-- A request that a route with a path has claimed begins with that path. -/
theorem leads_of_claimed {policy : MatchPolicy} {custom : List CustomFetcher}
    {routes : List AcceptedRoute} {v : RequestView}
    (h : Claimed policy custom routes v (some t)) :
    ∃ a ∈ routes, a.transport = t ∧
      (a.config.matchType ≠ "exprMatch" → a.config.path.toList <+: v.path.toList) := by
  cases h with
  | @full a mem isFull => exact ⟨a, mem, rfl, fun _ => isFull.2 ▸ List.prefix_rfl⟩
  | @leading a noFull mem leads best => exact ⟨a, mem, rfl, fun _ => leads.2⟩
  | @expression a noFull noLeading strongest =>
    obtain ⟨before, after, hroutes, htrue, -⟩ := strongest
    exact ⟨a, hroutes ▸ (by simp), rfl, fun hne => absurd htrue.1 hne⟩

/-- **A request is sent to the address that the rule of its route says, exactly if a replacement is a
path.** This holds of every accepted route with fixed backends, whatever backend was chosen, and of
every request with a path and a query that are valid. The rule that takes the path of the route away
takes it from the front of every request that the gateway finds the route for, and puts a slash in
front of what is left if that has none. -/
theorem domain_sendsAsRuled_iff (g : Gateway) (policy : MatchPolicy) (rs : List RouteConfig) :
    let start := g.withoutRoutes policy
    let built := (registerAll rs start).2
    ∀ a ∈ start.accepted rs, a.config.targetType = "domain" →
      (∃ place hashHeader, a.transport.target = .forward (.fixed place) hashHeader) ∧
      (∀ (endpoint : Endpoint) path query, IsPath path → (∀ q ∈ query, IsQuery q) →
        (endpoint.SendsAsRuled a.transport.pathRule path query ↔
          (a.config.pathRule = "replaceAny" → IsPath a.config.replacePath))) ∧
      ∀ earlier v front, ((built.afterFinds earlier).find v).1 = some a.transport →
        a.transport.pathRule = .stripPrefix front →
        front = a.config.path ∧ ∃ rest, v.path = front ++ rest ∧
          a.transport.pathRule.apply v.path =
            if rest.toList.head? = some '/' then rest else "/" ++ rest := by
  intro start built a ha hdomain
  obtain ⟨hsound, hstrip⟩ := pathRule_of_mem_accepted ha
  refine ⟨?_, fun endpoint path query hpath hquery => ?_, fun earlier v front hfound hrule => ?_⟩
  · obtain ⟨before, htransport⟩ := transportFor_of_mem_accepted ha
    obtain ⟨spec, made, hspec, hmade, ht⟩ := transportFor_ok htransport
    obtain ⟨-, htarget, -⟩ := RouteConfig.validate_eq_ok_iff.1 hspec
    obtain ⟨policy, hashHeader, hfixed⟩ := RouteConfig.validateTarget_domain htarget hdomain
    rw [hfixed] at hmade
    exact ⟨before.selectors.length, hashHeader, by rw [ht, connect_domain hmade]⟩
  · rw [Endpoint.sendsAsRuled_iff hpath hquery, hsound]
  · refine ⟨(hstrip front hrule).1, ?_⟩
    have hreflects : Reflects policy g.matchers.custom built.table (start.accepted rs) :=
      reflects_registerAll rs start (.initial policy _)
    have hclaimed : Claimed policy g.matchers.custom (start.accepted rs) v (some a.transport) := by
      rw [← hfound, find, afterFinds_table]
      exact hreflects.claimed v _
    -- Another route may have claimed it, if only its transport is the same.
    obtain ⟨b, hb, htransport, hleads⟩ := leads_of_claimed hclaimed
    obtain ⟨hfront, hkind⟩ := (pathRule_of_mem_accepted hb).2 front (htransport ▸ hrule)
    obtain ⟨rest, hrest⟩ := hleads hkind
    have hpath : v.path = front ++ String.ofList rest := by
      rw [← String.toList_inj, String.toList_append, String.toList_ofList, hfront, hrest]
    refine ⟨String.ofList rest, hpath, ?_⟩
    rw [hrule, hpath, PathRule.apply_stripPrefix]

/-- A gateway without routes. -/
def emptyGateway : Gateway :=
  { table := { policy := .longest } }

/-- A route for what begins with `/api`, which is taken away, to one fixed backend. -/
def apiRoute : RouteConfig :=
  { matchType := "prefixMatch", path := "/api", targetType := "domain",
    targets := [{ target := "127.0.0.1:80" }], pathRule := "stripPrefix" }

theorem api_sendsAsRuled :
    let start := emptyGateway.withoutRoutes .longest
    let transport : Transport := ⟨"/api", .stripPrefix "/api", .forward (.fixed 0) none⟩
    ⟨apiRoute, transport⟩ ∈ start.accepted [apiRoute] ∧ apiRoute.targetType = "domain" ∧
      IsPath "/api/users" ∧ (∀ q ∈ some "id=1", IsQuery q) ∧
      (⟨"http", "127.0.0.1:80"⟩ : Endpoint).SendsAsRuled transport.pathRule "/api/users"
        (some "id=1") := by
  intro start transport
  have haccepted : ⟨apiRoute, transport⟩ ∈ start.accepted [apiRoute] := by
    have hroutes : start.accepted [apiRoute] = [⟨apiRoute, transport⟩] := rfl
    rw [hroutes]
    exact List.mem_singleton_self _
  have hpath : IsPath "/api/users" := by decide
  have hquery : ∀ q ∈ some "id=1", IsQuery q := by decide
  obtain ⟨-, hsends, -⟩ := domain_sendsAsRuled_iff emptyGateway .longest [apiRoute] _ haccepted rfl
  exact ⟨haccepted, rfl, hpath, hquery, (hsends _ _ _ hpath hquery).2 (by decide)⟩

/-- A route whose requests are all to be sent to one path, in which a space stands. -/
def spacedRoute : RouteConfig :=
  { matchType := "fullMatch", path := "/sp", targetType := "domain",
    targets := [{ target := "127.0.0.1:80" }], pathRule := "replaceAny", replacePath := "/a b" }

/-- The route is accepted, and none of its requests can be sent. -/
theorem spaced_replacement_is_unsendable :
    (emptyGateway.register spacedRoute).1 = .ok () ∧
      (emptyGateway.transportFor spacedRoute).map (·.pathRule) = .ok (.replaceAny "/a b") ∧
      (⟨"http", "127.0.0.1:80"⟩ : Endpoint).uri ((PathRule.replaceAny "/a b").target "/sp" none) =
        .error .unsendable :=
  ⟨rfl, rfl, rfl⟩

end Gateway

end TrafficGateway
