import TrafficGateway.Proofs.Balance.Cycle
import TrafficGateway.Proofs.Partition.Preference

/-!
# Partitions do not disturb each other

An instance stands in many partitions of a table: in those of its zone, of its region and of everywhere,
and in each of these areas in the one of its version and in the default. Every partition has a selector of
its own. A request is served by one partition (`ServiceTable.servedBy`), and the selectors of all others
stay where they are. So among the picks for any requests, those that one partition serves are what its
selector picks on its own (`ServiceTable.partitions_independent`), and a whole cycle of them is one over
the nodes of the partition, whatever was served by others in between.

## Main definitions

* `Partition`: an area and a version.
* `Partition.selector?`: the selector of a partition.
* `ServiceTable.servedBy`: the partition that serves a request.
* `ServiceTable.IsNew`: a table whose selectors are as they were built.
* `ServiceTable.pickedBy`: the picks for some requests that a partition serves.
-/

namespace TrafficGateway

/-- The nodes of an area that carry a version, or, for the default version, all nodes of the area. -/
structure Partition where
  area : NearbyRouter.Area
  version : String
  deriving DecidableEq

variable {α : Type}

namespace Partition

/-- The selector of a partition, in the tables of areas. -/
def selector? (tables : NearbyRouter.Area → Option (VersionRouter α)) (p : Partition) :
    Option (Selector α) :=
  (tables p.area).bind (·.partition p.version)

/-- The selector of one partition has made a pick, and those of all others stand where they were. -/
def Advances (before after : NearbyRouter.Area → Option (VersionRouter α)) (p : Partition)
    (key : Option String) (pick : Except BackendError (Node α)) : Prop :=
  ∃ s, p.selector? before = some s ∧ pick = (s.select key).1 ∧
    ∀ q : Partition, q.selector? after = if q = p then some (s.select key).2 else q.selector? before

end Partition

/-! ## Routers -/

namespace VersionRouter

/-- Where the table of one area serves a request, one of its partitions makes the pick. -/
theorem Serves.advances {before after : NearbyRouter.Area → Option (VersionRouter α)}
    {area : NearbyRouter.Area} {t : VersionRouter α} {localVersion : String} {items : List (Tagged α)}
    (h : t.Serves localVersion items) (ht : before area = some t) (c : RouteContext)
    (hafter : ∀ a, after a = if a = area then some (t.choose c).2 else before a) :
    Partition.Advances before after ⟨area, serving (wantedVersion localVersion c) items⟩ c.hashKey
      (t.choose c).1 := by
  obtain ⟨s, hs, hchoose⟩ := h.choose_eq c
  refine ⟨s, ?_, ?_, fun ⟨a, v⟩ => ?_⟩
  · rw [Partition.selector?, ht, Option.bind_some, hs]
  · rw [hchoose]
  · rw [Partition.selector?, Partition.selector?, hafter, hchoose]
    by_cases ha : a = area
    · subst ha
      rw [if_pos rfl, Option.bind_some, partition_put, ht, Option.bind_some]
      simp only [Partition.mk.injEq, true_and]
    · rw [if_neg ha, if_neg fun hq => ha (Partition.mk.inj hq).1]

end VersionRouter

namespace NearbyRouter

/-- The partition that serves a request from somewhere. -/
def servedBy (localVersion : String) (items : List (Placed α)) (origin : Locality) (c : RouteContext) :
    Partition :=
  let area := servingArea origin items
  ⟨area, VersionRouter.serving (wantedVersion localVersion c) ((inArea items area).map (·.toTagged))⟩

/-- A request from somewhere moves the selector of one partition. -/
theorem Serves.advances {r : NearbyRouter α} {localVersion : String} {here : Locality}
    {items : List (Placed α)} (h : r.Serves localVersion here items) (origin : Locality)
    (c : RouteContext) :
    Partition.Advances r.table (r.chooseFrom origin c).2.table (servedBy localVersion items origin c)
      c.hashKey (r.chooseFrom origin c).1 := by
  obtain ⟨t, ht, hchoose⟩ := h.chooseFrom_eq origin c
  rw [hchoose]
  exact (h.table ht).advances ht c fun a => r.table_put _ a _

end NearbyRouter

/-! ## Service tables -/

/-- A call of a table: what a request asks for, and where it comes from, unless it is to be served as one
from where the process runs. Only a table that prefers what is near looks at that. -/
structure Call where
  context : RouteContext
  origin : Option Locality := none

namespace ServiceTable

/-- An instance for a call, and the table after the pick. A call that does not say where it comes from is
a plain choice. -/
def answer (t : ServiceTable) (call : Call) : Except BackendError Instance × ServiceTable :=
  match call.origin, t.router with
  | some origin, .nearby r =>
    let (pick, r) := r.chooseFrom origin call.context
    (pick.map (·.data), { t with router := .nearby r })
  | _, _ => t.choose call.context

/-- The instances for some calls, one after the other. -/
def answers (t : ServiceTable) : List Call → List (Except BackendError Instance)
  | [] => []
  | call :: calls => (t.answer call).1 :: answers (t.answer call).2 calls

/-- The table after some calls. -/
def afterCalls (t : ServiceTable) (calls : List Call) : ServiceTable :=
  calls.foldl (fun t call => (t.answer call).2) t

/-- The table of an area. If places do not count there is only one. -/
def table (t : ServiceTable) (area : NearbyRouter.Area) : Option (VersionRouter Instance) :=
  match t.router with
  | .versioned r => if area = .everywhere then some r else none
  | .nearby r => r.table area

/-- The nodes of a partition. -/
def members (instances : List Instance) (p : Partition) : List (Node Instance) :=
  VersionRouter.members p.version
    ((NearbyRouter.inArea (instances.map place) p.area).map (·.toTagged))

/-- The partition that serves a call. -/
def servedBy (options : TableOptions) (instances : List Instance) (call : Call) : Partition :=
  match options.locality with
  | none =>
    ⟨.everywhere, VersionRouter.serving (wantedVersion options.localVersion call.context)
      (instances.map fun i => (place i).toTagged)⟩
  | some here =>
    NearbyRouter.servedBy options.localVersion (instances.map place) (call.origin.getD here) call.context

/-- The keys of the calls that a partition serves. -/
def keysFor (options : TableOptions) (instances : List Instance) (p : Partition) (calls : List Call) :
    List (Option String) :=
  (calls.filter fun call => servedBy options instances call = p).map (·.context.hashKey)

/-- The picks for some calls, those that a partition serves. -/
def pickedBy (options : TableOptions) (instances : List Instance) (p : Partition) (t : ServiceTable)
    (calls : List Call) : List (Except BackendError Instance) :=
  ((calls.zip (t.answers calls)).filter fun e => servedBy options instances e.1 = p).map Prod.snd

/-- A table of instances to which no call has been made. Each of its selectors is as it was built over the
nodes of its partition. What round robin starts from is drawn for each of them. -/
structure IsNew (options : TableOptions) (instances : List Instance) (t : ServiceTable) : Prop where
  serves : Serves options instances t
  start : ∀ (p : Partition) (s : Selector Instance), p.selector? t.table = some s →
    ∃ f : SelectorFactory, f.build options.kind (members instances p) = .ok s

variable {t : ServiceTable} {options : TableOptions} {instances : List Instance}

/-- A table that has just been built is new. -/
theorem isNew_of_build {f : SelectorFactory} (h : build f options instances = .ok t) :
    IsNew options instances t := by
  have hserves : Serves options instances t := by
    rcases build_cases f options instances with ⟨t', ht', hserves, -⟩ | ⟨_, _, herr, -⟩
    · exact Except.ok.inj (ht'.symm.trans h) ▸ hserves
    · rw [h] at herr
      cases herr
  refine ⟨hserves, fun ⟨area, version⟩ s hs => ⟨f, ?_⟩⟩
  obtain ⟨r, hr, hpartition⟩ := Option.bind_eq_some_iff.1 hs
  cases hplace : options.locality with
  | none =>
    rw [build_of_none hplace] at h
    obtain ⟨router, hrouter, rfl⟩ := map_eq_ok_iff.1 h
    obtain ⟨rfl, rfl⟩ : area = .everywhere ∧ router = r := by simpa [table] using hr
    have hbuilt := VersionRouter.build_partition hrouter hpartition
    rwa [members, NearbyRouter.inArea, List.map_map]
  | some here =>
    rw [build_of_some hplace] at h
    obtain ⟨router, hrouter, rfl⟩ := map_eq_ok_iff.1 h
    exact VersionRouter.build_partition (NearbyRouter.build_table hrouter hr) hpartition

/-- **A call moves the selector of one partition.** What that one picks is what is answered, and the table
serves the same instances after it. -/
theorem Serves.answer (h : Serves options instances t) (call : Call) :
    Serves options instances (t.answer call).2 ∧
    ∃ pick, (t.answer call).1 = pick.map (·.data) ∧
      Partition.Advances t.table (t.answer call).2.table (servedBy options instances call)
        call.context.hashKey pick := by
  obtain ⟨c, origin⟩ := call
  cases h with
  | @versioned is r hplace h =>
    have hanswer : (⟨is, .versioned r⟩ : ServiceTable).answer ⟨c, origin⟩ =
        ((r.choose c).1.map (·.data), ⟨is, .versioned (r.choose c).2⟩) := by
      cases origin <;> rfl
    rw [hanswer]
    refine ⟨.versioned hplace (h.choose c).2, (r.choose c).1, rfl, ?_⟩
    rw [servedBy, hplace]
    refine h.advances rfl c fun a => ?_
    by_cases ha : a = .everywhere <;> simp [table, ha]
  | @nearby is r here hplace h =>
    have hanswer : (⟨is, .nearby r⟩ : ServiceTable).answer ⟨c, origin⟩ =
        ((r.chooseFrom (origin.getD here) c).1.map (·.data),
          ⟨is, .nearby (r.chooseFrom (origin.getD here) c).2⟩) := by
      cases origin with
      | none =>
        rw [Option.getD_none, ← h.here]
        rfl
      | some origin => rfl
    rw [hanswer]
    refine ⟨.nearby hplace (h.chooseFrom _ c).2, (r.chooseFrom (origin.getD here) c).1, rfl, ?_⟩
    rw [servedBy, hplace]
    exact h.advances (origin.getD here) c

/-- **The picks of one partition are those of its selector**, whatever the others serve in between. -/
theorem Serves.run (h : Serves options instances t) {p : Partition} {s : Selector Instance}
    (hs : p.selector? t.table = some s) (calls : List Call) :
    Serves options instances (t.afterCalls calls) ∧
    p.selector? (t.afterCalls calls).table = some (s.after (keysFor options instances p calls)) ∧
    pickedBy options instances p t calls =
      (s.picks (keysFor options instances p calls)).map (·.map (·.data)) := by
  induction calls generalizing t s with
  | nil => exact ⟨h, hs, rfl⟩
  | cons call calls ih =>
    obtain ⟨hserves, pick, hanswer, s', hs', hpick, hothers⟩ := h.answer call
    by_cases hp : servedBy options instances call = p
    · -- The call is served by the partition, whose selector moves on.
      obtain rfl : s' = s := Option.some.inj (hs'.symm.trans (hp ▸ hs))
      have hnext : p.selector? (t.answer call).2.table = some (s'.select call.context.hashKey).2 := by
        rw [hothers, if_pos hp.symm]
      have hkeys : keysFor options instances p (call :: calls) =
          call.context.hashKey :: keysFor options instances p calls := by
        simp [keysFor, hp]
      have hpicked : pickedBy options instances p t (call :: calls) =
          (t.answer call).1 :: pickedBy options instances p (t.answer call).2 calls := by
        simp [pickedBy, answers, hp]
      obtain ⟨hserves, hlater, hpicks⟩ := ih hserves hnext
      rw [hkeys, hpicked, hpicks, hanswer, hpick]
      exact ⟨hserves, hlater, rfl⟩
    · have hstill : p.selector? (t.answer call).2.table = some s := by
        rw [hothers, if_neg (Ne.symm hp), hs]
      have hkeys : keysFor options instances p (call :: calls) = keysFor options instances p calls := by
        simp [keysFor, hp]
      have hpicked : pickedBy options instances p t (call :: calls) =
          pickedBy options instances p (t.answer call).2 calls := by
        simp [pickedBy, answers, hp]
      rw [hkeys, hpicked]
      exact ih hserves hstill

/-- **Partitions do not disturb each other.** Let calls for any versions, from anywhere, be made to a table
whose selectors keep a place. Each call is served by one partition. Among the picks for all calls, those
that one partition serves are what its selector, in the state in which it was built, picks when it gets
these calls alone. Whatever went before, those of a whole cycle of calls that it serves are its nodes, each
once for round robin, as long as the counter does not wrap, and as often as its weight says for weighted
round robin. -/
theorem partitions_independent (options : TableOptions) (instances : List Instance)
    (hkind : options.kind = .roundRobin ∨ options.kind = .weightedRoundRobin) :
    (∀ f t, build f options instances = .ok t → IsNew options instances t) ∧
    ∀ t, IsNew options instances t →
      (∀ call, ∃ s, (servedBy options instances call).selector? t.table = some s) ∧
      ∀ (p : Partition) s, p.selector? t.table = some s → ∀ earlier calls,
        let keys := keysFor options instances p
        let picked := pickedBy options instances p (t.afterCalls earlier) calls
        let cycle := options.kind.cycle (members instances p)
        picked = ((s.after (keys earlier)).picks (keys calls)).map (·.map (·.data)) ∧
        ((keys calls).length = cycle.length →
          s.Unwrapped ((keys earlier).length + (keys calls).length) →
          picked.Perm (cycle.map fun n => .ok n.data)) := by
  refine ⟨fun f t => isNew_of_build, fun t hnew => ⟨fun call => ?_, fun p s hs earlier calls => ?_⟩⟩
  · obtain ⟨-, _, -, s, hs, -⟩ := hnew.serves.answer call
    exact ⟨s, hs⟩
  · intro keys picked cycle
    obtain ⟨hserves, hlater, -⟩ := hnew.serves.run hs earlier
    obtain ⟨-, -, hpicked⟩ := hserves.run hlater calls
    refine ⟨hpicked, fun hlength hwrap => ?_⟩
    obtain ⟨f, hbuilt⟩ := hnew.start p s hs
    have hperm := (f.perm_cycle hbuilt hkind (keys earlier) (keys calls) hlength hwrap).map
      (Except.map (fun n : Node Instance => n.data))
    rw [List.map_map] at hperm
    show (pickedBy options instances p (t.afterCalls earlier) calls).Perm _
    rw [hpicked]
    exact hperm

/-- In the zone of the process, the two instances of a version are picked three times and once in every
four calls that their partition serves, whatever calls there are for others. -/
theorem partitions_independent_zone :
    let a : Instance := ⟨"10.0.0.1", 80, 3, "v2", "eu", "eu-1"⟩
    let b : Instance := ⟨"10.0.0.2", 80, 1, "v2", "eu", "eu-1"⟩
    let c : Instance := ⟨"10.0.0.3", 80, 2, "", "eu", "eu-1"⟩
    let d : Instance := ⟨"10.0.0.4", 80, 5, "v2", "us", "us-1"⟩
    let options : TableOptions := ⟨.weightedRoundRobin, "", some ⟨"eu", "eu-1"⟩⟩
    let p : Partition := ⟨.zone ⟨"eu", "eu-1"⟩, "v2"⟩
    ∃ t, build {} options [a, b, c, d] = .ok t ∧ ∀ earlier calls,
      (keysFor options [a, b, c, d] p calls).length = 4 →
        (pickedBy options [a, b, c, d] p (t.afterCalls earlier) calls).Perm
          [.ok a, .ok a, .ok a, .ok b] := by
  intro a b c d options p
  have hkind : options.kind = .roundRobin ∨ options.kind = .weightedRoundRobin := .inr rfl
  obtain ⟨hbuild, hpicks⟩ := partitions_independent options [a, b, c, d] hkind
  rcases build_cases {} options [a, b, c, d] with ⟨t, ht, -⟩ | ⟨i, hi, -, hzero, -⟩
  · have hnew := hbuild {} t ht
    obtain ⟨hserving, hcycles⟩ := hpicks t hnew
    obtain ⟨s, hs⟩ := hserving ⟨{ version := some "v2" }, none⟩
    have hserved : servedBy options [a, b, c, d] ⟨{ version := some "v2" }, none⟩ = p := by
      decide +kernel
    rw [hserved] at hs
    have hcycle : options.kind.cycle (members [a, b, c, d] p) =
        [toNode a, toNode a, toNode a, toNode b] := by decide +kernel
    refine ⟨t, ht, fun earlier calls hlength => ?_⟩
    obtain ⟨-, hperm⟩ := hcycles p s hs earlier calls
    rw [hcycle] at hperm
    refine hperm hlength ?_
    -- A weighted selector has no counter that could wrap.
    obtain ⟨f, hbuilt⟩ := hnew.start p s hs
    rcases SelectorFactory.build_of_kind hbuilt hkind with ⟨-, rfl⟩ | ⟨_, -, rfl, -⟩ |
      ⟨hkind, -⟩ | ⟨-, _, -, -, rfl⟩
    · trivial
    · trivial
    · cases hkind
    · trivial
  · have hpos : ∀ i ∈ [a, b, c, d], i.weight.toNat ≠ 0 := by decide
    exact absurd hzero (hpos i hi)

end ServiceTable

end TrafficGateway
