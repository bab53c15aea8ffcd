import TrafficGateway.Proofs.Discovery.Cache
import TrafficGateway.Proofs.Instance
import TrafficGateway.Proofs.Partition.Preference

/-!
# Which instance a key sticks to

A hash selector keeps no state, so a table of hash selectors is the same after every pick, and a request
is always served by the instance at the place of its key among those that it may be served by
(`ServiceTable.build_hashed`). These are the same for any order of the list, and so is the place, but not
what stands there. Two tables of the same instances therefore agree about a request exactly if their lists
have the same instance at that place (`ServiceTable.hashed_picks_agree_iff`). Lists that were sorted always
do. A table that was loaded from a registry and one that a watcher pushed need not: the watcher sorts what
it is told, and a load does not.

## Main definitions

* `Selector.Hashes`: a selector that goes by the hash of the key alone.
* `ServiceTable.eligible`: the instances that a request may be served by, in the order of the list.
* `TableCache.serving?`: the table that a service is served from.

## Main statements

* `VersionRouter.build_hashes`, `NearbyRouter.build_hashes`, `ServiceTable.build_hashed`: picks of hash
  selectors, layer by layer.
* `ServiceTable.eligible_perm`: the order of a list does not change who is eligible.
* `ServiceTable.hashed_picks_agree_iff`: when two tables of the same instances agree.
-/

namespace TrafficGateway

variable {α : Type}

/-! ## Selectors -/

namespace Selector

/-- The selector sends every key to its place among the nodes, and stays as it is. -/
def Hashes (function : HashFunction) (nodes : List (Node α)) (s : Selector α) : Prop :=
  ∀ key, s.select key = ((⟨nodes, function⟩ : HashSelector α).select key, s)

end Selector

/-- What is built for a hash function goes by the hash. One node and none are no exception. -/
theorem SelectorFactory.build_hashes (f : SelectorFactory) (function : HashFunction)
    (nodes : List (Node α)) :
    ∃ s, f.build (.hash function) nodes = .ok s ∧ s.Hashes function nodes := by
  unfold build
  rw [if_neg (by simp)]
  match nodes with
  | [] => exact ⟨_, rfl, fun key => rfl⟩
  | [node] =>
    refine ⟨_, rfl, fun key => ?_⟩
    simp only [Selector.select, HashSelector.select, HashSelector.place, List.length_singleton,
      Nat.mod_one, List.getElem?_cons_zero]
  | _ :: _ :: _ => exact ⟨_, rfl, fun key => rfl⟩

/-! ## Partitions by version -/

namespace VersionRouter

/-- The router sends every key to its place among the candidates, and stays as it is. -/
def Hashes (function : HashFunction) (localVersion : String) (items : List (Tagged α))
    (r : VersionRouter α) : Prop :=
  ∀ c, r.choose c =
    ((⟨candidates (wantedVersion localVersion c) items, function⟩ : HashSelector α).select c.hashKey, r)

theorem build_hashes (f : SelectorFactory) (function : HashFunction) (localVersion : String)
    (items : List (Tagged α)) :
    ∃ r, build f (.hash function) localVersion items = .ok r ∧
      r.Hashes function localVersion items := by
  rcases build_cases f (.hash function) localVersion items with ⟨r, hr, hserves, -⟩ | ⟨_, _, -, -, hkind⟩
  · refine ⟨r, hr, fun c => ?_⟩
    obtain ⟨s, hs, hchoose⟩ := hserves.choose_eq c
    obtain ⟨s', hs', hhashes⟩ :=
      f.build_hashes function (members (serving (wantedVersion localVersion c) items) items)
    obtain rfl := Except.ok.inj (hs'.symm.trans (build_partition hr hs))
    rw [hchoose, hhashes, candidates_eq]
    dsimp only
    rw [put_eq_self hs]
  · cases hkind

end VersionRouter

/-! ## Localities -/

namespace NearbyRouter

/-- The router sends every key to its place among the candidates in the vicinity, and stays as it
is. -/
def Hashes (function : HashFunction) (localVersion : String) (here : Locality)
    (items : List (Placed α)) (r : NearbyRouter α) : Prop :=
  ∀ c, r.choose c =
    ((⟨VersionRouter.candidates (wantedVersion localVersion c)
        ((vicinity here items).map (·.toTagged)), function⟩ : HashSelector α).select c.hashKey, r)

theorem build_hashes (f : SelectorFactory) (function : HashFunction) (localVersion : String)
    (here : Locality) (items : List (Placed α)) :
    ∃ r, build f (.hash function) localVersion here items = .ok r ∧
      r.Hashes function localVersion here items := by
  rcases build_cases f (.hash function) localVersion here items with
    ⟨r, hr, hserves, -⟩ | ⟨_, _, -, -, hkind⟩
  · refine ⟨r, hr, fun c => ?_⟩
    obtain ⟨t, ht, hchoose⟩ := hserves.chooseFrom_eq here c
    obtain ⟨t', ht', hhashes⟩ := VersionRouter.build_hashes f function localVersion
      ((inArea items (servingArea here items)).map (·.toTagged))
    obtain rfl := Except.ok.inj (ht'.symm.trans (build_table hr ht))
    rw [choose, hserves.here, hchoose, hhashes, vicinity_eq]
    dsimp only
    rw [put_eq_self ht]
  · cases hkind

end NearbyRouter

/-! ## Service tables -/

/-- The place of a request's key in a list of some length. -/
def HashFunction.place (function : HashFunction) (c : RouteContext) (count : Nat) : Nat :=
  (function.digestText (c.hashKey.getD noKeySentinel)).toNat % count

namespace ServiceTable

/-- The instances that a request may be served by, in the order of the list: of the nearest ones those of
the wanted version, if that is not the default and there are any, and otherwise all of them. -/
def eligible (options : TableOptions) (instances : List Instance) (c : RouteContext) :
    List Instance :=
  let near := nearest options.locality instances
  let wanted := wantedVersion options.localVersion c
  let same := near.filter fun i => i.normalizedVersion = wanted
  if wanted ≠ defaultVersion ∧ same ≠ [] then same else near

/-- The pick of an instance that may be missing. -/
def pickOf : Option Instance → Except BackendError Instance
  | some i => .ok i
  | none => .error .noNodes

theorem pickOf_inj {x y : Option Instance} : pickOf x = pickOf y ↔ x = y := by
  constructor
  · intro h
    cases x with
    | none =>
      cases y with
      | none => rfl
      | some j => cases h
    | some i =>
      cases y with
      | none => cases h
      | some j => exact congrArg some (Except.ok.inj h)
  · intro h
    rw [h]

theorem candidates_map_place (options : TableOptions) (instances : List Instance) (c : RouteContext) :
    VersionRouter.candidates (wantedVersion options.localVersion c)
        ((nearest options.locality instances).map fun i => (place i).toTagged) =
      (eligible options instances c).map fun i => toNode i.normalize := by
  have hnodes : VersionRouter.nodesOf (wantedVersion options.localVersion c)
      ((nearest options.locality instances).map fun i => (place i).toTagged) =
      ((nearest options.locality instances).filter fun i =>
        i.normalizedVersion = wantedVersion options.localVersion c).map fun i =>
          toNode i.normalize := by
    unfold VersionRouter.nodesOf
    rw [List.filter_map, List.map_map]
    rfl
  unfold VersionRouter.candidates eligible
  rw [hnodes]
  simp only [ne_eq, List.map_eq_nil_iff, List.map_map]
  exact (apply_ite (List.map _) ..).symm

/-- A key among the nodes of instances is sent to the instance at its place. -/
theorem select_map_data (function : HashFunction) (es : List Instance) (c : RouteContext) :
    (((⟨es.map fun i => toNode i.normalize, function⟩ : HashSelector Instance).select
        c.hashKey).map (·.data)) =
      pickOf (es[function.place c es.length]?.map (·.normalize)) := by
  simp only [HashSelector.select, HashSelector.place, List.length_map, List.getElem?_map,
    HashFunction.place]
  cases es[(function.digestText (c.hashKey.getD noKeySentinel)).toNat % es.length]? <;> rfl

/-- **A table of hash selectors** can always be built. It serves a request by the instance at the place of
its key among those that are eligible, and stays as it is. -/
theorem build_hashed (f : SelectorFactory) {options : TableOptions} {function : HashFunction}
    (hkind : options.kind = .hash function) (instances : List Instance) :
    ∃ t, build f options instances = .ok t ∧ ∀ c, t.choose c =
      (pickOf ((eligible options instances c)[function.place c
        (eligible options instances c).length]?.map (·.normalize)), t) := by
  cases hplace : options.locality with
  | none =>
    obtain ⟨r, hr, hhashes⟩ := VersionRouter.build_hashes f function options.localVersion
      (instances.map fun i => (place i).toTagged)
    refine ⟨⟨instances.map (·.normalize), .versioned r⟩, ?_, fun c => ?_⟩
    · rw [build_of_none hplace, hkind, hr]
      rfl
    · have hcandidates := candidates_map_place options instances c
      rw [hplace] at hcandidates
      rw [← select_map_data, ← hcandidates]
      simp only [choose, hhashes c]
      rfl
  | some here =>
    obtain ⟨r, hr, hhashes⟩ := NearbyRouter.build_hashes f function options.localVersion here
      (instances.map place)
    refine ⟨⟨instances.map (·.normalize), .nearby r⟩, ?_, fun c => ?_⟩
    · rw [build_of_some hplace, hkind, hr]
      rfl
    · have hcandidates := candidates_map_place options instances c
      rw [hplace] at hcandidates
      rw [← select_map_data, ← hcandidates]
      simp only [choose, hhashes c, vicinity_map_place, List.map_map]
      rfl

theorem after_eq_self {t : ServiceTable} (h : ∀ c, (t.choose c).2 = t)
    (contexts : List RouteContext) : t.after contexts = t := by
  induction contexts with
  | nil => rfl
  | cons c contexts ih =>
    rw [after, List.foldl_cons, h c]
    exact ih

/-! ## Lists in another order -/

theorem ne_nil_iff_of_perm {is js : List Instance} (h : is.Perm js) : is ≠ [] ↔ js ≠ [] := by
  rw [← List.length_pos_iff, ← List.length_pos_iff, h.length_eq]

theorem nearest_perm (here : Option Locality) {is js : List Instance} (h : is.Perm js) :
    (nearest here is).Perm (nearest here js) := by
  unfold nearest
  cases here with
  | none => exact h
  | some l =>
    have hregion := h.filter fun i => i.region = l.region ∧ i.region ≠ ""
    have hzone := hregion.filter fun i => i.zone = l.zone ∧ i.zone ≠ ""
    dsimp only
    simp only [ne_nil_iff_of_perm hzone, ne_nil_iff_of_perm hregion]
    split
    · exact hzone
    · split
      · exact hregion
      · exact h

/-- The order of a list does not change which of its instances a request may be served by. -/
theorem eligible_perm {options : TableOptions} {is js : List Instance} (h : is.Perm js)
    (c : RouteContext) : (eligible options is c).Perm (eligible options js c) := by
  have hnear := nearest_perm options.locality h
  have hsame := hnear.filter fun i => i.normalizedVersion = wantedVersion options.localVersion c
  unfold eligible
  dsimp only
  simp only [ne_nil_iff_of_perm hsame]
  split
  · exact hsame
  · exact hnear

/-- Among the instances that a request may be served by, the two lists have the same one at the place of
its key. -/
def Coincide (options : TableOptions) (function : HashFunction) (is js : List Instance)
    (c : RouteContext) : Prop :=
  let es := eligible options is c
  let fs := eligible options js c
  es[function.place c es.length]?.map (·.normalize) =
    fs[function.place c fs.length]?.map (·.normalize)

end ServiceTable

/-! ## Cached tables -/

namespace TableCache

/-- The table that a service is served from, expired or not. -/
def serving? (c : TableCache) (service : String) : Option ServiceTable :=
  (c.entries.get? service).bind fun entry => c.table? entry.table

@[simp] theorem serving?_store (c : TableCache) (now : Nat) (service : String)
    (table : ServiceTable) : (c.store now service table).serving? service = some table := by
  rw [serving?, get?_store, if_pos rfl, Option.bind_some, table?_store, if_pos rfl]

/-- A load that is due stores the table of the list that the registry gives. -/
theorem load_of_due {c : TableCache} {now : Nat} {s : String} {r : Registry} {is : List Instance}
    {table : ServiceTable} (hdue : ¬c.IsFresh now s) (hanswer : r.answer s = .ok is)
    (hbuild : c.buildTable is = .ok table) : (c.load now s r).cache = c.store now s table := by
  have hmade : (r.answer s).bind c.buildTable = .ok table := by
    rw [hanswer]
    exact hbuild
  have hload := c.load_spec now s r
  revert hload
  generalize c.load now s r = loaded
  intro hload
  cases hload with
  | fresh hentry hnow => exact absurd ⟨_, hentry, hnow⟩ hdue
  | rebuilt _ hok hbuild' =>
    obtain rfl := Except.ok.inj (hanswer.symm.trans hok)
    obtain rfl := Except.ok.inj (hbuild.symm.trans hbuild')
    rfl
  | stale _ _ hfail =>
    rw [hmade] at hfail
    cases hfail
  | failed _ hfail =>
    rw [hmade] at hfail
    cases hfail

end TableCache

namespace ServiceTable

/-- **Two hash tables of the same instances** in different orders can both be built, and a request may be
served by the same instances in both. Whatever they were asked before, they agree about it exactly if their
lists have the same instance at the place of its key. This is also what decides whether a key moves when a
list that was loaded from the registry is followed by a pushed one with the same instances. Lists that are
sorted first make the same table. -/
theorem hashed_picks_agree_iff (f : SelectorFactory) {options : TableOptions}
    {function : HashFunction} (hkind : options.kind = .hash function) {is js : List Instance}
    (hperm : is.Perm js) :
    (∃ t u, build f options is = .ok t ∧ build f options js = .ok u ∧
        ∀ earlier earlier' c, ((t.after earlier).choose c).1 = ((u.after earlier').choose c).1 ↔
          Coincide options function is js c) ∧
      (∀ c, (eligible options is c).Perm (eligible options js c)) ∧
      (∀ (cache : TableCache) (now later : Nat) (service : String) (r : Registry),
        cache.factory = f → cache.options = options → ¬cache.IsFresh now service →
        r.answer service = .ok is →
        let loaded := (cache.load now service r).cache
        ∃ pushed t u, loaded.update later service js = .ok pushed ∧
          loaded.serving? service = some t ∧ pushed.serving? service = some u ∧
          ∀ earlier earlier' c, ((t.after earlier).choose c).1 = ((u.after earlier').choose c).1 ↔
            Coincide options function is js c) ∧
      build f options (Instance.sort is) = build f options (Instance.sort js) := by
  obtain ⟨t, ht, htpick⟩ := build_hashed f hkind is
  obtain ⟨u, hu, hupick⟩ := build_hashed f hkind js
  have hagree : ∀ earlier earlier' c,
      ((t.after earlier).choose c).1 = ((u.after earlier').choose c).1 ↔
        Coincide options function is js c := by
    intro earlier earlier' c
    rw [after_eq_self fun c => by rw [htpick c], after_eq_self fun c => by rw [hupick c], htpick c,
      hupick c]
    exact pickOf_inj
  refine ⟨⟨t, u, ht, hu, hagree⟩, eligible_perm hperm, ?_, ?_⟩
  · intro cache now later service r hfactory hoptions hdue hanswer loaded
    have hloaded : loaded = cache.store now service t := by
      refine TableCache.load_of_due hdue hanswer ?_
      rw [TableCache.buildTable, hfactory, hoptions]
      exact ht
    refine ⟨loaded.store later service u, t, u, ?_, ?_, loaded.serving?_store later service u, hagree⟩
    · have hpushed : loaded.buildTable js = .ok u := by
        rw [hloaded]
        show build cache.factory cache.options js = .ok u
        rw [hfactory, hoptions]
        exact hu
      rw [TableCache.update, hpushed]
      rfl
    · rw [hloaded]
      exact cache.serving?_store now service t
  · rw [Instance.sort_eq_sort_iff.2 hperm]

/-- Two instances of a service. -/
def instancePair : Instance × Instance :=
  (⟨"10.0.0.1", 80, 1, "", "", ""⟩, ⟨"10.0.0.2", 80, 1, "", "", ""⟩)

/-- The registry lists the two instances in one order, and a watcher pushes them in the other. -/
theorem hashed_picks_agree_pair :
    let a := instancePair.1
    let b := instancePair.2
    let options : TableOptions := { kind := .hash .crc32 }
    let cache : TableCache := { options }
    let r := Registry.ofServices [("users", [b, a])]
    options.kind = .hash .crc32 ∧ [b, a].Perm [a, b] ∧ ¬cache.IsFresh 0 "users" ∧
      r.answer "users" = .ok [b, a] ∧
      ∃ pushed t u, (cache.load 0 "users" r).cache.update 1 "users" [a, b] = .ok pushed ∧
        (cache.load 0 "users" r).cache.serving? "users" = some t ∧
        pushed.serving? "users" = some u ∧
        ∀ earlier earlier' c, ((t.after earlier).choose c).1 = ((u.after earlier').choose c).1 ↔
          Coincide options .crc32 [b, a] [a, b] c := by
  intro a b options cache r
  have hperm : [b, a].Perm [a, b] := List.Perm.swap a b []
  have hdue : ¬cache.IsFresh 0 "users" := by
    rintro ⟨entry, hentry, -⟩
    cases hentry
  have hanswer : r.answer "users" = .ok [b, a] := rfl
  have hkind : options.kind = .hash .crc32 := rfl
  obtain ⟨-, -, hcached, -⟩ := hashed_picks_agree_iff {} hkind hperm
  exact ⟨hkind, hperm, hdue, hanswer, hcached cache 0 1 "users" r rfl rfl hdue hanswer⟩

/-- With two instances every key moves, when the list of the registry is followed by the sorted one of the
same instances. -/
theorem every_key_moves :
    let a := instancePair.1
    let b := instancePair.2
    let options : TableOptions := { kind := .hash .crc32 }
    [b, a].Nodup ∧ [b, a].Perm (Instance.sort [b, a]) ∧
      ∃ t u, build {} options [b, a] = .ok t ∧ build {} options (Instance.sort [b, a]) = .ok u ∧
        ∀ c, (t.choose c).1 ≠ (u.choose c).1 := by
  intro a b options
  have hsort : Instance.sort [b, a] = [a, b] := by
    have hsorted : [a, b].Pairwise fun i j => (compare i j).isLE := by decide
    have hswap : Instance.sort [b, a] = Instance.sort [a, b] :=
      Instance.sort_eq_sort_iff.2 (List.Perm.swap a b [])
    exact hswap.trans (List.mergeSort_of_pairwise hsorted)
  have hkind : options.kind = .hash .crc32 := rfl
  obtain ⟨t, ht, htpick⟩ := build_hashed {} hkind [b, a]
  obtain ⟨u, hu, hupick⟩ := build_hashed {} hkind [a, b]
  refine ⟨by decide, (Instance.sort_perm [b, a]).symm, t, u, ht, hsort ▸ hu, fun c => ?_⟩
  -- neither instance has a version, so both are eligible for every request
  have heligible : ∀ is : List Instance, (∀ i ∈ is, i.normalizedVersion = defaultVersion) →
      eligible options is c = is := by
    intro is his
    refine if_neg fun ⟨hwanted, hsame⟩ => ?_
    obtain ⟨i, hi⟩ := List.exists_mem_of_ne_nil _ hsame
    obtain ⟨hmem, hversion⟩ := List.mem_filter.1 hi
    exact hwanted ((of_decide_eq_true hversion).symm.trans (his i hmem))
  rw [htpick, hupick, heligible [b, a] (by decide), heligible [a, b] (by decide), Ne, pickOf_inj]
  have hlt : HashFunction.place .crc32 c 2 < 2 := Nat.mod_lt _ (by decide)
  show ¬[b, a][HashFunction.place .crc32 c 2]?.map (·.normalize) =
    [a, b][HashFunction.place .crc32 c 2]?.map (·.normalize)
  generalize HashFunction.place .crc32 c 2 = place at hlt
  match place, hlt with
  | 0, _ => decide
  | 1, _ => decide

end ServiceTable

end TrafficGateway
