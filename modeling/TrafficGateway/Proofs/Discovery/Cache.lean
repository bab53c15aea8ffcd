import TrafficGateway.Discovery.Cache
import TrafficGateway.Proofs.Outcome

/-!
# What the operations of a cache do

One statement for each operation of a table cache, from which everything else about a cache follows: a
load goes one of four ways (`TableCache.load_spec`), and the other operations change the entry of one
service (`get?_store`, `get?_renew`, `get?_invalidate`). How tables are built and how long they live
never changes.

## Main definitions

* `TableCache.IsFresh`: a service has an entry that has not expired.
* `TableCache.LoadCase`: the four ways of a load.
-/

namespace TrafficGateway

/-- A table holds the instances of its list, with their versions normalized. -/
theorem ServiceTable.instances_of_build {f : SelectorFactory} {options : TableOptions}
    {is : List Instance} {t : ServiceTable} (h : build f options is = .ok t) :
    t.instances = is.map (·.normalize) := by
  unfold build at h
  cases hlocality : options.locality with
  | none =>
    rw [hlocality] at h
    obtain ⟨router, -, hrouter⟩ := bind_eq_ok_iff.1 h
    rw [← Except.ok.inj hrouter]
  | some here =>
    rw [hlocality] at h
    obtain ⟨router, -, hrouter⟩ := bind_eq_ok_iff.1 h
    rw [← Except.ok.inj hrouter]

namespace TableCache

variable {c : TableCache} {now : Nat} {s : String} {r : Registry}

/-- Has the service an entry whose expiry is later than now? -/
def IsFresh (c : TableCache) (now : Nat) (s : String) : Prop :=
  ∃ entry, c.entries.get? s = some entry ∧ now < entry.expiresAt

/-! ## The entries after an operation -/

@[simp] theorem get?_renew (c : TableCache) (now : Nat) (s t : String) (table : Nat)
    (h : table < c.tables.length) :
    (c.renew now s table h).entries.get? t =
      if s = t then some ⟨table, now + c.ttl⟩ else c.entries.get? t :=
  Dict.get?_insert _ _ _ _

@[simp] theorem get?_store (c : TableCache) (now : Nat) (s t : String) (table : ServiceTable) :
    (c.store now s table).entries.get? t =
      if s = t then some ⟨c.nextTable, now + c.ttl⟩ else c.entries.get? t :=
  Dict.get?_insert _ _ _ _

@[simp] theorem get?_invalidate (c : TableCache) (s t : String) :
    (c.invalidate s).entries.get? t = if s = t then none else c.entries.get? t :=
  Dict.get?_erase _ _ _

/-- The new table is the last one, and the others keep their numbers. -/
theorem table?_store (c : TableCache) (now : Nat) (s : String) (table : ServiceTable) (n : Nat) :
    (c.store now s table).table? n = if n = c.nextTable then some table else c.table? n := by
  show (c.tables ++ [table])[n]? = if n = c.tables.length then some table else c.tables[n]?
  by_cases hn : n = c.tables.length
  · rw [if_pos hn, hn, List.getElem?_concat_length]
  · rw [if_neg hn, List.getElem?_append]
    split
    · rfl
    · next hle =>
      rw [List.getElem?_eq_none (by simp; omega), List.getElem?_eq_none (by omega)]

/-! ## Loads -/

/-- The ways of a load. A fresh table is served as it is. Otherwise the registry is asked: a list that
makes a table is stored; without one the old table serves for one more time to live, and without an
old table the load fails. -/
inductive LoadCase (c : TableCache) (now : Nat) (s : String) (r : Registry) : Loaded → Prop where
  | fresh {entry : CacheEntry} (hentry : c.entries.get? s = some entry)
      (hnow : now < entry.expiresAt) : LoadCase c now s r ⟨.ok entry.table, none, c, r⟩
  | rebuilt {is : List Instance} {table : ServiceTable} (hdue : ¬c.IsFresh now s)
      (hok : r.answer s = .ok is) (hbuild : c.buildTable is = .ok table) :
      LoadCase c now s r ⟨.ok c.nextTable, some .fresh, c.store now s table, r.counted s⟩
  | stale {entry : CacheEntry} {e : BackendError} (hentry : c.entries.get? s = some entry)
      (hdue : entry.expiresAt ≤ now) (hfail : (r.answer s).bind c.buildTable = .error e) :
      LoadCase c now s r
        ⟨.ok entry.table, some .stale, c.renew now s entry.table (c.table_lt s entry hentry),
          r.counted s⟩
  | failed {e : BackendError} (hnone : c.entries.get? s = none)
      (hfail : (r.answer s).bind c.buildTable = .error e) :
      LoadCase c now s r ⟨.error (.unavailable s e.message), some .failed, c, r.counted s⟩

theorem fresh?_eq_some_iff {table : Nat} :
    c.fresh? now s = some table ↔
      ∃ entry, c.entries.get? s = some entry ∧ now < entry.expiresAt ∧ entry.table = table := by
  unfold fresh?
  cases c.entries.get? s <;> simp [Option.filter]

theorem isFresh_iff : c.IsFresh now s ↔ (c.fresh? now s).isSome := by
  rw [Option.isSome_iff_exists]
  constructor
  · rintro ⟨entry, hentry, hnow⟩
    exact ⟨entry.table, fresh?_eq_some_iff.2 ⟨entry, hentry, hnow, rfl⟩⟩
  · rintro ⟨table, htable⟩
    obtain ⟨entry, hentry, hnow, -⟩ := fresh?_eq_some_iff.1 htable
    exact ⟨entry, hentry, hnow⟩

instance : Decidable (c.IsFresh now s) :=
  decidable_of_iff _ isFresh_iff.symm

theorem settle_of_ok {answer : FetchAnswer} {table : ServiceTable}
    (hmade : answer.bind c.buildTable = .ok table) :
    c.settle now s answer = (.ok c.nextTable, .fresh, c.store now s table) := by
  unfold settle
  rw [hmade]

theorem settle_of_stale {answer : FetchAnswer} {e : BackendError} {entry : CacheEntry}
    (hfail : answer.bind c.buildTable = .error e) (hentry : c.entries.get? s = some entry) :
    c.settle now s answer =
      (.ok entry.table, .stale, c.renew now s entry.table (c.table_lt s entry hentry)) := by
  unfold settle
  rw [hfail]
  dsimp only
  split
  · next found hfound =>
    obtain rfl : entry = found := Option.some.inj (hentry.symm.trans hfound)
    rfl
  · next hnone =>
    rw [hentry] at hnone
    cases hnone

theorem settle_of_none {answer : FetchAnswer} {e : BackendError}
    (hfail : answer.bind c.buildTable = .error e) (hnone : c.entries.get? s = none) :
    c.settle now s answer = (.error (.unavailable s e.message), .failed, c) := by
  unfold settle
  rw [hfail]
  dsimp only
  split
  · next found hfound =>
    rw [hnone] at hfound
    cases hfound
  · rfl

/-- `c.Settles now s answer table outcome after`: what comes of an answer, and the cache after it. -/
inductive Settles (c : TableCache) (now : Nat) (s : String) (answer : FetchAnswer) :
    Except BackendError Nat → RefreshOutcome → TableCache → Prop where
  | made {table : ServiceTable} (hmade : answer.bind c.buildTable = .ok table) :
      Settles c now s answer (.ok c.nextTable) .fresh (c.store now s table)
  | stale {entry : CacheEntry} {e : BackendError} (hfail : answer.bind c.buildTable = .error e)
      (hentry : c.entries.get? s = some entry) :
      Settles c now s answer (.ok entry.table) .stale
        (c.renew now s entry.table (c.table_lt s entry hentry))
  | failed {e : BackendError} (hfail : answer.bind c.buildTable = .error e)
      (hnone : c.entries.get? s = none) :
      Settles c now s answer (.error (.unavailable s e.message)) .failed c

theorem settles (c : TableCache) (now : Nat) (s : String) (answer : FetchAnswer) :
    c.Settles now s answer (c.settle now s answer).1 (c.settle now s answer).2.1
      (c.settle now s answer).2.2 := by
  cases hmade : answer.bind c.buildTable with
  | ok table =>
    rw [settle_of_ok hmade]
    exact .made hmade
  | error e =>
    cases hentry : c.entries.get? s with
    | some entry =>
      rw [settle_of_stale hmade hentry]
      exact .stale hmade hentry
    | none =>
      rw [settle_of_none hmade hentry]
      exact .failed hmade hentry

/-- Every load goes one of these ways. -/
theorem load_spec (c : TableCache) (now : Nat) (s : String) (r : Registry) :
    LoadCase c now s r (c.load now s r) := by
  unfold load
  cases hfresh : c.fresh? now s with
  | some table =>
    obtain ⟨entry, hentry, hnow, rfl⟩ := fresh?_eq_some_iff.1 hfresh
    exact .fresh hentry hnow
  | none =>
    have hdue : ¬c.IsFresh now s := by rw [isFresh_iff, hfresh]; exact Bool.false_ne_true
    dsimp only [Registry.fetch]
    cases hmade : (r.answer s).bind c.buildTable with
    | ok table =>
      obtain ⟨is, hok, hbuild⟩ := bind_eq_ok_iff.1 hmade
      rw [settle_of_ok hmade]
      exact .rebuilt hdue hok hbuild
    | error e =>
      cases hentry : c.entries.get? s with
      | none =>
        rw [settle_of_none hmade hentry]
        exact .failed hentry hmade
      | some entry =>
        rw [settle_of_stale hmade hentry]
        exact .stale hentry (Nat.le_of_not_lt fun hnow => hdue ⟨entry, hentry, hnow⟩) hmade

end TableCache

end TrafficGateway
