import TrafficGateway.Discovery.Registry
import TrafficGateway.Partition.ServiceTable

/-!
# Cached tables

The tables of services, kept for a time so that not every request asks the registry. When a table
has expired and no new one can be had, the old one serves for another time to live.

Tables are shared: whoever holds one sees the picks of all others. Therefore the cache keeps every
table it ever built and gives out the number of a table.

## Main definitions

* `TableCache`: the tables and the entries with their expiry.
* `TableCache.fresh?`: the table of a service, unless it has expired.
* `TableCache.settle`: what a refresh makes of the answer of the registry.
* `TableCache.load`: the table of a service, fetched if there is no fresh one.
* `TableCache.update`, `TableCache.invalidate`: a pushed list of instances; the end of an entry.
-/

namespace TrafficGateway

/-- How a refresh ended: with a new table, with the old one, or without any. -/
inductive RefreshOutcome where
  | fresh
  | stale
  | failed
  deriving DecidableEq, Repr, Inhabited

/-- The name of an outcome. -/
def RefreshOutcome.name : RefreshOutcome → String
  | fresh => "fresh"
  | stale => "stale"
  | failed => "failed"

/-- The outcome with a name. -/
def RefreshOutcome.ofName? : String → Option RefreshOutcome
  | "fresh" => some .fresh
  | "stale" => some .stale
  | "failed" => some .failed
  | _ => none

/-- The number of the table of a service, and the time from which on it has expired. -/
structure CacheEntry where
  table : Nat
  expiresAt : Nat
  deriving DecidableEq, Repr, Inhabited

/-- No service has a table at first. -/
theorem CacheEntry.table_lt_of_empty (service : String) (entry : CacheEntry)
    (h : (Dict.empty : Dict String CacheEntry).get? service = some entry) :
    entry.table < ([] : List ServiceTable).length := by
  cases h

/-- The tables that were built, in order, and which of them belong to services. Times are
milliseconds, of which there is no last one. -/
structure TableCache where
  factory : SelectorFactory := {}
  options : TableOptions := {}
  ttl : Nat := 10000
  tables : List ServiceTable := []
  entries : Dict String CacheEntry := .empty
  table_lt : ∀ service entry, entries.get? service = some entry → entry.table < tables.length := by
    exact CacheEntry.table_lt_of_empty

namespace TableCache

instance : Inhabited TableCache := ⟨{}⟩

/-- The table with a number. -/
def table? (c : TableCache) (number : Nat) : Option ServiceTable :=
  c.tables[number]?

/-- The number that the next table gets. -/
def nextTable (c : TableCache) : Nat :=
  c.tables.length

/-- The services that have a table, in order. -/
def cached (c : TableCache) : List String :=
  c.entries.keys.mergeSort fun a b => decide (a ≤ b)

/-- The table of a service, unless it has expired. -/
def fresh? (c : TableCache) (now : Nat) (service : String) : Option Nat :=
  ((c.entries.get? service).filter fun e => now < e.expiresAt).map (·.table)

/-- The table with a number serves a service for one more time to live. The sum is always a time here;
a clock that counts 64-bit seconds overflows at a time to live near 2 ^ 63 seconds, and that is left
out. -/
def renew (c : TableCache) (now : Nat) (service : String) (table : Nat)
    (h : table < c.tables.length) : TableCache :=
  { c with
    entries := c.entries.insert service ⟨table, now + c.ttl⟩
    table_lt := by
      intro other entry he
      rw [Dict.get?_insert] at he
      split at he
      · rw [← Option.some.inj he]; exact h
      · exact c.table_lt other entry he }

/-- Adds a table, whose number is `c.nextTable`. -/
def addTable (c : TableCache) (table : ServiceTable) : TableCache :=
  { c with
    tables := c.tables ++ [table]
    table_lt := by
      intro service entry he
      have := c.table_lt service entry he
      simp only [List.length_append, List.length_singleton]
      omega }

/-- Gives a service a new table, whose number is `c.nextTable`. -/
def store (c : TableCache) (now : Nat) (service : String) (table : ServiceTable) : TableCache :=
  (c.addTable table).renew now service c.nextTable (by simp [addTable, nextTable])

/-- The table of a list of instances, as this cache builds it. -/
def buildTable (c : TableCache) (instances : List Instance) : Except BackendError ServiceTable :=
  ServiceTable.build c.factory c.options instances

/-- What a refresh of a service makes of the answer of the registry: the table to serve from, how the
refresh ended, and the cache after it. -/
def settle (c : TableCache) (now : Nat) (service : String) (answer : FetchAnswer) :
    Except BackendError Nat × RefreshOutcome × TableCache :=
  match answer.bind c.buildTable with
  | .ok table => (.ok c.nextTable, .fresh, c.store now service table)
  | .error e =>
    match h : c.entries.get? service with
    | some entry =>
      (.ok entry.table, .stale, c.renew now service entry.table (c.table_lt service entry h))
    | none => (.error (.unavailable service e.message), .failed, c)

/-- What a load gives: the table to serve from, how the refresh ended if there was one, and the cache
and the registry after it. -/
structure Loaded where
  table : Except BackendError Nat
  outcome : Option RefreshOutcome
  cache : TableCache
  registry : Registry

/-- The table of a service. The registry is asked only if there is no fresh table. -/
def load (c : TableCache) (now : Nat) (service : String) (registry : Registry) : Loaded :=
  match c.fresh? now service with
  | some table => ⟨.ok table, none, c, registry⟩
  | none =>
    let (answer, registry) := registry.fetch service
    let (table, outcome, cache) := c.settle now service answer
    ⟨table, some outcome, cache, registry⟩

/-- Gives a service the table of a pushed list. A list that makes no table changes nothing. -/
def update (c : TableCache) (now : Nat) (service : String) (instances : List Instance) :
    Except BackendError TableCache :=
  (c.buildTable instances).map (c.store now service)

/-- Takes the entry of a service away. -/
def invalidate (c : TableCache) (service : String) : TableCache :=
  { c with
    entries := c.entries.erase service
    table_lt := by
      intro other entry he
      rw [Dict.get?_erase] at he
      split at he
      · cases he
      · exact c.table_lt other entry he }

/-- The cache with another state of the table with a number. -/
def setTable (c : TableCache) (number : Nat) (table : ServiceTable) : TableCache :=
  { c with
    tables := c.tables.set number table
    table_lt := by
      intro service entry he
      rw [List.length_set]
      exact c.table_lt service entry he }

end TableCache

end TrafficGateway
