import Mathlib.Data.List.TakeDrop
import Mathlib.Data.List.TakeWhile
import TrafficGateway.Proofs.Http.Headers
import TrafficGateway.Proofs.Route.Expression
import TrafficGateway.Proofs.Text.Pieces

/-!
# Traffic in buckets

A leaf with the source `headerHashMod` reads the bucket of a header's value, and with the operator `in`
it is true of the requests whose bucket is listed. If every bucket stands in one of several lists, such
leaves divide the requests among them (`Matchers.bucketLeaf_divides`).

A request without the header has no bucket. What is read for it is the empty text, and a list that is
written with a comma too many has an empty item: then the leaf is true of that request. This is the only
way in which a leaf can be true of a request whose bucket is not listed.

## Main definitions

* `Fetcher.BucketKey`: the keys of the source, without the reader.
* `Comparator.IsItem`: the items of a written list, without the reader.
* `ExprConfig.bucketLeaf`: the leaf of a list of buckets.
* `Matchers.accepts`: the truth of an expression for a request.
-/

namespace TrafficGateway

/-! ## Keys -/

namespace Fetcher

/-- The keys of `headerHashMod`: the name of a header, which holds no percent sign, and behind such a sign
how many buckets there are, unless there are as many as usual. -/
inductive BucketKey : String → String → Nat → Prop
  | plain {name : String} (unmarked : '%' ∉ name.toList) : BucketKey name name defaultModulus
  | counted {name numeral : String} {modulus : Nat} (unmarked : '%' ∉ name.toList)
      (reads : Numeral.readBounded UInt32.size numeral.toList = some modulus) (pos : 0 < modulus) :
      BucketKey (name ++ "%" ++ numeral) name modulus

variable {key name : String} {modulus : Nat} {f : Fetcher}

theorem BucketKey.pos (h : BucketKey key name modulus) : 0 < modulus := by
  cases h with
  | plain => exact Nat.succ_pos _
  | counted _ _ pos => exact pos

theorem readBuckets_plain (unmarked : '%' ∉ key.toList) :
    readBuckets key = .ok (.headerHashMod (asciiLower key) defaultModulus) := by
  have hall : ∀ c ∈ key.toList, (c != '%') = true := fun c hc => by
    simpa using fun hmark : c = '%' => unmarked (hmark ▸ hc)
  rw [readBuckets, List.span_eq_takeWhile_dropWhile, List.dropWhile_eq_nil_iff.2 hall]

/-- The first percent sign of a key stands behind its name. -/
theorem span_counted (unmarked : '%' ∉ name.toList) (numeral : String) :
    (name ++ "%" ++ numeral).toList.span (· != '%') = (name.toList, '%' :: numeral.toList) := by
  have hall : ∀ c ∈ name.toList, (c != '%') = true := fun c hc => by
    simpa using fun hmark : c = '%' => unmarked (hmark ▸ hc)
  have hlist : (name ++ "%" ++ numeral).toList = name.toList ++ '%' :: numeral.toList := by
    simp [String.toList_append]
  rw [hlist, List.span_eq_takeWhile_dropWhile, List.takeWhile_append_of_pos hall,
    List.dropWhile_append_of_pos hall]
  simp

theorem readBuckets_counted {numeral : String} (unmarked : '%' ∉ name.toList) :
    readBuckets (name ++ "%" ++ numeral) =
      match Numeral.readBounded UInt32.size numeral.toList with
      | some 0 | none => .error (.invalid (.badModulus (name ++ "%" ++ numeral)))
      | some (n + 1) => .ok (.headerHashMod (asciiLower name) (n + 1)) := by
  rw [readBuckets, span_counted unmarked]
  dsimp only
  cases Numeral.readBounded UInt32.size numeral.toList with
  | none => rfl
  | some n =>
    cases n with
    | zero => rfl
    | succ n => simp [String.ofList_toList]

/-- A key with percent signs ends its name at the first of them. -/
theorem exists_counted (marked : '%' ∈ key.toList) :
    ∃ name numeral, key = name ++ "%" ++ numeral ∧ '%' ∉ name.toList := by
  obtain ⟨front, back, hkey, hfront⟩ := List.eq_append_cons_of_mem marked
  refine ⟨String.ofList front, String.ofList back, ?_, by simpa using hfront⟩
  rw [← String.toList_inj, hkey]
  simp [String.toList_append]

/-- **A key is read as its name and its number of buckets**, and nothing else is a key. -/
theorem readBuckets_ok_iff : readBuckets key = .ok f ↔
    ∃ name modulus, BucketKey key name modulus ∧ f = .headerHashMod (asciiLower name) modulus := by
  constructor
  · intro h
    by_cases hmark : '%' ∈ key.toList
    · obtain ⟨name, numeral, rfl, unmarked⟩ := exists_counted hmark
      rw [readBuckets_counted unmarked] at h
      split at h
      · cases h
      · cases h
      · next n hn => exact ⟨name, n + 1, .counted unmarked hn n.succ_pos, (Except.ok.inj h).symm⟩
    · rw [readBuckets_plain hmark] at h
      exact ⟨key, defaultModulus, .plain hmark, (Except.ok.inj h).symm⟩
  · rintro ⟨name, modulus, hkey, rfl⟩
    cases hkey with
    | plain unmarked => exact readBuckets_plain unmarked
    | counted unmarked reads pos =>
      obtain ⟨n, rfl⟩ := Nat.exists_eq_succ_of_ne_zero (Nat.ne_of_gt pos)
      rw [readBuckets_counted unmarked, reads]

theorem ofSource_buckets (custom : List CustomFetcher) (hne : key ≠ "") :
    ofSource custom "headerHashMod" key = readBuckets key := by
  simp [ofSource, hne]

/-- A key has one name. -/
theorem BucketKey.name_unique {name' : String} {modulus' : Nat} (h : BucketKey key name modulus)
    (h' : BucketKey key name' modulus') : name = name' := by
  cases h with
  | plain unmarked =>
    cases h' with
    | plain => rfl
    | counted => exact absurd (by simp [String.toList_append]) unmarked
  | @counted _ numeral _ unmarked =>
    generalize hkey : name ++ "%" ++ numeral = key at h'
    cases h' with
    | plain unmarked' => exact absurd (by rw [← hkey]; simp [String.toList_append]) unmarked'
    | counted unmarked' =>
      have hspan := span_counted unmarked numeral
      rw [hkey, span_counted unmarked'] at hspan
      exact (String.toList_inj.1 (Prod.mk.inj hspan).1).symm

end Fetcher

/-! ## Lists -/

namespace Comparator

/-- A list that is written with commas has an item: it is left of what stands between two commas when
the blanks at both ends are taken away. -/
def IsItem (list item : String) : Prop :=
  ∃ piece, IsPiece ',' piece list.toList ∧ IsTrimmed isBlank item.toList piece

theorem mem_splitItems_iff {list item : String} : item ∈ splitItems list ↔ IsItem list item := by
  simp only [splitItems, pieces, List.map_map, List.mem_map, Function.comp_apply]
  constructor
  · rintro ⟨piece, hpiece, rfl⟩
    refine ⟨piece, mem_splitOn_iff.1 hpiece, trimBy_eq_iff.1 ?_⟩
    simp [trim]
  · rintro ⟨piece, hpiece, hitem⟩
    refine ⟨piece, mem_splitOn_iff.2 hpiece, ?_⟩
    simp [trim, trimBy_eq_iff.2 hitem]

instance (list item : String) : Decidable (IsItem list item) :=
  decidable_of_iff _ mem_splitItems_iff

end Comparator

/-! ## Leaves -/

namespace ExprConfig

/-- The leaf that is true of the requests whose bucket stands in a list. -/
def bucketLeaf (key list : String) : ExprConfig :=
  { source := "headerHashMod", key, operator := "in", value := list }

end ExprConfig

namespace Matchers

open Comparator (IsItem)
open ExprConfig (bucketLeaf)
open Fetcher (BucketKey)

/-- A request has a header whose value is text, and its bucket stands in a list. -/
def InBucket (name : String) (modulus : Nat) (list : String) (v : RequestView) : Prop :=
  ∃ text, v.header name = some text ∧ IsItem list (toString (Fetcher.bucket text modulus))

section Engine

variable [RegexEngine]

/-- Compiles an expression: is it true of a request then? -/
def accepts (m : Matchers) (e : ExprConfig) (v : RequestView) : Bool :=
  match m.compile e with
  | (.ok c, m) => (c.evaluate v m.cache).holds
  | (.error _, _) => false

variable {m : Matchers} {e : ExprConfig} {c : Condition} {key name : String} {modulus : Nat}

theorem accepts_of_ok (h : (m.compile e).1 = .ok c) (v : RequestView) :
    m.accepts e v = e.holds m.custom v := by
  unfold accepts
  split
  · next c' m' hc =>
    have hok : (m.compile e).1 = .ok c' := by rw [hc]
    exact evaluate_compile hok v m'.cache
  · next fault m' hc =>
    rw [hc] at h
    cases h

/-- What a list of buckets compiles into. -/
theorem compile_bucketLeaf (m : Matchers) (hkey : BucketKey key name modulus) (hne : key ≠ "")
    (list : String) : (m.compile (bucketLeaf key list)).1 =
      .ok (.leaf (.headerHashMod (asciiLower name) modulus) (.oneOf (Comparator.splitItems list))) := by
  have hread : Fetcher.readBuckets key = .ok (.headerHashMod (asciiLower name) modulus) :=
    Fetcher.readBuckets_ok_iff.2 ⟨name, modulus, hkey, rfl⟩
  have hsource : Fetcher.ofSource m.custom "headerHashMod" key =
      .ok (.headerHashMod (asciiLower name) modulus) :=
    (Fetcher.ofSource_buckets m.custom hne).trans hread
  simp [compile, bucketLeaf, ExprConfig.validate, compileTree, compileLeaf, hsource,
    Comparator.ofOperator]

/-- A leaf is true of the requests whose bucket is listed, and of those without the header if an empty
item is listed. -/
theorem accepts_bucketLeaf (m : Matchers) (hkey : BucketKey key name modulus) (hne : key ≠ "")
    (list : String) (v : RequestView) : m.accepts (bucketLeaf key list) v = true ↔
      InBucket name modulus list v ∨ v.header name = none ∧ IsItem list "" := by
  have hok := compile_bucketLeaf m hkey hne list
  have hheader : v.header (asciiLower name) = v.header name := by
    simp only [RequestView.header, Headers.text?, Headers.get?_asciiLower]
  rw [accepts_of_ok hok, ← (builds_of_compile hok).holds, Condition.holds,
    Comparator.passes, List.contains_iff_mem, Comparator.mem_splitItems_iff, Fetcher.fetch,
    Fetcher.fetch?, InBucket, hheader]
  cases v.header name <;> simp

/-- **Leaves that list buckets divide the requests with the header.** Whatever the header, the number of
buckets and the list are, the leaf compiles, and it is true of a request exactly if the header's value is
text and its bucket is an item of the list, unless the header is missing or no text and the list has an
empty item. If every bucket is an item of one of several lists, one of their leaves is true of a request
with the header; of a request without it, those are true whose lists have an empty item. -/
theorem bucketLeaf_divides (m : Matchers) (hkey : BucketKey key name modulus) (hne : key ≠ "")
    (v : RequestView) :
    (∀ list, ∃ c, (m.compile (bucketLeaf key list)).1 = .ok c ∧
      ∀ cache, (c.evaluate v cache).holds = m.accepts (bucketLeaf key list) v) ∧
    (∀ list, (m.accepts (bucketLeaf key list) v = true ↔ InBucket name modulus list v) ↔
      ¬(v.header name = none ∧ IsItem list "")) ∧
    ∀ lists : List String,
      (∀ k < modulus, lists.countP (fun list => IsItem list (toString k)) = 1) →
        (∀ text, v.header name = some text →
          lists.countP (fun list => m.accepts (bucketLeaf key list) v) = 1) ∧
        (v.header name = none →
          lists.countP (fun list => m.accepts (bucketLeaf key list) v) =
            lists.countP (fun list => IsItem list "")) := by
  have haccepts := fun list => accepts_bucketLeaf m hkey hne list v
  refine ⟨fun list => ?_, fun list => ?_, fun lists hlists => ⟨fun text htext => ?_, fun hnone => ?_⟩⟩
  · have hok := compile_bucketLeaf m hkey hne list
    exact ⟨_, hok, fun cache => (evaluate_compile hok v cache).trans (accepts_of_ok hok v).symm⟩
  · rw [haccepts]
    constructor
    · rintro h ⟨hnone, hempty⟩
      obtain ⟨text, htext, -⟩ := h.1 (.inr ⟨hnone, hempty⟩)
      cases hnone.symm.trans htext
    · exact fun h => or_iff_left h
  · rw [← hlists (Fetcher.bucket text modulus) (Nat.mod_lt _ hkey.pos)]
    refine List.countP_congr fun list _ => ?_
    rw [haccepts]
    simp [InBucket, htext]
  · refine List.countP_congr fun list _ => ?_
    rw [haccepts]
    simp [InBucket, hnone]

end Engine

/-- A key for ten buckets. -/
theorem bucketKey_ten : BucketKey "x-user%10" "x-user" 10 :=
  @BucketKey.counted "x-user" "10" 10 (by decide) (by decide) (by decide)

/-- Ten buckets in two lists, one of which has an empty item: a request with the header is taken by one
of the leaves, and one without it by the leaf of that list. -/
theorem bucketLeaf_divides_ten :
    let lists := ["0,1,2,3,4", "5, 6 ,7,,8,9"]
    let alice : RequestView := { path := "/", host := "", headers := [("x-user", [0x61])] }
    let nobody : RequestView := { path := "/", host := "" }
    let taken (v : RequestView) := lists.countP fun list =>
      ({} : Matchers).accepts (bucketLeaf "x-user%10" list) v
    taken alice = 1 ∧ taken nobody = 1 := by
  intro lists alice nobody taken
  have hlists : ∀ k < 10, lists.countP (fun list => IsItem list (toString k)) = 1 := by decide
  have hempty : lists.countP (fun list => IsItem list "") = 1 := by decide
  have hlower : asciiLower "x-user" = "x-user" := asciiLower_eq_self (by decide)
  have halice : alice.header "x-user" = some "a" := by
    simp only [alice, RequestView.header, Headers.text?, Headers.get?, hlower]
    decide
  obtain ⟨-, -, hwith⟩ := bucketLeaf_divides {} bucketKey_ten (by decide) alice
  obtain ⟨-, -, hwithout⟩ := bucketLeaf_divides {} bucketKey_ten (by decide) nobody
  exact ⟨(hwith lists hlists).1 "a" halice, ((hwithout lists hlists).2 rfl).trans hempty⟩

/-- A comma too many lets a leaf take the requests that have no bucket. -/
theorem trailing_comma_takes_bucketless :
    let nobody : RequestView := { path := "/", host := "" }
    let leaf := bucketLeaf "x-user%10" "0,1,"
    (∃ c, (({} : Matchers).compile leaf).1 = .ok c ∧ (c.evaluate nobody .empty).holds = true) ∧
      nobody.header "x-user" = none ∧ ¬InBucket "x-user" 10 "0,1," nobody := by
  intro nobody leaf
  have hok := compile_bucketLeaf {} bucketKey_ten (by decide) "0,1,"
  have htrue : ({} : Matchers).accepts leaf nobody = true :=
    (accepts_bucketLeaf {} bucketKey_ten (by decide) "0,1," nobody).2 (.inr ⟨rfl, by decide⟩)
  refine ⟨⟨_, hok, ?_⟩, rfl, ?_⟩
  · rw [evaluate_compile hok, ← accepts_of_ok hok, htrue]
  · rintro ⟨text, htext, -⟩
    cases htext

end Matchers

end TrafficGateway
