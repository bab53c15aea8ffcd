import TrafficGateway.Proofs.Route.Expression
import TrafficGateway.Proofs.Route.Trie
import TrafficGateway.Route.Table

/-!
# Lookups in route tables

The three structures of a table, each brought to the one equation that lookups need: whole paths and
prefixes to the payload under a text, conditions to the first entry of a sorted list. The list is kept
sorted by inserting every entry behind those of its own priority, so the first entry that holds
changes only when an entry of a strictly higher priority arrives (`find?_insertByPriority`).

## Main statements

* `RouteTable.insertByPriority_descending`, `RouteTable.find?_insertByPriority`: conditions.
* `RouteTable.insertExact_ok_iff`, `RouteTable.insertLeading_ok_iff`: when an entry is accepted, and what
  it changes.
* `RouteTable.find_payload`: the payload of a lookup, without the cache of patterns.
-/

namespace TrafficGateway

namespace RouteTable

variable {α : Type}

/-! ## Conditions by priority -/

/-- No entry of the list has a higher priority than one before it. -/
def Descending (es : List (ConditionEntry α)) : Prop :=
  es.Pairwise fun e f => f.priority ≤ e.priority

theorem mem_insertByPriority {e f : ConditionEntry α} {es : List (ConditionEntry α)} :
    f ∈ insertByPriority e es ↔ f = e ∨ f ∈ es := by
  induction es with
  | nil => simp [insertByPriority]
  | cons g es ih =>
    rw [insertByPriority]
    split
    · simp
    · simp only [List.mem_cons, ih]
      exact or_left_comm

@[simp] theorem length_insertByPriority (e : ConditionEntry α) (es : List (ConditionEntry α)) :
    (insertByPriority e es).length = es.length + 1 := by
  induction es with
  | nil => rfl
  | cons f es ih =>
    rw [insertByPriority]
    split
    · rfl
    · rw [List.length_cons, ih, List.length_cons]

theorem insertByPriority_descending (e : ConditionEntry α) {es : List (ConditionEntry α)}
    (h : Descending es) : Descending (insertByPriority e es) := by
  induction es with
  | nil => exact List.pairwise_singleton _ _
  | cons f es ih =>
    obtain ⟨hf, hes⟩ := List.pairwise_cons.1 h
    rw [insertByPriority]
    split
    · next hlt =>
      refine List.pairwise_cons.2 ⟨fun g hg => ?_, h⟩
      rcases List.mem_cons.1 hg with rfl | hg
      · exact Int32.le_of_lt hlt
      · exact Int32.le_trans (hf g hg) (Int32.le_of_lt hlt)
    · next hge =>
      refine List.pairwise_cons.2 ⟨fun g hg => ?_, ih hes⟩
      rcases mem_insertByPriority.1 hg with rfl | hg
      · exact Int32.not_lt.1 hge
      · exact hf g hg

/-- The first entry that passes is the new one exactly if it passes and its priority is higher than
that of the entry which was first before: among equals the older entry stays first. -/
theorem find?_insertByPriority (p : ConditionEntry α → Bool) (e : ConditionEntry α)
    {es : List (ConditionEntry α)} (h : Descending es) :
    (insertByPriority e es).find? p =
      if p e && (es.find? p).all (fun f => f.priority < e.priority) then some e
      else es.find? p := by
  induction es with
  | nil => cases hp : p e <;> simp [insertByPriority, hp]
  | cons f es ih =>
    obtain ⟨hf, hes⟩ := List.pairwise_cons.1 h
    rw [insertByPriority]
    split
    · next hlt =>
      have hall : ((f :: es).find? p).all (fun g => g.priority < e.priority) = true := by
        rw [Option.all_eq_true]
        intro g hg
        have hmem : g ∈ f :: es := List.mem_of_find?_eq_some hg
        rcases List.mem_cons.1 hmem with rfl | hmem
        · simpa using hlt
        · simpa using Int32.lt_of_le_of_lt (hf g hmem) hlt
      rw [hall, Bool.and_true, List.find?_cons]
      cases p e <;> rfl
    · next hge =>
      rw [List.find?_cons, List.find?_cons]
      cases hp : p f with
      | true => simp [hge]
      | false => exact ih hes

theorem findCondition_payload (v : RequestView) (es : List (ConditionEntry α))
    (cache : RegexCache) :
    (findCondition v es cache).payload =
      (es.find? fun e => e.condition.holds v).map (·.payload) := by
  induction es generalizing cache with
  | nil => rfl
  | cons e es ih =>
    have hfirst := e.condition.evaluate_holds v cache
    rw [findCondition, List.find?_cons]
    cases hc : e.condition.holds v with
    | true => simp [hfirst, hc]
    | false => simpa [hfirst, hc] using ih (e.condition.evaluate v cache).cache

/-! ## Entries -/

theorem insertExact_ok_iff {t u : RouteTable α} {path : String} {a : α} :
    t.insertExact path a = .ok u ↔
      t.exact.get? path = none ∧ { t with exact := t.exact.insert path a } = u := by
  unfold insertExact
  rw [Dict.contains_eq_isSome]
  cases t.exact.get? path <;> simp

theorem insertLeading_ok_iff {t u : RouteTable α} {path : String} {a : α} :
    t.insertLeading path a = .ok u ↔
      t.leading.get? path = none ∧ { t with leading := t.leading.insert path a } = u := by
  unfold insertLeading PrefixTrie.contains
  cases t.leading.get? path <;> simp

/-! ## Lookups -/

/-- What a lookup finds: the payload under the whole path, else the one under a prefix, else that of
the first condition that is true of the request. The cache of patterns has no part in it. -/
theorem find_payload (t : RouteTable α) (v : RequestView) (cache : RegexCache) :
    (t.find v cache).payload =
      ((t.exact.get? v.path).or (t.leading.search t.policy v.path)).or
        ((t.conditions.find? fun e => e.condition.holds v).map (·.payload)) := by
  unfold find
  cases (t.exact.get? v.path).or (t.leading.search t.policy v.path) with
  | some a => rfl
  | none => exact findCondition_payload v t.conditions cache

end RouteTable

end TrafficGateway
