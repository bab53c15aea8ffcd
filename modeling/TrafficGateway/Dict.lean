/-!
# Dictionaries

Finite maps whose entries keep the order in which their keys were first inserted.

## Main definitions

* `Dict`: entries with distinct keys.
* `Dict.get?`, `Dict.insert`, `Dict.erase`, `Dict.modify`: lookup and change of one entry.
* `Dict.filterMap`: change of all values, some of which may go.
* `Dict.ofKeys`: the dictionary of a computed value for each key.

`get?_insert`, `get?_erase` and `get?_filterMap` say what a change does to every lookup, `size_insert`
what it does to the number of keys.
-/

namespace TrafficGateway

/-- A finite map as a list of entries with distinct keys. -/
structure Dict (κ : Type) (ν : Type) where
  entries : List (κ × ν)
  distinct : (entries.map Prod.fst).Nodup

namespace Dict

variable {κ ν : Type}

/-- The dictionary without entries. -/
def empty : Dict κ ν := ⟨[], List.nodup_nil⟩

instance : Inhabited (Dict κ ν) := ⟨empty⟩

/-- The keys, in the order of their first insertion. -/
def keys (d : Dict κ ν) : List κ :=
  d.entries.map Prod.fst

/-- The values, in the order of their keys. -/
def values (d : Dict κ ν) : List ν :=
  d.entries.map Prod.snd

/-- The number of entries. -/
def size (d : Dict κ ν) : Nat :=
  d.entries.length

theorem map_fst_filterMap (f : ν → Option ν) (es : List (κ × ν)) :
    ((es.filterMap fun e => (f e.2).map (e.1, ·)).map Prod.fst).Sublist (es.map Prod.fst) := by
  induction es with
  | nil => exact .slnil
  | cons e es ih =>
    rw [List.filterMap_cons]
    cases f e.2 with
    | none => exact ih.cons _
    | some v => exact ih.cons_cons _

/-- Changes every value, or takes it away together with its key. -/
def filterMap (d : Dict κ ν) (f : ν → Option ν) : Dict κ ν :=
  ⟨d.entries.filterMap fun e => (f e.2).map (e.1, ·), d.distinct.sublist (map_fst_filterMap f _)⟩

variable [DecidableEq κ]

/-- The value of a key. -/
def get? (d : Dict κ ν) (k : κ) : Option ν :=
  (d.entries.find? fun e => e.1 = k).map Prod.snd

/-- Has the key a value? -/
def contains (d : Dict κ ν) (k : κ) : Bool :=
  d.keys.contains k

/-- Entries with the value of one key replaced. -/
def replace (k : κ) (v : ν) (es : List (κ × ν)) : List (κ × ν) :=
  es.map fun e => if e.1 = k then (e.1, v) else e

@[simp]
theorem map_fst_replace (k : κ) (v : ν) (es : List (κ × ν)) :
    (replace k v es).map Prod.fst = es.map Prod.fst := by
  simp only [replace, List.map_map]
  apply List.map_congr_left
  intro e _
  by_cases h : e.1 = k <;> simp [h]

/-- Gives a key a value. A key that has one keeps its place, a new key comes last. -/
def insert (d : Dict κ ν) (k : κ) (v : ν) : Dict κ ν :=
  if h : k ∈ d.entries.map Prod.fst then
    ⟨replace k v d.entries, by rw [map_fst_replace]; exact d.distinct⟩
  else
    ⟨d.entries ++ [(k, v)], by
      rw [List.map_append, List.nodup_append]
      refine ⟨d.distinct, by simp, ?_⟩
      intro a ha b hb
      simp only [List.map_cons, List.map_nil, List.mem_singleton] at hb
      exact fun e => h (hb ▸ e ▸ ha)⟩

/-- Takes a key and its value away. -/
def erase (d : Dict κ ν) (k : κ) : Dict κ ν :=
  ⟨d.entries.filter fun e => e.1 ≠ k,
    List.Nodup.sublist (List.Sublist.map Prod.fst List.filter_sublist) d.distinct⟩

/-- Changes the value of a key, if it has one. -/
def modify (d : Dict κ ν) (k : κ) (f : ν → ν) : Dict κ ν :=
  match d.get? k with
  | some v => d.insert k (f v)
  | none => d

/-- Gives every key of a list the value that is computed for it, or fails with the first key whose
value cannot be computed. -/
def ofKeys {ε : Type} (f : κ → Except ε ν) (ks : List κ) : Except ε (Dict κ ν) :=
  ks.foldlM (fun d k => do return d.insert k (← f k)) empty

theorem find?_replace (k k' : κ) (v : ν) (es : List (κ × ν)) :
    ((replace k v es).find? fun e => e.1 = k').map Prod.snd =
      if k = k' ∧ k ∈ es.map Prod.fst then some v
      else (es.find? fun e => e.1 = k').map Prod.snd := by
  induction es with
  | nil => simp [replace]
  | cons e es ih =>
    obtain ⟨a, b⟩ := e
    have hcons : replace k v ((a, b) :: es) = (a, if a = k then v else b) :: replace k v es := by
      by_cases h : a = k <;> simp [replace, h]
    rw [hcons]
    by_cases hk' : a = k'
    · subst hk'
      by_cases hk : a = k
      · simp [hk]
      · have hk₂ : ¬ k = a := fun h => hk h.symm
        simp [hk, hk₂]
    · by_cases hk : k = k'
      · have ha : ¬ a = k := fun h => hk' (h.trans hk)
        have ha₂ : ¬ k = a := fun h => ha h.symm
        have hmem : k ∈ ((a, b) :: es).map Prod.fst ↔ k ∈ es.map Prod.fst := by simp [ha₂]
        simp only [List.find?_cons, decide_eq_false hk', hmem]
        exact ih
      · simpa [List.find?_cons, hk', hk] using ih

@[simp]
theorem get?_insert (d : Dict κ ν) (k k' : κ) (v : ν) :
    (d.insert k v).get? k' = if k = k' then some v else d.get? k' := by
  unfold insert get?
  split
  · next h =>
    show ((replace k v d.entries).find? fun e => e.1 = k').map Prod.snd = _
    rw [find?_replace]
    simp [h]
  · next h =>
    show ((d.entries ++ [(k, v)]).find? fun e => e.1 = k').map Prod.snd = _
    rw [List.find?_append]
    by_cases hk : k = k'
    · subst hk
      have : (d.entries.find? fun e => e.1 = k) = none := by
        rw [List.find?_eq_none]
        intro e he hek
        exact h (List.mem_map.2 ⟨e, he, by simpa using hek⟩)
      simp [this]
    · simp [hk]

theorem find?_filter_ne (k k' : κ) (h : k ≠ k') (es : List (κ × ν)) :
    ((es.filter fun e => e.1 ≠ k).find? fun e => e.1 = k') = es.find? fun e => e.1 = k' := by
  induction es with
  | nil => rfl
  | cons e es ih =>
    by_cases hk : e.1 = k
    · have : ¬ e.1 = k' := fun h' => h (hk.symm.trans h')
      simpa [List.filter_cons, List.find?_cons, hk, this, h] using ih
    · by_cases hk' : e.1 = k' <;> simp_all

@[simp]
theorem get?_erase (d : Dict κ ν) (k k' : κ) :
    (d.erase k).get? k' = if k = k' then none else d.get? k' := by
  by_cases hk : k = k'
  · subst hk
    simp [erase, get?, List.find?_eq_none]
  · simp only [erase, get?, hk, if_false, find?_filter_ne k k' hk]

theorem get?_eq_some_iff {d : Dict κ ν} {k : κ} {v : ν} :
    d.get? k = some v ↔ (k, v) ∈ d.entries := by
  obtain ⟨es, hdistinct⟩ := d
  simp only [get?]
  induction es with
  | nil => simp
  | cons e es ih =>
    obtain ⟨k', v'⟩ := e
    rw [List.map_cons, List.nodup_cons] at hdistinct
    by_cases hk : k' = k
    · -- The key stands here, so it does not stand further back.
      subst hk
      have hnot : (k', v) ∉ es := fun h => hdistinct.1 (List.mem_map.2 ⟨_, h, rfl⟩)
      simp [hnot, eq_comm]
    · simpa [hk, Ne.symm hk] using ih hdistinct.2

@[simp]
theorem get?_filterMap (d : Dict κ ν) (f : ν → Option ν) (k : κ) :
    (d.filterMap f).get? k = (d.get? k).bind f := by
  ext v
  rw [get?_eq_some_iff, Option.bind_eq_some_iff]
  simp only [filterMap, List.mem_filterMap, Option.map_eq_some_iff, Prod.mk.injEq]
  constructor
  · rintro ⟨⟨k', w⟩, hmem, _, hv, rfl, rfl⟩
    exact ⟨w, get?_eq_some_iff.2 hmem, hv⟩
  · rintro ⟨w, hw, hv⟩
    exact ⟨(k, w), get?_eq_some_iff.1 hw, v, hv, rfl, rfl⟩

theorem contains_eq_isSome (d : Dict κ ν) (k : κ) : d.contains k = (d.get? k).isSome := by
  rw [Bool.eq_iff_iff]
  simp [contains, keys, get?, List.find?_isSome]

theorem size_insert (d : Dict κ ν) (k : κ) (v : ν) :
    (d.insert k v).size = if d.contains k then d.size else d.size + 1 := by
  unfold insert size
  split
  · next h => simp [contains, keys, h, replace]
  · next h => simp [contains, keys, h]

end Dict

end TrafficGateway
