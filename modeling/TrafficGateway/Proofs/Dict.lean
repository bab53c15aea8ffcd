import Mathlib.Data.List.Nodup
import TrafficGateway.Dict
import TrafficGateway.Proofs.Outcome

/-!
# Dictionaries of computed values

A dictionary is often built from a list of keys by computing a value for each of them
(`Dict.ofKeys`). What such a dictionary is good for is said by two properties: of the keys that have a
value, and of the value that a key has (`Dict.Assigns`). Replacing a value by another fitting one keeps
both (`Dict.Assigns.insert`).
-/

namespace TrafficGateway

namespace Dict

variable {κ ν ε : Type} [DecidableEq κ] {f : κ → Except ε ν}

/-- Dictionaries in which the same is found have the same number of entries. -/
theorem size_eq_of_get? {d d' : Dict κ ν} (h : ∀ k, d.get? k = d'.get? k) : d.size = d'.size := by
  have hmem : ∀ k, k ∈ d.keys ↔ k ∈ d'.keys := fun k => by
    rw [← List.contains_iff_mem, ← List.contains_iff_mem]
    show d.contains k = true ↔ d'.contains k = true
    rw [contains_eq_isSome, contains_eq_isSome, h]
  have hkeys : d.keys.Perm d'.keys := (List.perm_ext_iff_of_nodup d.distinct d'.distinct).2 hmem
  simpa [keys, size] using hkeys.length_eq

/-- Giving a key the value that it has changes nothing. -/
theorem insert_eq_self {d : Dict κ ν} {k : κ} {v : ν} (h : d.get? k = some v) : d.insert k v = d := by
  obtain ⟨e, hfind, rfl⟩ := Option.map_eq_some_iff.1 h
  have hmem : e ∈ d.entries := List.mem_of_find?_eq_some hfind
  have hkey : e.1 = k := by simpa using List.find?_some hfind
  have hreplace : replace k e.2 d.entries = d.entries := by
    refine (List.map_congr_left fun e' he' => ?_).trans (List.map_id _)
    by_cases hk : e'.1 = k
    · -- keys are distinct, so this is the entry that was found
      obtain rfl := List.inj_on_of_nodup_map d.distinct he' hmem (hk.trans hkey.symm)
      simp
    · simp [hk]
  unfold insert
  rw [dif_pos (List.mem_map.2 ⟨e, hmem, hkey⟩)]
  obtain ⟨entries, distinct⟩ := d
  simp only [hreplace]

/-- A value that was given to one key is gone again, and the one before it is back, after a change of
all values that leaves those of the other keys as they are. -/
theorem filterMap_insert_eq_self {d : Dict κ ν} {g : ν → Option ν} {k : κ} {v : ν}
    (hothers : ∀ k' w, k' ≠ k → d.get? k' = some w → g w = some w) (hk : g v = d.get? k) :
    (d.insert k v).filterMap g = d := by
  have hentry : ∀ e ∈ d.entries, (if e.1 = k then g v else g e.2).map (e.1, ·) = some e := by
    intro e he
    have hget : d.get? e.1 = some e.2 := get?_eq_some_iff.2 he
    split
    · next h => rw [hk, ← h, hget, Option.map_some]
    · next h => rw [hothers e.1 e.2 h hget, Option.map_some]
  obtain ⟨entries, distinct⟩ := d
  unfold insert filterMap
  split
  · next h =>
    simp only [replace, List.filterMap_map, Dict.mk.injEq]
    refine (List.filterMap_congr fun e he => ?_).trans List.filterMap_some
    rw [← hentry e he]
    by_cases hek : e.1 = k <;> simp [hek]
  · next h =>
    have hnone : (⟨entries, distinct⟩ : Dict κ ν).get? k = none := by
      rw [Option.eq_none_iff_forall_not_mem]
      exact fun w hw => h (List.mem_map.2 ⟨_, get?_eq_some_iff.1 hw, rfl⟩)
    simp only [List.filterMap_append, List.filterMap_cons, List.filterMap_nil, Dict.mk.injEq, hk,
      hnone, Option.map_none, List.append_nil]
    refine (List.filterMap_congr fun e he => ?_).trans List.filterMap_some
    have hek : e.1 ≠ k := fun hek => h (List.mem_map.2 ⟨e, he, hek⟩)
    rw [← hentry e he, if_neg hek]

/-- What is found after values have been computed for some more keys. -/
theorem get?_foldlM {ks : List κ} {d d' : Dict κ ν}
    (h : ks.foldlM (fun d k => do return d.insert k (← f k)) d = .ok d') (k : κ) :
    d'.get? k = if k ∈ ks then (f k).toOption else d.get? k := by
  induction ks generalizing d with
  | nil =>
    obtain rfl := Except.ok.inj h
    rw [if_neg List.not_mem_nil]
  | cons a ks ih =>
    rw [List.foldlM_cons] at h
    obtain ⟨_, ha, hrest⟩ := bind_eq_ok_iff.1 h
    obtain ⟨v, hv, hinsert⟩ := bind_eq_ok_iff.1 ha
    obtain rfl := Except.ok.inj hinsert
    rw [ih hrest, get?_insert]
    by_cases hk : k ∈ ks
    · rw [if_pos hk, if_pos (List.mem_cons_of_mem a hk)]
    · by_cases hak : a = k
      · subst hak
        rw [if_neg hk, if_pos rfl, if_pos List.mem_cons_self, hv]
        rfl
      · have hcons : k ∉ a :: ks := by simp [hk, Ne.symm hak]
        rw [if_neg hk, if_neg hak, if_neg hcons]

theorem get?_ofKeys {ks : List κ} {d : Dict κ ν} (h : ofKeys f ks = .ok d) (k : κ) :
    d.get? k = if k ∈ ks then (f k).toOption else none :=
  get?_foldlM h k

/-- Values that can all be computed make a dictionary. -/
theorem ofKeys_ok {ks : List κ} (h : ∀ k ∈ ks, ∃ v, f k = .ok v) : ∃ d, ofKeys f ks = .ok d := by
  suffices hfrom : ∀ d : Dict κ ν,
      ∃ d', ks.foldlM (fun d k => do return d.insert k (← f k)) d = .ok d' from hfrom empty
  induction ks with
  | nil => exact fun d => ⟨d, rfl⟩
  | cons a ks ih =>
    intro d
    obtain ⟨v, hv⟩ := h a List.mem_cons_self
    obtain ⟨d', hd'⟩ := ih (fun k hk => h k (List.mem_cons_of_mem a hk)) (d.insert a v)
    refine ⟨d', ?_⟩
    rw [List.foldlM_cons, hv]
    exact hd'

/-- Exactly the keys with one property have a value, and the value of a key fits it. -/
def Assigns (d : Dict κ ν) (K : κ → Prop) (P : κ → ν → Prop) : Prop :=
  ∀ k, match d.get? k with
    | some v => K k ∧ P k v
    | none => ¬K k

variable {K : κ → Prop} {P : κ → ν → Prop}

theorem Assigns.of_some {d : Dict κ ν} (h : d.Assigns K P) {k : κ} {v : ν} (hv : d.get? k = some v) :
    K k ∧ P k v := by
  simpa only [hv] using h k

theorem Assigns.of_none {d : Dict κ ν} (h : d.Assigns K P) {k : κ} (hv : d.get? k = none) : ¬K k := by
  simpa only [hv] using h k

theorem Assigns.insert {d : Dict κ ν} (h : d.Assigns K P) {k : κ} {v : ν} (hK : K k) (hP : P k v) :
    (d.insert k v).Assigns K P := by
  intro k'
  rw [get?_insert]
  by_cases hk : k = k'
  · subst hk
    rw [if_pos rfl]
    exact ⟨hK, hP⟩
  · rw [if_neg hk]
    exact h k'

/-- The dictionary of the computed values of the keys with a property. -/
theorem assigns_ofKeys {ks : List κ} (hkeys : ∀ k, k ∈ ks ↔ K k) (hok : ∀ k, K k → ∃ v, f k = .ok v)
    (hfit : ∀ k v, f k = .ok v → P k v) : ∃ d, ofKeys f ks = .ok d ∧ d.Assigns K P := by
  obtain ⟨d, hd⟩ := ofKeys_ok fun k hk => hok k ((hkeys k).1 hk)
  refine ⟨d, hd, fun k => ?_⟩
  rw [get?_ofKeys hd]
  by_cases hk : k ∈ ks
  · obtain ⟨v, hv⟩ := hok k ((hkeys k).1 hk)
    rw [if_pos hk, hv]
    exact ⟨(hkeys k).1 hk, hfit k v hv⟩
  · rw [if_neg hk]
    exact fun hK => hk ((hkeys k).2 hK)

end Dict

end TrafficGateway
