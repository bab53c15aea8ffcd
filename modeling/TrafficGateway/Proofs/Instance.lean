import TrafficGateway.Instance

/-!
# The order of instances

Instances are sorted by all of their fields, so that two lists become the same list exactly if they
hold the same instances, each as often (`Instance.sort_eq_sort_iff`).
-/

namespace TrafficGateway

namespace Instance

/-- The order of instances is the order of their fields, one after the other. -/
theorem compare_eq :
    (compare : Instance → Instance → Ordering) =
      compareLex (compareOn (·.address)) (compareLex (compareOn (·.port.toNat))
        (compareLex (compareOn (·.weight.toNat)) (compareLex (compareOn (·.version))
          (compareLex (compareOn (·.region)) (compareOn (·.zone)))))) := rfl

instance : Std.TransOrd Instance := by
  unfold Std.TransOrd
  rw [compare_eq]
  infer_instance

instance : Std.LawfulEqOrd Instance where
  eq_of_compare {a b} h := by
    cases a with
    | mk address port weight version region zone =>
      cases b
      simp only [compare_eq, compareLex_eq_eq, compareOn, Std.LawfulEqOrd.compare_eq_iff_eq] at h
      obtain ⟨rfl, hport, hweight, rfl, rfl, rfl⟩ := h
      rw [UInt16.toNat_inj.1 hport, UInt32.toNat_inj.1 hweight]

theorem sort_perm (is : List Instance) : (sort is).Perm is :=
  List.mergeSort_perm is _

theorem sort_pairwise (is : List Instance) :
    (sort is).Pairwise fun a b => (compare a b).isLE := by
  refine List.pairwise_mergeSort ?_ ?_ is
  · intro a b c hab hbc
    exact Std.TransCmp.isLE_trans hab hbc
  · intro a b
    have hswap : compare b a = (compare a b).swap := Std.OrientedCmp.eq_swap
    rw [hswap]
    cases compare a b <;> rfl

/-- Lists are sorted into the same list exactly if they hold the same instances. -/
theorem sort_eq_sort_iff {is js : List Instance} : sort is = sort js ↔ is.Perm js := by
  constructor
  · intro h
    exact (sort_perm is).symm.trans (h ▸ sort_perm js)
  · intro h
    have hperm : (sort is).Perm (sort js) := (sort_perm is).trans (h.trans (sort_perm js).symm)
    refine hperm.eq_of_pairwise ?_ (sort_pairwise is) (sort_pairwise js)
    intro a b _ _ hab hba
    exact Std.LawfulEqCmp.eq_of_compare (Std.OrientedCmp.isLE_antisymm hab hba)

theorem sort_sort {is : List Instance} : sort (sort is) = sort is :=
  sort_eq_sort_iff.2 (sort_perm is)

end Instance

end TrafficGateway
