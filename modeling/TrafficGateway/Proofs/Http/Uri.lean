import Mathlib.Data.List.TakeDrop
import Mathlib.Data.List.TakeWhile
import TrafficGateway.Http.Uri

/-!
# Paths and queries that are read back

What may stand in a path and in a query is told by the characters alone. A text of such characters,
with a question mark between the two, is read back as it was written; and whatever is read, its path
holds no other characters.

## Main statements

* `PathAndQuery.read_path`, `PathAndQuery.read_path_query`: what was written is read back.
* `PathAndQuery.isPath_of_read`: only paths are read.
-/

namespace TrafficGateway

namespace PathAndQuery

variable {cs path query : List Char} {p : PathAndQuery}

/-- A text that may stand as a path. -/
def IsPath (s : String) : Prop :=
  ∀ c ∈ s.toList, isPathChar c = true

/-- A text that may stand as a query. -/
def IsQuery (s : String) : Prop :=
  ∀ c ∈ s.toList, isQueryChar c = true

instance (s : String) : Decidable (IsPath s) :=
  decidable_of_iff (s.toList.all isPathChar = true) List.all_eq_true

instance (s : String) : Decidable (IsQuery s) :=
  decidable_of_iff (s.toList.all isQueryChar = true) List.all_eq_true

/-- The characters that end a path do not stand in one. -/
theorem isPathChar_continues {c : Char} (h : isPathChar c = true) : (c != '?' && c != '#') = true := by
  by_contra hends
  obtain rfl | rfl : c = '?' ∨ c = '#' := by
    simpa [← Classical.or_iff_not_imp_left] using hends
  · exact absurd h (by decide)
  · exact absurd h (by decide)

theorem isQueryChar_continues {c : Char} (h : isQueryChar c = true) : (c != '#') = true := by
  by_contra hends
  obtain rfl : c = '#' := by simpa using hends
  exact absurd h (by decide)

/-- A path is read back. -/
theorem read_path (hpath : ∀ c ∈ path, isPathChar c = true) :
    read path = some ⟨String.ofList path, none⟩ := by
  have hcontinues : ∀ c ∈ path, (c != '?' && c != '#') = true :=
    fun c hc => isPathChar_continues (hpath c hc)
  have hall : path.all isPathChar = true := List.all_eq_true.2 hpath
  rw [read, List.span_eq_takeWhile_dropWhile, List.takeWhile_eq_self_iff.2 hcontinues,
    List.dropWhile_eq_nil_iff.2 hcontinues]
  simp [hall]

/-- A path and a query are read back. -/
theorem read_path_query (hpath : ∀ c ∈ path, isPathChar c = true)
    (hquery : ∀ c ∈ query, isQueryChar c = true) :
    read (path ++ '?' :: query) = some ⟨String.ofList path, some (String.ofList query)⟩ := by
  have hcontinues : ∀ c ∈ path, (c != '?' && c != '#') = true :=
    fun c hc => isPathChar_continues (hpath c hc)
  have hwhole : query.takeWhile (· != '#') = query :=
    List.takeWhile_eq_self_iff.2 fun c hc => isQueryChar_continues (hquery c hc)
  have hpathAll : path.all isPathChar = true := List.all_eq_true.2 hpath
  have hqueryAll : query.all isQueryChar = true := List.all_eq_true.2 hquery
  rw [read, List.span_eq_takeWhile_dropWhile, List.takeWhile_append_of_pos hcontinues,
    List.dropWhile_append_of_pos hcontinues]
  simp [hpathAll, hqueryAll, hwhole]

/-- Nothing but a path is read as one. -/
theorem isPath_of_read (h : read cs = some p) : IsPath p.path := by
  rw [read, List.span_eq_takeWhile_dropWhile] at h
  dsimp only at h
  split at h
  · cases h
  · next hall =>
    -- With or without a query, the path is what stands in front of `?` and `#`.
    have hpath : IsPath (String.ofList (cs.takeWhile fun c => c != '?' && c != '#')) := by
      rw [IsPath, String.toList_ofList]
      exact List.all_eq_true.1 (by simpa using hall)
    split at h
    · split at h
      · obtain rfl := Option.some.inj h
        exact hpath
      · cases h
    · obtain rfl := Option.some.inj h
      exact hpath

end PathAndQuery

end TrafficGateway
