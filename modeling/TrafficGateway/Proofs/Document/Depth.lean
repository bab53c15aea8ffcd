import TrafficGateway.Document.Decode
import TrafficGateway.Route.Config
import TrafficGateway.Proofs.Outcome

/-!
# The depth of documents

How deep a document nests is bounded by bounds on its items or entries. Whatever is decoded from a
field of a record or from an item of a list was decoded from a part of the document
(`Document.HasPart`), which nests less deep; only a scalar whose type is left to the reader can be read
as a record or a list without being one.

## Main definitions

* `Document.Typed`: no scalar leaves its type to the reader.
* `Document.HasPart`: a typed document that nests less deep, as parts of a typed document do.
-/

namespace TrafficGateway.Document

/-- Every scalar has a type of its own. -/
inductive Typed : Document → Prop where
  | null : Typed .null
  | bool (b : Bool) : Typed (.bool b)
  | int (n : Int) : Typed (.int n)
  | real (digits : String) : Typed (.real digits)
  | text (s : String) : Typed (.text s)
  | list {items : List Document} (h : ∀ d ∈ items, Typed d) : Typed (.list items)
  | table {entries : List (String × Document)} (h : ∀ e ∈ entries, Typed e.2) :
    Typed (.table entries)
  | unreadable : Typed .unreadable

/-! ## Depth -/

theorem depth_list_le_iff {items : List Document} {n : Nat} :
    (list items).depth ≤ n + 1 ↔ ∀ d ∈ items, d.depth ≤ n := by
  have hitems : depth.depthOfItems items ≤ n ↔ ∀ d ∈ items, d.depth ≤ n := by
    induction items with
    | nil => simp [depth.depthOfItems]
    | cons d ds ih => rw [depth.depthOfItems, Nat.max_le, ih, List.forall_mem_cons]
  rw [depth, Nat.succ_le_succ_iff, hitems]

theorem depth_table_le_iff {entries : List (String × Document)} {n : Nat} :
    (table entries).depth ≤ n + 1 ↔ ∀ e ∈ entries, e.2.depth ≤ n := by
  have hentries : depth.depthOfEntries entries ≤ n ↔ ∀ e ∈ entries, e.2.depth ≤ n := by
    induction entries with
    | nil => simp [depth.depthOfEntries]
    | cons e es ih => rw [depth.depthOfEntries, Nat.max_le, ih, List.forall_mem_cons]
  rw [depth, Nat.succ_le_succ_iff, hentries]

theorem depth_ofFields_le {fields : List (String × Option Document)} {n : Nat}
    (h : ∀ f ∈ fields, ∀ d ∈ f.2, d.depth ≤ n) : (ofFields fields).depth ≤ n + 1 :=
  depth_table_le_iff.2 fun e he => by
    obtain ⟨f, hf, he⟩ := List.mem_filterMap.1 he
    obtain ⟨d, hd, rfl⟩ := Option.map_eq_some_iff.1 he
    exact h f hf d hd

theorem depth_lt_of_mem_list {items : List Document} {d : Document} (hd : d ∈ items) :
    d.depth < (list items).depth :=
  Nat.lt_succ_of_le (depth_list_le_iff.1 (Nat.le_refl (list items).depth) d hd)

theorem depth_lt_of_mem_table {entries : List (String × Document)} {e : String × Document}
    (he : e ∈ entries) : e.2.depth < (table entries).depth :=
  Nat.lt_succ_of_le (depth_table_le_iff.1 (Nat.le_refl (table entries).depth) e he)

/-! ## Parts -/

/-- What is known of a part of a typed document: it is typed, and it nests less deep. -/
def HasPart (d part : Document) : Prop :=
  part.Typed ∧ part.depth < d.depth

variable {α : Type} {decode : Document → Except DecodeError α} {d : Document}

theorem hasPart_of_asList {items : List Document} (hd : d.Typed) (h : d.asList = .ok items) :
    ∀ e ∈ items, d.HasPart e := by
  cases hd with
  | list hitems =>
    cases h
    exact fun e he => ⟨hitems e he, depth_lt_of_mem_list he⟩
  | _ => cases h

theorem mem_of_declaredEntries {names : List String} {entries : List (String × Document)} {r : Record}
    (h : declaredEntries names entries = .ok r) : ∀ f ∈ r, f ∈ entries := by
  induction entries generalizing r with
  | nil =>
    cases h
    exact List.forall_mem_nil _
  | cons e entries ih =>
    obtain ⟨r', hr, h⟩ := bind_eq_ok_iff.1 h
    have hrest : ∀ f ∈ r', f ∈ e :: entries := fun f hf => List.mem_cons_of_mem e (ih hr f hf)
    split at h
    · split at h
      · cases h
      · cases h
        exact List.forall_mem_cons.2 ⟨List.mem_cons_self, hrest⟩
    · cases h
      exact hrest

theorem hasPart_of_asRecord {names : List String} {r : Record} (hd : d.Typed)
    (h : d.asRecord names = .ok r) : ∀ f ∈ r, d.HasPart f.2 := by
  cases hd with
  | table hentries =>
    intro f hf
    have hmem := mem_of_declaredEntries h f hf
    exact ⟨hentries f hmem, depth_lt_of_mem_table hmem⟩
  | list hitems =>
    rw [asRecord] at h
    split at h
    · cases h
      intro f hf
      have hmem := (List.of_mem_zip hf).2
      exact ⟨hitems f.2 hmem, depth_lt_of_mem_list hmem⟩
    · cases h
  | _ => cases h

theorem depth_pos_of_asRecord {names : List String} {r : Record} (hd : d.Typed)
    (h : d.asRecord names = .ok r) : 0 < d.depth := by
  cases hd with
  | table hentries => exact Nat.succ_pos _
  | list hitems => exact Nat.succ_pos _
  | _ => cases h

/-- The value of a field is its default or what a part of the document is decoded as. -/
theorem exists_of_withDefault {names : List String} {r : Record} {name : String} {a default : α}
    (hd : d.Typed) (hr : d.asRecord names = .ok r) (h : r.withDefault name default decode = .ok a) :
    a = default ∨ ∃ part, d.HasPart part ∧ decode part = .ok a := by
  rw [Record.withDefault] at h
  split at h
  · next part hfind =>
    obtain ⟨f, hf, rfl⟩ := Option.map_eq_some_iff.1 hfind
    exact .inr ⟨f.2, hasPart_of_asRecord hd hr f (List.mem_of_find?_eq_some hf), h⟩
  · cases h
    exact .inl rfl

theorem exists_of_mem_decodeAll {ds : List Document} {as : List α} (h : decodeAll decode ds = .ok as) :
    ∀ a ∈ as, ∃ d ∈ ds, decode d = .ok a := by
  induction ds generalizing as with
  | nil =>
    cases h
    exact List.forall_mem_nil _
  | cons d ds ih =>
    obtain ⟨a, ha, h⟩ := bind_eq_ok_iff.1 h
    obtain ⟨as', has, h⟩ := bind_eq_ok_iff.1 h
    cases h
    refine List.forall_mem_cons.2 ⟨⟨d, List.mem_cons_self, ha⟩, fun b hb => ?_⟩
    obtain ⟨e, he, hb⟩ := ih has b hb
    exact ⟨e, List.mem_cons_of_mem d he, hb⟩

/-- What is decoded from the items of a part was decoded from parts of that part. -/
theorem exists_of_mem_decodeList {as : List α} (hd : d.Typed)
    (h : (d.asList >>= fun items => decodeAll decode items) = .ok as) :
    ∀ a ∈ as, ∃ part, d.HasPart part ∧ decode part = .ok a := by
  obtain ⟨items, hitems, h⟩ := bind_eq_ok_iff.1 h
  intro a ha
  obtain ⟨part, hpart, ha⟩ := exists_of_mem_decodeAll h a ha
  exact ⟨part, hasPart_of_asList hd hitems part hpart, ha⟩

end TrafficGateway.Document
