import TrafficGateway.Document.Decode
import TrafficGateway.Proofs.Outcome

/-!
# Records and lists that are decoded again

A table that holds the declared fields once each is the record of its entries
(`Document.asRecord_table`), so a field is found in it without a look at the others
(`Record.withDefault_cons_of_ne`). What other fields hold does not matter
(`Document.asRecord_filter`). Lists, optional values and numbers are decoded again where their
parts are.
-/

namespace TrafficGateway

namespace Document

variable {α : Type} {encode : α → Document} {decode : Document → Except DecodeError α}

/-! ## Records -/

/-- Entries with declared keys, each once, are all kept. -/
theorem declaredEntries_eq_self {names : List String} {entries : List (String × Document)}
    (hdeclared : ∀ e ∈ entries, e.1 ∈ names) (hdistinct : (entries.map Prod.fst).Nodup) :
    declaredEntries names entries = .ok entries := by
  induction entries with
  | nil => rfl
  | cons e entries ih =>
    obtain ⟨hmem, hdeclared⟩ := List.forall_mem_cons.1 hdeclared
    rw [List.map_cons, List.nodup_cons] at hdistinct
    have hcontains : names.contains e.1 = true := List.contains_iff_mem.2 hmem
    have hnew : (entries.any fun f => f.1 == e.1) = false := by
      rw [List.any_eq_false]
      intro f hf hkey
      exact hdistinct.1 (List.mem_map.2 ⟨f, hf, by simpa using hkey⟩)
    rw [declaredEntries, ih hdeclared hdistinct.2, ok_bind, hcontains, hnew]
    rfl

theorem asRecord_table {names : List String} {entries : List (String × Document)}
    (hdeclared : ∀ e ∈ entries, e.1 ∈ names) (hdistinct : (entries.map Prod.fst).Nodup) :
    (table entries).asRecord names = .ok entries :=
  declaredEntries_eq_self hdeclared hdistinct

/-- A table of the declared fields, of which some may be absent. -/
theorem asRecord_ofFields {names : List String} {fields : List (String × Option Document)}
    (hdeclared : ∀ f ∈ fields, f.1 ∈ names) (hdistinct : (fields.map Prod.fst).Nodup) :
    (ofFields fields).asRecord names =
      .ok (fields.filterMap fun f => f.2.map fun d => (f.1, d)) := by
  have hsublist : ((fields.filterMap fun f => f.2.map fun d => (f.1, d)).map Prod.fst).Sublist
      (fields.map Prod.fst) := by
    clear hdeclared hdistinct
    induction fields with
    | nil => exact .slnil
    | cons f fields ih =>
      obtain ⟨name, d⟩ := f
      cases d with
      | none => exact ih.cons _
      | some d => exact ih.cons_cons _
  refine asRecord_table (fun e he => ?_) (hsublist.nodup hdistinct)
  obtain ⟨f, hf, hkey⟩ := List.mem_map.1 (hsublist.subset (List.mem_map_of_mem he))
  exact hkey ▸ hdeclared f hf

/-- A record is decoded without a look at the values of other fields. -/
theorem asRecord_filter (names : List String) (entries : List (String × Document)) :
    (table (entries.filter fun e => names.contains e.1)).asRecord names =
      (table entries).asRecord names := by
  show declaredEntries names _ = declaredEntries names entries
  induction entries with
  | nil => rfl
  | cons e entries ih =>
    by_cases hdeclared : names.contains e.1
    · rw [List.filter_cons, if_pos hdeclared, declaredEntries, declaredEntries, ih]
    · rw [List.filter_cons, if_neg hdeclared, ih, declaredEntries]
      simp only [if_neg hdeclared]
      cases declaredEntries names entries <;> rfl

/-! ## Lists, optional values and numbers -/

theorem decodeAll_map {as : List α} (h : ∀ a ∈ as, decode (encode a) = .ok a) :
    decodeAll decode (as.map encode) = .ok as := by
  induction as with
  | nil => rfl
  | cons a as ih =>
    obtain ⟨ha, has⟩ := List.forall_mem_cons.1 h
    rw [List.map_cons, decodeAll, ha, ok_bind, ih has]
    rfl

theorem asOptional_eq_some {d : Document} {a : α} (hpresent : d.isNull = false) (h : decode d = .ok a) :
    asOptional decode d = .ok (some a) := by
  rw [asOptional, hpresent, h]
  rfl

theorem of_asOptional_eq_some {d : Document} {a : α} (h : asOptional decode d = .ok (some a)) :
    decode d = .ok a := by
  rw [asOptional] at h
  split at h
  · cases h
  · obtain ⟨b, hb, hsome⟩ := map_eq_ok_iff.1 h
    exact Option.some.inj hsome ▸ hb

theorem asOptional_ofOption (hpresent : ∀ a, (encode a).isNull = false)
    (h : ∀ a, decode (encode a) = .ok a) (o : Option α) :
    asOptional decode (ofOption encode o) = .ok o := by
  cases o with
  | none => rfl
  | some a => exact asOptional_eq_some (hpresent a) (h a)

theorem asNat_nat {bound n : Nat} (h : n < bound) : (nat n).asNat bound = .ok n := by
  have hnat : (nat n).asAnyNat = .ok n := by simp [nat, asAnyNat]
  rw [asNat, hnat, ok_bind, if_pos h]

theorem asInt_int {bound : Nat} {n : Int} (hle : -(bound : Int) ≤ n) (hlt : n < bound) :
    (int n).asInt bound = .ok n := by
  rw [asInt, show (int n).asAnyInt = .ok n from rfl, ok_bind, if_pos ⟨hle, hlt⟩]

end Document

namespace Record

variable {α : Type} {name name' : String} {d : Document} {r : Record} {default : α}
  {decode : Document → Except DecodeError α}

/-! ## Fields -/

@[simp]
theorem required_cons_self : required ((name, d) :: r) name decode = decode d := by
  simp [required, find?]

@[simp]
theorem required_cons_of_ne (h : name' ≠ name) :
    required ((name', d) :: r) name decode = r.required name decode := by
  simp [required, find?, h]

@[simp]
theorem withDefault_cons_self : withDefault ((name, d) :: r) name default decode = decode d := by
  simp [withDefault, find?]

@[simp]
theorem withDefault_cons_of_ne (h : name' ≠ name) :
    withDefault ((name', d) :: r) name default decode = r.withDefault name default decode := by
  simp [withDefault, find?, h]

@[simp]
theorem withDefault_nil : withDefault [] name default decode = .ok default := rfl

/-- A field has whatever its default has and what every decoded value has. -/
theorem of_withDefault {a default : α} {p : α → Prop} (h : r.withDefault name default decode = .ok a)
    (hdefault : p default) (hdecode : ∀ d, decode d = .ok a → p a) : p a := by
  rw [withDefault] at h
  split at h
  · exact hdecode _ h
  · cases h
    exact hdefault

end Record

end TrafficGateway
