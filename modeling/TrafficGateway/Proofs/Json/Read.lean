import TrafficGateway.Json.Reader
import TrafficGateway.Proofs.Document.Depth
import TrafficGateway.Proofs.Outcome

/-!
# What is read from JSON

Whatever a text holds, the document that is scanned nests less deep than the limit, and each of its
scalars that can be taken has a type of its own (`Json.admits_of_scan`).
-/

namespace TrafficGateway.Json

variable {fuel depth : Nat} {cs rest : List Char} {d : Document}

/-- What is known of a value that was read. -/
def Admits (depth : Nat) (d : Document) : Prop :=
  d.Typed ∧ d.depth < depth

/-- A number is a scalar with a type, if it can be taken. -/
theorem NumberText.admits_toDocument (hdepth : 0 < depth) (t : NumberText) :
    Admits depth t.toDocument := by
  have hreal : Admits depth
      (if t.overflows then .unreadable else .real (String.ofList t.render)) := by
    split
    · exact ⟨.unreadable, hdepth⟩
    · exact ⟨.real _, hdepth⟩
  unfold toDocument
  dsimp only
  split
  · split <;> split
    · exact ⟨.int _, hdepth⟩
    · exact hreal
    · exact ⟨.int _, hdepth⟩
    · exact hreal
  · exact hreal

theorem admits_of_readNumber (hdepth : 0 < depth) (h : readNumber cs = .ok (d, rest)) :
    Admits depth d := by
  unfold readNumber at h
  dsimp only at h
  split at h
  · cases h
  · cases h
  · simp only [bind_eq_ok_iff] at h
    obtain ⟨_, -, _, -, h⟩ := h
    cases h
    exact NumberText.admits_toDocument hdepth _

/-- A list or a table is a mark unless one more may be open. -/
theorem admits_nested (hdepth : 0 < depth) (h : 1 < depth → Admits depth d) :
    Admits depth (nested depth d) := by
  rw [nested]
  split
  · exact ⟨.unreadable, hdepth⟩
  · next hopen => exact h (Nat.not_le.1 hopen)

theorem admits_list {items : List Document} (hdepth : 1 < depth)
    (h : ∀ d ∈ items, Admits (depth - 1) d) : Admits depth (.list items) := by
  obtain ⟨n, rfl⟩ := Nat.exists_eq_add_of_le hdepth
  refine ⟨.list fun d hd => (h d hd).1, ?_⟩
  have hle : (Document.list items).depth ≤ n + 1 :=
    Document.depth_list_le_iff.2 fun d hd => by have := (h d hd).2; omega
  omega

theorem admits_table {entries : List (String × Document)} (hdepth : 1 < depth)
    (h : ∀ e ∈ entries, Admits (depth - 1) e.2) : Admits depth (.table entries) := by
  obtain ⟨n, rfl⟩ := Nat.exists_eq_add_of_le hdepth
  refine ⟨.table fun e he => (h e he).1, ?_⟩
  have hle : (Document.table entries).depth ≤ n + 1 :=
    Document.depth_table_le_iff.2 fun e he => by have := (h e he).2; omega
  omega

theorem forall_of_push {α : Type} {P : α → Prop} {a : Option α} {as : Option (List α)}
    (ha : ∀ b ∈ a, P b) (has : ∀ bs ∈ as, ∀ b ∈ bs, P b) : ∀ bs ∈ push a as, ∀ b ∈ bs, P b := by
  intro bs hbs
  cases a with
  | none => cases hbs
  | some a =>
    cases as with
    | none => cases hbs
    | some as =>
      cases hbs
      exact List.forall_mem_cons.2 ⟨ha a rfl, has as rfl⟩

/-- What is known of the values that are read within a number of calls. -/
structure Bounded (fuel : Nat) : Prop where
  value {depth : Nat} {cs : List Char} {d : Document} {rest : List Char} : 0 < depth →
    readValue fuel depth cs = .ok (d, rest) → Admits depth d
  items {depth : Nat} {cs : List Char} {items : List Document} {rest : List Char} : 0 < depth →
    readItems fuel depth cs = .ok (items, rest) → ∀ d ∈ items, Admits depth d
  entries {depth : Nat} {cs : List Char} {entries : Option (List (String × Document))}
    {rest : List Char} : 0 < depth → readEntries fuel depth cs = .ok (entries, rest) →
      ∀ es ∈ entries, ∀ e ∈ es, Admits depth e.2

theorem Bounded.readValue (ih : Bounded fuel) (hdepth : 0 < depth)
    (h : Json.readValue (fuel + 1) depth cs = .ok (d, rest)) : Admits depth d := by
  unfold Json.readValue at h
  split at h
  · cases h
  · obtain ⟨_, -, h⟩ := bind_eq_ok_iff.1 h
    cases h
    exact ⟨.null, hdepth⟩
  · obtain ⟨_, -, h⟩ := bind_eq_ok_iff.1 h
    cases h
    exact ⟨.bool true, hdepth⟩
  · obtain ⟨_, -, h⟩ := bind_eq_ok_iff.1 h
    cases h
    exact ⟨.bool false, hdepth⟩
  · obtain ⟨⟨s, _⟩, -, h⟩ := bind_eq_ok_iff.1 h
    cases h
    cases s with
    | none => exact ⟨.unreadable, hdepth⟩
    | some s => exact ⟨.text s, hdepth⟩
  · split at h
    · cases h
      exact admits_nested hdepth fun hopen => admits_list hopen (List.forall_mem_nil _)
    · obtain ⟨⟨items, _⟩, hitems, h⟩ := bind_eq_ok_iff.1 h
      cases h
      exact admits_nested hdepth fun hopen => admits_list hopen (ih.items (by omega) hitems)
  · split at h
    · cases h
      exact admits_nested hdepth fun hopen => admits_table hopen (List.forall_mem_nil _)
    · obtain ⟨⟨entries, _⟩, hentries, h⟩ := bind_eq_ok_iff.1 h
      cases h
      refine admits_nested hdepth fun hopen => ?_
      cases entries with
      | none => exact ⟨.unreadable, hdepth⟩
      | some entries => exact admits_table hopen (ih.entries (by omega) hentries entries rfl)
  · split at h
    · exact admits_of_readNumber hdepth h
    · cases h

theorem Bounded.readItems {items : List Document} (ih : Bounded fuel) (hdepth : 0 < depth)
    (h : Json.readItems (fuel + 1) depth cs = .ok (items, rest)) : ∀ d ∈ items, Admits depth d := by
  rw [Json.readItems] at h
  obtain ⟨⟨d, _⟩, hd, h⟩ := bind_eq_ok_iff.1 h
  have hfirst := ih.value hdepth hd
  dsimp only at h
  split at h
  · obtain ⟨⟨items, _⟩, hitems, h⟩ := bind_eq_ok_iff.1 h
    cases h
    exact List.forall_mem_cons.2 ⟨hfirst, ih.items hdepth hitems⟩
  · cases h
    exact List.forall_mem_singleton.2 hfirst
  · cases h

theorem Bounded.readEntries {entries : Option (List (String × Document))} (ih : Bounded fuel)
    (hdepth : 0 < depth) (h : Json.readEntries (fuel + 1) depth cs = .ok (entries, rest)) :
    ∀ es ∈ entries, ∀ e ∈ es, Admits depth e.2 := by
  rw [Json.readEntries] at h
  split at h
  · obtain ⟨⟨key, _⟩, -, h⟩ := bind_eq_ok_iff.1 h
    dsimp only at h
    split at h
    · obtain ⟨⟨d, _⟩, hd, h⟩ := bind_eq_ok_iff.1 h
      have hfirst : ∀ e ∈ key.map fun k => (k, d), Admits depth e.2 := by
        rintro e he
        obtain ⟨k, -, rfl⟩ := Option.map_eq_some_iff.1 he
        exact ih.value hdepth hd
      dsimp only at h
      split at h
      · obtain ⟨⟨entries, _⟩, hentries, h⟩ := bind_eq_ok_iff.1 h
        cases h
        exact forall_of_push hfirst (ih.entries hdepth hentries)
      · cases h
        exact forall_of_push hfirst fun es hes => by
          cases hes
          exact List.forall_mem_nil _
      · cases h
    · cases h
  · cases h

theorem bounded (fuel : Nat) : Bounded fuel := by
  induction fuel with
  | zero =>
    constructor
    · intro _ _ _ _ _ h
      rw [Json.readValue] at h
      cases h
    · intro _ _ _ _ _ h
      rw [Json.readItems] at h
      cases h
    · intro _ _ _ _ _ h
      rw [Json.readEntries] at h
      cases h
  | succ fuel ih => exact ⟨ih.readValue, ih.readItems, ih.readEntries⟩

/-- A document that is scanned nests less deep than the limit, and its scalars have types. -/
theorem admits_of_scan {s : String} (h : scan s = .ok d) : Admits depthLimit d := by
  obtain ⟨⟨d', rest⟩, hvalue, h⟩ := bind_eq_ok_iff.1 h
  dsimp only at h
  split at h
  · cases h
    exact (bounded _).value (by decide) hvalue
  · cases h

example : scan "[1e999, \"\\ud800\", 1]" = .ok (.list [.unreadable, .unreadable, .int 1]) := by cbv

end TrafficGateway.Json
