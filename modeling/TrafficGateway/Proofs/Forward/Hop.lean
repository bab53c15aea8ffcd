import TrafficGateway.Forward.Hop
import TrafficGateway.Proofs.Text.Pieces

/-!
# What concerns one connection only

The headers that are passed on are said entry by entry: those whose name is neither in the fixed list
nor named by the `connection` header. A `connection` header names whatever is an item of the list that
it is, in any case and with any blanks around it (`Headers.Names`).

A stream keeps its `te` header (`Headers.Concerns`). The names of the `connection` header are taken
away first, whatever they are, and so a `te` that is named there is lost although it is to be kept.
That is the only case in which an entry is lost or left too many (`Headers.stripHop_exact`).

## Main definitions

* `Headers.Names`: the names in the `connection` header.
* `Headers.Concerns`: the entries that are not to be passed on.
-/

namespace TrafficGateway

/-! ## The names in a list -/

/-- A name is an item of a list that is written with commas, up to case and to the blanks around the
item. -/
def ListsName (text name : String) : Prop :=
  ∃ item core, IsPiece ',' item text.toList ∧ IsTrimmed isBlank core item ∧ core ≠ [] ∧
    asciiLower (String.ofList core) = name

theorem listsName_iff {text name : String} :
    ListsName text name ↔
      name ≠ "" ∧ ∃ item ∈ pieces ',' text, asciiLower (trim item) = name := by
  have hcore (item core : List Char) :
      IsTrimmed isBlank core item ↔ trim (String.ofList item) = String.ofList core := by
    rw [← trimBy_eq_iff, trim, String.toList_ofList, String.ofList_inj]
  have hempty (core : List Char) : asciiLower (String.ofList core) = "" ↔ core = [] := by
    rw [← String.toList_inj, asciiLower, String.toList_map]
    simp
  constructor
  · rintro ⟨item, core, hitem, htrim, hne, rfl⟩
    refine ⟨fun h => hne ((hempty core).1 h), String.ofList item, ?_, ?_⟩
    · exact List.mem_map_of_mem (mem_splitOn_iff.2 hitem)
    · rw [(hcore item core).1 htrim]
  · rintro ⟨hne, item, hitem, rfl⟩
    obtain ⟨cs, hcs, rfl⟩ := List.mem_map.1 hitem
    refine ⟨cs, trimBy isBlank cs, mem_splitOn_iff.1 hcs, trimBy_eq_iff.1 rfl, ?_, ?_⟩
    · rintro hnil
      refine hne ?_
      rw [trim, String.toList_ofList, hnil]
      exact (hempty []).2 rfl
    · rw [trim, String.toList_ofList]

namespace Headers

variable {h : Headers} {keepTe : Bool} {name : String}

/-- A name stands in the list of a `connection` header. Only values that are text are read. -/
def Names (h : Headers) (name : String) : Prop :=
  ∃ value ∈ h.getAll "connection", ∃ text, HeaderValue.text? value = some text ∧ ListsName text name

theorem names_iff : h.Names name ↔ name ∈ h.listedInConnection := by
  rw [listedInConnection]
  simp only [List.mem_filter, List.mem_flatMap, List.mem_filterMap, List.mem_map]
  constructor
  · rintro ⟨value, hvalue, text, htext, hname⟩
    obtain ⟨hne, item, hitem, hlower⟩ := listsName_iff.1 hname
    exact ⟨⟨text, ⟨value, hvalue, htext⟩, item, hitem, hlower⟩, by simpa using hne⟩
  · rintro ⟨⟨text, ⟨value, hvalue, htext⟩, item, hitem, hlower⟩, hne⟩
    exact ⟨value, hvalue, text, htext, listsName_iff.2 ⟨by simpa using hne, item, hitem, hlower⟩⟩

instance : Decidable (h.Names name) :=
  decidable_of_iff _ names_iff.symm

/-- The headers of a name concern one connection only: the name is in the fixed list or is named by a
`connection` header, and it is not that of the `te` headers of a stream. -/
def Concerns (h : Headers) (keepTe : Bool) (name : String) : Prop :=
  (name ∈ HopByHop.names ∨ h.Names name) ∧ ¬(keepTe = true ∧ name = "te")

instance : Decidable (h.Concerns keepTe name) :=
  inferInstanceAs (Decidable (_ ∧ ¬_))

/-! ## What is passed on -/

theorem stripHop_eq (h : Headers) (keepTe : Bool) :
    h.stripHop keepTe = h.filter fun e =>
      decide (¬h.Names e.1 ∧ (e.1 ∈ HopByHop.names → keepTe = true ∧ e.1 = "te")) := by
  refine List.filter_congr fun e _ => ?_
  rw [Bool.eq_iff_iff]
  simp [names_iff, HopByHop.contains, imp_iff_not_or]

/-- No `connection` header is passed on, with or without the `te` headers. -/
theorem getAll_connection_stripHop : (h.stripHop keepTe).getAll "connection" = [] := by
  have hlower : asciiLower "connection" = "connection" := by
    rw [← String.toList_inj, asciiLower, String.toList_map]
    decide
  rw [getAll, List.map_eq_nil_iff, List.filter_eq_nil_iff, stripHop_eq, hlower]
  intro e he heq
  -- Its name is in the fixed list, and it is not `te`.
  have hhop := (decide_eq_true_iff.1 (List.mem_filter.1 he).2).2
  rw [beq_iff_eq.1 heq] at hhop
  exact absurd (hhop (by decide)).2 (by decide)

/-- Once stripped, headers name nothing any more. -/
theorem not_names_stripHop : ¬(h.stripHop keepTe).Names name := by
  rintro ⟨value, hvalue, -⟩
  rw [getAll_connection_stripHop] at hvalue
  exact List.not_mem_nil hvalue

theorem stripHop_stripHop (h : Headers) (keepTe : Bool) :
    (h.stripHop keepTe).stripHop keepTe = h.stripHop keepTe := by
  rw [stripHop_eq (h.stripHop keepTe), List.filter_eq_self]
  intro e he
  rw [stripHop_eq] at he
  exact decide_eq_true ⟨not_names_stripHop, (decide_eq_true_iff.1 (List.mem_filter.1 he).2).2⟩

/-- Of a name that is neither in the fixed list nor named by a `connection` header everything is passed
on. -/
theorem filter_stripHop (hhop : name ∉ HopByHop.names) (hnames : ¬h.Names name) :
    (h.stripHop keepTe).filter (·.1 == name) = h.filter (·.1 == name) := by
  rw [stripHop_eq, List.filter_filter]
  refine List.filter_congr fun e _ => ?_
  by_cases he : e.1 = name
  · simp [he, hhop, hnames]
  · simp [he]

/-- Where a `te` header is to be kept that is named by a `connection` header, what is passed on differs
from what should be. -/
theorem stripHop_eq_iff :
    h.stripHop keepTe = h.filter (fun e => decide ¬h.Concerns keepTe e.1) ↔
      ¬(keepTe = true ∧ h.Names "te" ∧ ∃ e ∈ h, e.1 = "te") := by
  rw [stripHop_eq]
  constructor
  · rintro heq ⟨hkeep, hnames, e, he, hte⟩
    -- The entry is to be kept, but goes as all do that are named.
    have hlost : e ∈ h.filter fun e => decide ¬h.Concerns keepTe e.1 := by
      refine List.mem_filter.2 ⟨he, decide_eq_true fun hconcerns => hconcerns.2 ⟨hkeep, hte⟩⟩
    rw [← heq] at hlost
    exact (decide_eq_true_iff.1 (List.mem_filter.1 hlost).2).1 (hte ▸ hnames)
  · intro hnone
    refine List.filter_congr fun e he => ?_
    rw [decide_eq_decide, Concerns, not_and_not_right]
    constructor
    · rintro ⟨hnames, hhop⟩ (hin | hin)
      · exact hhop hin
      · exact absurd hin hnames
    · intro hkeeps
      refine ⟨fun hnames => ?_, fun hin => hkeeps (.inl hin)⟩
      obtain ⟨hkeep, hte⟩ := hkeeps (.inr hnames)
      exact hnone ⟨hkeep, hte ▸ hnames, e, he, hte⟩

/-- **Exactly the entries that concern one connection are taken away, except for `te` headers that the
`connection` header names.** Without `te` headers to be kept, or if no `connection` header names them,
what is passed on are the other entries, in their order. In any case it is what is neither named nor in
the fixed list, and the `te` headers of a stream that are not named; and stripping it again changes
nothing. -/
theorem stripHop_exact (h : Headers) (keepTe : Bool) :
    (h.stripHop keepTe = h.filter (fun e => decide ¬h.Concerns keepTe e.1) ↔
      ¬(keepTe = true ∧ h.Names "te" ∧ ∃ e ∈ h, e.1 = "te")) ∧
    (∀ name, (h.stripHop keepTe).filter (·.1 == name) =
      if h.Names name ∨ name ∈ HopByHop.names ∧ ¬(keepTe = true ∧ name = "te") then []
      else h.filter (·.1 == name)) ∧
    (h.stripHop keepTe).stripHop keepTe = h.stripHop keepTe := by
  refine ⟨stripHop_eq_iff, fun name => ?_, stripHop_stripHop h keepTe⟩
  rw [stripHop_eq, List.filter_filter]
  split
  · next hgone =>
    rw [List.filter_eq_nil_iff]
    intro e _ he
    simp only [Bool.and_eq_true, beq_iff_eq, decide_eq_true_eq] at he
    obtain ⟨rfl, hnames, hhop⟩ := he
    obtain hin | ⟨hin, hte⟩ := hgone
    · exact hnames hin
    · exact hte (hhop hin)
  · next hstays =>
    refine List.filter_congr fun e _ => ?_
    rw [Bool.eq_iff_iff]
    simp only [Bool.and_eq_true, beq_iff_eq, decide_eq_true_eq]
    refine ⟨And.left, fun he => ⟨he, ?_⟩⟩
    subst he
    obtain ⟨hnames, hhop⟩ := not_or.1 hstays
    exact ⟨hnames, fun hin => Classical.not_not.1 fun hte => hhop ⟨hin, hte⟩⟩

/-- A stream whose `connection` header names `te` loses the `te` header that is to be kept. -/
theorem te_named_in_connection_is_lost :
    let h : Headers := [("connection", "te".toUTF8.toList), ("te", "trailers".toUTF8.toList)]
    h.stripHop true = [] ∧
      h.filter (fun e => decide ¬h.Concerns true e.1) = [("te", "trailers".toUTF8.toList)] := by
  decide +kernel

end Headers

end TrafficGateway
