import Mathlib.Data.List.TakeWhile
import TrafficGateway.Text.Blank
import TrafficGateway.Text.Pieces

/-!
# Items of a written list

A list that is written with separators is read in two steps: it is cut at the separators, and what
does not count is taken off the two ends of each piece. Both are said here without these steps: a
piece is what stands between two separators, or between one and an end of the text (`IsPiece`), and
its core is what is left when nothing more can be taken off (`IsTrimmed`).

## Main statements

* `mem_splitOn_iff`: cutting a text gives its pieces.
* `trimBy_eq_iff`: trimming a text gives its core.
-/

namespace TrafficGateway

variable {α : Type}

/-! ## Pieces -/

/-- A part of a list that holds no separator and that reaches, on both sides, to a separator or to
the end. -/
structure IsPiece (separator : α) (piece cs : List α) : Prop where
  not_mem : separator ∉ piece
  between : ∃ before after, cs = before ++ piece ++ after ∧
    (before = [] ∨ ∃ front, before = front ++ [separator]) ∧
    (after = [] ∨ ∃ back, after = separator :: back)

/-- Lists that are written behind each other with separators: all before one of them. -/
theorem intercalate_before (separator : α) (before : List (List α)) (piece : List α)
    (after : List (List α)) :
    [separator].intercalate (before ++ piece :: after) =
      (before.map (· ++ [separator])).flatten ++ [separator].intercalate (piece :: after) := by
  induction before with
  | nil => rfl
  | cons first before ih =>
    rw [List.cons_append, List.intercalate_cons_of_ne_nil (by simp), ih]
    simp

section Pieces

variable [BEq α] [LawfulBEq α] {separator : α} {piece cs : List α}

theorem not_mem_of_mem_splitOn (h : piece ∈ cs.splitOn separator) : separator ∉ piece := by
  induction cs generalizing piece with
  | nil =>
    rw [List.splitOn_nil, List.mem_singleton] at h
    rw [h]
    exact List.not_mem_nil
  | cons c cs ih =>
    rw [List.splitOn_cons_eq_if_modifyHead] at h
    split at h
    · obtain rfl | h := List.mem_cons.1 h
      · exact List.not_mem_nil
      · exact ih h
    · next hc =>
      obtain ⟨first, rest, hsplit⟩ := List.exists_cons_of_ne_nil (List.splitOn_ne_nil separator cs)
      rw [hsplit] at h ih
      obtain rfl | h := List.mem_cons.1 h
      · have hfirst := ih List.mem_cons_self
        simp only [beq_iff_eq] at hc
        simp [Ne.symm hc, hfirst]
      · exact ih (List.mem_cons_of_mem _ h)

/-- Cutting a text gives its pieces. -/
theorem mem_splitOn_iff : piece ∈ cs.splitOn separator ↔ IsPiece separator piece cs := by
  constructor
  · intro h
    refine ⟨not_mem_of_mem_splitOn h, ?_⟩
    obtain ⟨before, after, hsplit⟩ := List.append_of_mem h
    have hcs : cs = (before.map (· ++ [separator])).flatten ++
        [separator].intercalate (piece :: after) := by
      rw [← intercalate_before, ← hsplit, List.intercalate_splitOn]
    have hbefore : (before.map (· ++ [separator])).flatten = [] ∨
        ∃ front, (before.map (· ++ [separator])).flatten = front ++ [separator] := by
      obtain rfl | ⟨front, last, rfl⟩ := before.eq_nil_or_concat
      · exact .inl rfl
      · exact .inr ⟨(front.map (· ++ [separator])).flatten ++ last, by simp⟩
    cases after with
    | nil => exact ⟨_, [], by simpa using hcs, hbefore, .inl rfl⟩
    | cons next after =>
      refine ⟨_, _, ?_, hbefore, .inr ⟨[separator].intercalate (next :: after), rfl⟩⟩
      rw [hcs, List.intercalate_cons_of_ne_nil (by simp)]
      simp
  · rintro ⟨hmem, before, after, rfl, hbefore, hafter⟩
    -- From the back: the piece and what follows it, then what stands before it.
    have htail : piece ∈ (piece ++ after).splitOn separator := by
      obtain rfl | ⟨back, rfl⟩ := hafter
      · rw [List.append_nil, List.splitOn_eq_singleton hmem]
        exact List.mem_singleton_self _
      · rw [List.splitOn_append_cons_self_of_not_mem hmem]
        exact List.mem_cons_self
    obtain rfl | ⟨front, rfl⟩ := hbefore
    · simpa using htail
    · have hcut := List.splitOn_append_cons_self (a := separator) front (piece ++ after)
      simp only [List.append_assoc, List.cons_append, List.nil_append] at hcut ⊢
      rw [hcut]
      exact List.mem_append_right _ htail

end Pieces

/-! ## Cores -/

/-- A list with nothing but items with `p` around a core, which neither starts nor ends with one. -/
structure IsTrimmed (p : α → Bool) (core cs : List α) : Prop where
  around : ∃ left right, cs = left ++ core ++ right ∧ (∀ a ∈ left, p a = true) ∧
    ∀ a ∈ right, p a = true
  head : ∀ a ∈ core.head?, p a = false
  last : ∀ a ∈ core.getLast?, p a = false

section Cores

variable {p : α → Bool} {core cs : List α}

theorem dropWhile_append_of_head {left : List α} (hleft : ∀ a ∈ left, p a = true)
    (hcs : ∀ a ∈ cs.head?, p a = false) : (left ++ cs).dropWhile p = cs := by
  rw [List.dropWhile_append_of_pos hleft]
  cases cs with
  | nil => rfl
  | cons c cs => rw [List.dropWhile_cons_of_neg (by simp [hcs c rfl])]

theorem head_dropWhile (p : α → Bool) (cs : List α) : ∀ a ∈ (cs.dropWhile p).head?, p a = false := by
  intro a ha
  have h := List.head?_dropWhile_not p cs
  rw [Option.mem_def.1 ha] at h
  simpa using h

/-- Trimming a text gives its core. -/
theorem trimBy_eq_iff : trimBy p cs = core ↔ IsTrimmed p core cs := by
  constructor
  · rintro rfl
    -- First the left end is cut off, then the right one of what is left.
    have hcs := (List.takeWhile_append_dropWhile (p := p) (l := cs)).symm
    have hcore : cs.dropWhile p =
        trimBy p cs ++ ((cs.dropWhile p).reverse.takeWhile p).reverse := by
      rw [trimBy, ← List.reverse_append, List.takeWhile_append_dropWhile, List.reverse_reverse]
    refine ⟨⟨cs.takeWhile p, ((cs.dropWhile p).reverse.takeWhile p).reverse, ?_, ?_, ?_⟩, ?_, ?_⟩
    · rw [List.append_assoc, ← hcore]
      exact hcs
    · exact fun a ha => List.mem_takeWhile_imp ha
    · exact fun a ha => List.mem_takeWhile_imp (List.mem_reverse.1 ha)
    · intro a ha
      refine head_dropWhile p cs a ?_
      rw [hcore, List.head?_append]
      simp [Option.mem_def.1 ha]
    · intro a ha
      refine head_dropWhile p (cs.dropWhile p).reverse a ?_
      rwa [← List.getLast?_reverse]
  · rintro ⟨⟨left, right, rfl, hleft, hright⟩, hhead, hlast⟩
    have hreversed : ∀ a ∈ right.reverse, p a = true := fun a ha => hright a (List.mem_reverse.1 ha)
    rw [trimBy, List.append_assoc]
    cases core with
    | nil => simp [List.dropWhile_append_of_pos hleft, List.dropWhile_eq_nil_iff.2 hright]
    | cons c core =>
      have hfront : ∀ a ∈ (c :: core ++ right).head?, p a = false := hhead
      rw [dropWhile_append_of_head hleft hfront, List.reverse_append,
        dropWhile_append_of_head hreversed, List.reverse_reverse]
      rwa [List.head?_reverse]

end Cores

end TrafficGateway
