import Mathlib.Data.List.TakeDrop
import Mathlib.Data.List.TakeWhile
import TrafficGateway.Http.Uri
import TrafficGateway.Proofs.Http.Headers

/-!
# Schemes and authorities that are read back

An address with a scheme is cut in three: the scheme ends at the first `://`, the authority at the next
slash, question mark or number sign, and what is left is the path with the query. None of these signs
stands in an authority, so a scheme and an authority that were read once are read back when they are
written one behind the other.

## Main definitions

* `Authority.continues`: the characters that do not end an authority.
* `Scheme.IsWrittenAs`: the texts of a scheme.

## Main statements

* `Authority.continues_of_read`: what stands in an authority, by induction on its characters.
* `Scheme.exists_of_split`, `Scheme.split_of_isWrittenAs`: schemes are what is read in front of `://`.
* `Uri.exists_of_read`, `Uri.read_of_parts`: the parts of an address, and an address of parts.
-/

namespace TrafficGateway

/-! ## Authorities -/

namespace Authority

variable {cs : List Char} {s authority : String}

/-- The character does not end the authority of an address. -/
def continues (c : Char) : Bool :=
  c != '/' && c != '?' && c != '#'

theorem split_eq (cs : List Char) : split cs = (cs.takeWhile continues, cs.dropWhile continues) :=
  List.span_eq_takeWhile_dropWhile continues cs

/-- The signs that end an authority are in none. -/
theorem continues_of_step {seen next : Seen} {c : Char} (h : seen.step c = some next) :
    continues c = true := by
  by_contra hends
  obtain rfl | rfl | rfl : c = '/' ∨ c = '?' ∨ c = '#' := by
    simpa [continues, ← Classical.or_iff_not_imp_left, or_assoc] using hends
  · exact Option.some_ne_none next h.symm
  · exact Option.some_ne_none next h.symm
  · exact Option.some_ne_none next h.symm

theorem continues_of_run {seen last : Seen} (h : seen.run cs = some last) :
    ∀ c ∈ cs, continues c = true := by
  induction cs generalizing seen with
  | nil => simp
  | cons c cs ih =>
    obtain ⟨next, hstep, hrest⟩ := Option.bind_eq_some_iff.1 h
    exact List.forall_mem_cons.2 ⟨continues_of_step hstep, ih hrest⟩

/-- An authority is read as it is written, and none of its characters would end it. -/
theorem continues_of_read (h : read s = some authority) :
    authority = s ∧ ∀ c ∈ s.toList, continues c = true := by
  rw [read] at h
  split at h
  · next hvalid =>
    refine ⟨(Option.some.inj h).symm, ?_⟩
    have hseen := (Bool.and_eq_true_iff.1 hvalid).2
    rw [isValid] at hseen
    split at hseen
    · next last hrun => exact continues_of_run hrun
    · cases hseen
  · cases h

/-- What is left behind an authority begins with a sign that ends it. -/
theorem continues_head?_of_split {front rest : List Char} (h : split cs = (front, rest)) :
    ∀ c ∈ rest.head?, continues c = false := by
  rw [split_eq, Prod.mk.injEq] at h
  intro c hc
  have hhead := List.head?_dropWhile_not continues cs
  rw [h.2, Option.mem_def.1 hc] at hhead
  exact hhead

/-- An authority that goes to the end is split off whole. -/
theorem split_eq_self (h : ∀ c ∈ cs, continues c = true) : split cs = (cs, []) := by
  rw [split_eq, List.takeWhile_eq_self_iff.2 h, List.dropWhile_eq_nil_iff.2 h]

end Authority

/-! ## Schemes -/

namespace Scheme

variable {cs rest : List Char} {name written : String}

/-- The text is one of those that a scheme is written as: the two common schemes in any case, all
others as they are. -/
def IsWrittenAs (name written : String) : Prop :=
  (∀ c ∈ written.toList, isSchemeChar c = true) ∧
    (name = asciiLower written ∧ (name = "http" ∨ name = "https") ∨
      name = written ∧ asciiLower written ≠ "http" ∧ asciiLower written ≠ "https" ∧
        written.length ≤ maxLength)

/-- Splitting goes by the characters up to the first that is in no scheme. -/
theorem span_append (h : ∀ c ∈ written.toList, isSchemeChar c = true) (rest : List Char) :
    (written.toList ++ ':' :: rest).span isSchemeChar = (written.toList, ':' :: rest) := by
  rw [List.span_eq_takeWhile_dropWhile, List.takeWhile_append_of_pos h,
    List.dropWhile_append_of_pos h]
  have hcolon : isSchemeChar ':' = false := by decide
  simp [hcolon]

/-- What is split off is a scheme in one of its texts, followed by `://`. -/
theorem exists_of_split (h : split cs = .scheme name rest) :
    ∃ written, IsWrittenAs name written ∧ cs = written.toList ++ "://".toList ++ rest := by
  unfold split at h
  split at h
  · next cs' rest' hspan =>
    rw [List.span_eq_takeWhile_dropWhile, Prod.mk.injEq] at hspan
    obtain ⟨hfront, hback⟩ := hspan
    have hchars : ∀ c ∈ (String.ofList cs').toList, isSchemeChar c = true := by
      rw [String.toList_ofList, ← hfront]
      exact fun c hc => List.mem_takeWhile_imp hc
    have hcs : cs = (String.ofList cs').toList ++ "://".toList ++ rest' := by
      have happend := @List.takeWhile_append_dropWhile _ isSchemeChar cs
      rw [hfront, hback] at happend
      simp [← happend]
    dsimp only at h
    split at h
    · next hcommon =>
      obtain ⟨rfl, rfl⟩ := Start.scheme.inj h
      exact ⟨_, ⟨hchars, .inl ⟨rfl, hcommon⟩⟩, hcs⟩
    · next hcommon =>
      split at h
      · cases h
      · next hlen =>
        obtain ⟨rfl, rfl⟩ := Start.scheme.inj h
        obtain ⟨hhttp, hhttps⟩ := not_or.1 hcommon
        exact ⟨_, ⟨hchars, .inr ⟨rfl, hhttp, hhttps, Nat.le_of_not_lt hlen⟩⟩, hcs⟩
  · cases h

/-- A scheme in one of its texts is split off. -/
theorem split_of_isWrittenAs (h : IsWrittenAs name written) (rest : List Char) :
    split (written.toList ++ "://".toList ++ rest) = .scheme name rest := by
  obtain ⟨hchars, hname⟩ := h
  have hspan : (written.toList ++ "://".toList ++ rest).span isSchemeChar =
      (written.toList, ':' :: '/' :: '/' :: rest) := by
    rw [List.append_assoc]
    exact span_append hchars _
  rw [split, hspan]
  simp only [String.ofList_toList]
  obtain ⟨rfl, hcommon⟩ | ⟨rfl, hhttp, hhttps, hlen⟩ := hname
  · exact if_pos hcommon
  · exact (if_neg (not_or.2 ⟨hhttp, hhttps⟩)).trans (if_neg (Nat.not_lt.2 hlen))

/-- A scheme is one of its own texts. -/
theorem isWrittenAs_self (h : IsWrittenAs name written) : IsWrittenAs name name := by
  obtain ⟨hchars, ⟨-, rfl | rfl⟩ | hother⟩ := h
  · exact ⟨List.all_eq_true.1 (by decide), .inl ⟨(asciiLower_eq_self (by decide)).symm, .inl rfl⟩⟩
  · exact ⟨List.all_eq_true.1 (by decide), .inl ⟨(asciiLower_eq_self (by decide)).symm, .inr rfl⟩⟩
  · exact hother.1 ▸ ⟨hchars, .inr ⟨rfl, hother.2⟩⟩

/-- The texts of a scheme differ in the case of letters only. -/
theorem asciiLower_eq_of_isWrittenAs (h : IsWrittenAs name written) :
    asciiLower written = asciiLower name := by
  obtain ⟨rfl, -⟩ | ⟨rfl, -⟩ := h.2
  · rw [asciiLower_asciiLower]
  · rfl

/-- The texts of a scheme have the same size. -/
theorem utf8ByteSize_of_isWrittenAs (h : IsWrittenAs name written) :
    name.utf8ByteSize = written.utf8ByteSize := by
  obtain ⟨rfl, -⟩ | ⟨rfl, -⟩ := h.2
  · exact utf8ByteSize_asciiLower written
  · rfl

end Scheme

/-! ## Addresses -/

namespace Uri

variable {s scheme authority : String} {rest : List Char} {u : Uri} {target : PathAndQuery}

/-- An address with an authority is that authority, or has a scheme in front of it and the path and the
query behind it. -/
theorem exists_of_read (h : read s = some u) (hauthority : u.authority = some authority) :
    s.utf8ByteSize ≤ maxLength ∧
      ((∀ c ∈ s.toList, Authority.continues c = true) ∨
        ∃ scheme written rest target, Scheme.IsWrittenAs scheme written ∧
          s.toList = written.toList ++ "://".toList ++ (authority.toList ++ rest) ∧
          Authority.split (authority.toList ++ rest) = (authority.toList, rest) ∧
          Authority.read authority = some authority ∧ PathAndQuery.read rest = some target ∧
          u = ⟨some scheme, some authority, target⟩) := by
  rw [read] at h
  split at h
  · cases h
  · next hlen =>
    refine ⟨Nat.le_of_not_lt hlen, ?_⟩
    split at h
    · cases h
    · obtain rfl := Option.some.inj h
      cases hauthority
    · obtain ⟨target, -, rfl⟩ := Option.map_eq_some_iff.1 h
      cases hauthority
    · split at h
      · cases h
      · obtain ⟨_, hsome, -⟩ := Option.map_eq_some_iff.1 h
        obtain ⟨whole, hwhole, -⟩ := Option.bind_eq_some_iff.1 hsome
        exact .inl (Authority.continues_of_read hwhole).2
      · next scheme behind hsplit =>
        obtain ⟨written, hwritten, hs⟩ := Scheme.exists_of_split hsplit
        rw [Authority.split_eq] at h
        dsimp only at h
        split at h
        · next whole target hread htarget =>
          obtain rfl := Option.some.inj h
          obtain rfl := Option.some.inj hauthority
          obtain ⟨rfl, -⟩ := Authority.continues_of_read hread
          have hbehind : (String.ofList (behind.takeWhile Authority.continues)).toList ++
              behind.dropWhile Authority.continues = behind := by
            rw [String.toList_ofList, List.takeWhile_append_dropWhile]
          refine .inr ⟨scheme, written, _, target, hwritten, ?_, ?_, hread, htarget, rfl⟩
          · rw [hbehind, hs]
          · rw [hbehind, Authority.split_eq, String.toList_ofList]
        · cases h

/-- A scheme, an authority and what may stand behind it are an address, if they are not too long. -/
theorem read_of_parts {written : String} (hlen : s.utf8ByteSize ≤ maxLength)
    (hwritten : Scheme.IsWrittenAs scheme written)
    (hs : s.toList = written.toList ++ "://".toList ++ (authority.toList ++ rest))
    (hsplit : Authority.split (authority.toList ++ rest) = (authority.toList, rest))
    (hauthority : Authority.read authority = some authority)
    (htarget : PathAndQuery.read rest = some target) :
    read s = some ⟨some scheme, some authority, target⟩ := by
  have hscheme : Scheme.split s.toList = .scheme scheme (authority.toList ++ rest) := by
    rw [hs, Scheme.split_of_isWrittenAs hwritten]
  rw [read, if_neg (Nat.not_lt.2 hlen)]
  split
  · next hempty => rw [hempty] at hscheme; cases hscheme
  · next hstar => rw [hstar] at hscheme; cases hscheme
  · next path hpath => rw [hpath] at hscheme; cases hscheme
  · rw [hscheme]
    dsimp only
    rw [hsplit]
    dsimp only
    rw [String.ofList_toList, hauthority, htarget]

end Uri

end TrafficGateway
