import Mathlib.Algebra.Group.Nat.Defs
import Mathlib.Data.List.Basic
import Mathlib.Data.List.TakeDrop
import Mathlib.Data.List.TakeWhile
import TrafficGateway.Text.Numeral

/-!
# Numerals that are read again

Digits that are written for a number are read as that number, in every base up to sixteen, and a numeral
ends at the first character that is no digit. So a number can be written in front of any text that does
not begin with a digit, and is taken off again.

## Main statements

* `Numeral.read_toDigits`, `Numeral.readBase_toDigits`: what is written for a number is read as it.
* `Numeral.readOnto_lt`: a numeral of a few digits denotes a small number.
* `Numeral.toDigits_head?`: the digits of a number that is not zero do not begin with a zero.
-/

namespace TrafficGateway.Numeral

variable {base n : Nat} {value : Char → Option Nat}

/-! ## Digits -/

theorem hexValue_digitChar {d : Nat} (hd : d < 16) : hexValue (Nat.digitChar d) = some d :=
  (by decide : ∀ d < 16, hexValue (Nat.digitChar d) = some d) d hd

theorem digitValue_digitChar {d : Nat} (hd : d < 10) : digitValue (Nat.digitChar d) = some d :=
  (by decide : ∀ d < 10, digitValue (Nat.digitChar d) = some d) d hd

/-- The digits of a number are those of a base. -/
theorem exists_of_mem_toDigits (hbase : 1 < base) {c : Char} (hc : c ∈ Nat.toDigits base n) :
    ∃ d < base, c = Nat.digitChar d := by
  induction n using Nat.strongRecOn with
  | ind n ih =>
    by_cases hn : n < base
    · rw [Nat.toDigits_of_lt_base hn, List.mem_singleton] at hc
      exact ⟨n, hn, hc⟩
    · have hle : base ≤ n := Nat.not_lt.1 hn
      rw [Nat.toDigits_of_base_le hbase hle, List.mem_append, List.mem_singleton] at hc
      rcases hc with hc | rfl
      · exact ih (n / base) (Nat.div_lt_self (by omega) hbase) hc
      · exact ⟨n % base, Nat.mod_lt n (by omega), rfl⟩

theorem toDigits_ne_nil (hbase : 1 < base) : Nat.toDigits base n ≠ [] := by
  by_cases hn : n < base
  · rw [Nat.toDigits_of_lt_base hn]
    exact List.cons_ne_nil _ _
  · rw [Nat.toDigits_of_base_le hbase (Nat.not_lt.1 hn)]
    exact List.append_ne_nil_of_right_ne_nil _ (List.cons_ne_nil _ _)

/-- A number that is not zero is written without zeros in front. -/
theorem toDigits_head? (hbase : 1 < base) (hle : base ≤ 16) (hn : n ≠ 0) :
    (Nat.toDigits base n).head? ≠ some '0' := by
  induction n using Nat.strongRecOn with
  | ind n ih =>
    by_cases hlt : n < base
    · rw [Nat.toDigits_of_lt_base hlt, List.head?_cons, ne_eq, Option.some_inj]
      exact (by decide : ∀ n < 16, n ≠ 0 → Nat.digitChar n ≠ '0') n (Nat.lt_of_lt_of_le hlt hle) hn
    · have hge : base ≤ n := Nat.not_lt.1 hlt
      rw [Nat.toDigits_of_base_le hbase hge, List.head?_append_of_ne_nil _ (toDigits_ne_nil hbase)]
      exact ih (n / base) (Nat.div_lt_self (by omega) hbase)
        (Nat.div_pos hge (by omega)).ne'

/-! ## Reading -/

theorem readOnto_append (m : Nat) (cs ds : List Char) :
    readOnto base value m (cs ++ ds) =
      (readOnto base value m cs).bind fun m => readOnto base value m ds := by
  induction cs generalizing m with
  | nil => rfl
  | cons c cs ih =>
    rw [List.cons_append, readOnto, readOnto]
    cases value c with
    | none => rfl
    | some d =>
      by_cases hd : d < base
      · simp only [hd, if_true]
        exact ih _
      · simp only [hd, if_false, Option.bind_none]

theorem readOnto_toDigits (hbase : 1 < base)
    (hvalue : ∀ d < base, value (Nat.digitChar d) = some d) (n : Nat) :
    readOnto base value 0 (Nat.toDigits base n) = some n := by
  have hdigit : ∀ m d, d < base → readOnto base value m [Nat.digitChar d] = some (base * m + d) :=
    fun m d hd => by simp [readOnto, hvalue d hd, hd]
  induction n using Nat.strongRecOn with
  | ind n ih =>
    by_cases hn : n < base
    · rw [Nat.toDigits_of_lt_base hn, hdigit 0 n hn, Nat.mul_zero, Nat.zero_add]
    · have hle : base ≤ n := Nat.not_lt.1 hn
      rw [Nat.toDigits_of_base_le hbase hle, readOnto_append,
        ih (n / base) (Nat.div_lt_self (by omega) hbase), Option.bind_some,
        hdigit _ _ (Nat.mod_lt n (by omega)), Nat.div_add_mod]

/-- A number in a base up to sixteen is read as itself. -/
theorem readBase_toDigits (hbase : 1 < base) (hle : base ≤ 16) (n : Nat) :
    readBase base (Nat.toDigits base n) = some n := by
  have hread := readOnto_toDigits hbase (fun d hd => hexValue_digitChar (Nat.lt_of_lt_of_le hd hle)) n
  cases hdigits : Nat.toDigits base n with
  | nil => exact absurd hdigits (toDigits_ne_nil hbase)
  | cons c cs => rwa [hdigits] at hread

/-- A decimal number is read as itself. -/
theorem read_toDigits (n : Nat) : read (Nat.toDigits 10 n) = some n := by
  have hread := readOnto_toDigits (by decide) (fun d hd => digitValue_digitChar hd) n
  cases hdigits : Nat.toDigits 10 n with
  | nil => exact absurd hdigits (toDigits_ne_nil (by decide))
  | cons c cs => rwa [hdigits] at hread

/-- A numeral denotes a number that its digits suffice for. -/
theorem readOnto_lt {m : Nat} {cs : List Char} (h : readOnto base value m cs = some n) :
    n < (m + 1) * base ^ cs.length := by
  induction cs generalizing m with
  | nil =>
    obtain rfl := Option.some.inj h
    rw [List.length_nil, Nat.pow_zero, Nat.mul_one]
    exact Nat.lt_succ_self m
  | cons c cs ih =>
    rw [readOnto] at h
    split at h
    · next d _ =>
      split at h
      · next hd =>
        have hstep : base * m + d + 1 ≤ (m + 1) * base := by
          rw [Nat.succ_mul, Nat.mul_comm m base]
          omega
        calc n < (base * m + d + 1) * base ^ cs.length := ih h
          _ ≤ (m + 1) * base * base ^ cs.length := Nat.mul_le_mul_right _ hstep
          _ = (m + 1) * base ^ (c :: cs).length := by
            rw [List.length_cons, Nat.pow_succ, Nat.mul_assoc, Nat.mul_comm base]
      · cases h
    · cases h

theorem readBase_lt {cs : List Char} (h : readBase base cs = some n) : n < base ^ cs.length := by
  cases cs with
  | nil => cases h
  | cons c cs => simpa using readOnto_lt (m := 0) h

/-! ## Where a numeral ends -/

/-- Digits in front of a text that does not begin with one are taken off as they are. -/
theorem span_toDigits {p : Char → Bool} (hbase : 1 < base)
    (hp : ∀ d < base, p (Nat.digitChar d) = true) {rest : List Char}
    (hrest : ∀ c ∈ rest.head?, p c = false) (n : Nat) :
    (Nat.toDigits base n ++ rest).span p = (Nat.toDigits base n, rest) := by
  have hdigits : ∀ c ∈ Nat.toDigits base n, p c = true := fun c hc => by
    obtain ⟨d, hd, rfl⟩ := exists_of_mem_toDigits hbase hc
    exact hp d hd
  rw [List.span_eq_takeWhile_dropWhile, List.takeWhile_append_of_pos hdigits,
    List.dropWhile_append_of_pos hdigits]
  cases rest with
  | nil => simp
  | cons c rest => simp [hrest c rfl]

end TrafficGateway.Numeral
