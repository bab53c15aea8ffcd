import Mathlib.Data.Nat.Bitwise
import Mathlib.Logic.ExistsUnique
import Mathlib.Logic.Function.Iterate
import Mathlib.Tactic.Ring
import TrafficGateway.Hash

/-!
# Keys that differ in one byte

The hash functions are built from steps that can be undone: words are xored, rotated, shifted onto
themselves, and multiplied by odd numbers. So no step forgets the state in which the bytes before it
have left the hash, and keys of one length that differ in a single byte are told apart from this byte on,
up to the final hash (`HashFunction.digest_ne_of_one_byte`).

Two of the hash functions are fed byte by byte, and for these it is enough that feeding is injective in
the state and in the byte (`OneApart.foldl_feed_ne`). Murmur3 takes four bytes at once and then what is
left over. Both are read as numbers with the lowest byte first, where every byte counts and none counts
twice (`Murmur3.block`), so that the induction goes from block to block.

## Main definitions

* `OneApart`: two keys of one length differ in one place.
* `littleEndian`: bytes as a number.
* `Murmur3.block`: the next bytes of a key as a word.
-/

namespace TrafficGateway

open Function

/-! ## Keys -/

/-- Two keys of one length differ in one place. -/
inductive OneApart : List UInt8 → List UInt8 → Prop where
  | here {a b : UInt8} (hne : a ≠ b) (rest : List UInt8) : OneApart (a :: rest) (b :: rest)
  | there (a : UInt8) {xs ys : List UInt8} (h : OneApart xs ys) : OneApart (a :: xs) (a :: ys)

namespace OneApart

/-- There is one place only where the keys do not hold the same. -/
theorem of_existsUnique : ∀ {xs ys : List UInt8}, xs.length = ys.length →
    (∃! i : Nat, xs[i]? ≠ ys[i]?) → OneApart xs ys
  | [], [], _, ⟨_, hi, _⟩ => absurd rfl hi
  | a :: xs, b :: ys, _, ⟨0, hi, honly⟩ => by
    have hrest : xs = ys := List.ext_getElem? fun j => by
      by_contra hj
      exact absurd (honly (j + 1) hj) (Nat.succ_ne_zero j)
    rw [hrest]
    exact .here (fun hab => hi (congrArg some hab)) ys
  | a :: xs, b :: ys, hlength, ⟨i + 1, hi, honly⟩ => by
    have hhead : a = b := by
      by_contra hab
      exact absurd (honly 0 fun h => hab (Option.some.inj h)) (Nat.succ_ne_zero i).symm
    rw [hhead]
    exact .there b (of_existsUnique (Nat.succ.inj hlength)
      ⟨i, hi, fun j hj => Nat.succ.inj (honly (j + 1) hj)⟩)

variable {xs ys : List UInt8}

theorem length_eq (h : OneApart xs ys) : xs.length = ys.length := by
  induction h with
  | here hne rest => rfl
  | there a h ih => exact congrArg Nat.succ ih

/-- The place is among the first bytes or behind them. -/
theorem take_or_drop (h : OneApart xs ys) (n : Nat) :
    (OneApart (xs.take n) (ys.take n) ∧ xs.drop n = ys.drop n) ∨
      (xs.take n = ys.take n ∧ OneApart (xs.drop n) (ys.drop n)) := by
  induction h generalizing n with
  | here hne rest =>
    cases n with
    | zero => exact .inr ⟨rfl, .here hne rest⟩
    | succ n => exact .inl ⟨.here hne (rest.take n), rfl⟩
  | there a h ih =>
    cases n with
    | zero => exact .inr ⟨rfl, .there a h⟩
    | succ n =>
      rcases ih n with ⟨hfront, hrest⟩ | ⟨hfront, hrest⟩
      · exact .inl ⟨.there a hfront, hrest⟩
      · exact .inr ⟨congrArg (a :: ·) hfront, hrest⟩

end OneApart

/-- Bytes as a number, the lowest one first. -/
def littleEndian : List UInt8 → Nat
  | [] => 0
  | b :: bytes => b.toNat + 256 * littleEndian bytes

theorem littleEndian_lt (bytes : List UInt8) : littleEndian bytes < 256 ^ bytes.length := by
  induction bytes with
  | nil => exact Nat.one_pos
  | cons b bytes ih =>
    have hb : b.toNat < 256 := b.toNat_lt
    rw [littleEndian, List.length_cons, Nat.pow_succ]
    omega

theorem littleEndian_concat (bytes : List UInt8) (b : UInt8) :
    littleEndian (bytes ++ [b]) = littleEndian bytes + 256 ^ bytes.length * b.toNat := by
  induction bytes with
  | nil => simp [littleEndian]
  | cons a bytes ih =>
    rw [List.cons_append, littleEndian, ih, littleEndian, List.length_cons, Nat.pow_succ']
    ring

theorem OneApart.littleEndian_ne {xs ys : List UInt8} (h : OneApart xs ys) :
    littleEndian xs ≠ littleEndian ys := by
  induction h with
  | here hne rest =>
    rw [littleEndian, littleEndian, Ne, Nat.add_right_cancel_iff]
    exact fun heq => hne (UInt8.toNat_inj.1 heq)
  | there a h ih =>
    rw [littleEndian, littleEndian]
    omega

/-! ## Hashes that are fed with bytes -/

section Feed

variable {σ : Type} {feed : σ → UInt8 → σ}

theorem foldl_feed_injective (hstate : ∀ b, Injective (feed · b)) (bytes : List UInt8) :
    Injective fun s => bytes.foldl feed s := by
  induction bytes with
  | nil => exact injective_id
  | cons b bytes ih => exact ih.comp (hstate b)

/-- If feeding a byte forgets neither the state nor the byte, keys that are one byte apart lead to
different states. -/
theorem OneApart.foldl_feed_ne {xs ys : List UInt8} (h : OneApart xs ys)
    (hstate : ∀ b, Injective (feed · b)) (hbyte : ∀ s, Injective (feed s)) (s : σ) :
    xs.foldl feed s ≠ ys.foldl feed s := by
  induction h generalizing s with
  | here hne rest => exact fun heq => hne (hbyte s (foldl_feed_injective hstate rest heq))
  | there a h ih => exact ih (feed s a)

end Feed

/-! ### Cyclic redundancy check -/

namespace Crc32

theorem toNat_half (c : UInt32) : (c >>> 1).toNat = c.toNat / 2 := by
  rw [UInt32.toNat_shiftRight, Nat.shiftRight_eq_div_pow]
  rfl

theorem and_one_eq_one_iff (c : UInt32) : c &&& 1 = 1 ↔ c.toNat % 2 = 1 := by
  rw [← UInt32.toNat_inj, UInt32.toNat_and]
  exact iff_of_eq (congrArg (· = 1) (Nat.and_one_is_mod _))

theorem eq_of_half_eq {x y : UInt32} (hhalf : x >>> 1 = y >>> 1)
    (hodd : x &&& 1 = 1 ↔ y &&& 1 = 1) : x = y := by
  have hnat := congrArg UInt32.toNat hhalf
  rw [toNat_half, toNat_half] at hnat
  rw [and_one_eq_one_iff, and_one_eq_one_iff] at hodd
  rw [← UInt32.toNat_inj]
  omega

/-- The polynomial sets the highest bit, which is clear after a shift. -/
theorem half_xor_ne_half (x y : UInt32) : (x >>> 1) ^^^ (0xEDB88320 : UInt32) ≠ y >>> 1 := by
  intro h
  have hlt : ∀ c : UInt32, (c >>> 1).toNat < 2 ^ 31 := fun c => by
    have := c.toNat_lt
    rw [toNat_half]
    omega
  have hxor : (x >>> 1) ^^^ (y >>> 1) = 0xEDB88320 := by
    rw [← h, ← UInt32.xor_assoc, UInt32.xor_self, UInt32.zero_xor]
  have hbelow := Nat.xor_lt_two_pow (hlt x) (hlt y)
  rw [← UInt32.toNat_xor, hxor] at hbelow
  exact absurd hbelow (by decide)

theorem shift_injective : Injective shift := by
  intro x y hxy
  unfold shift at hxy
  by_cases hx : x &&& 1 = 1 <;> by_cases hy : y &&& 1 = 1
  · rw [if_pos hx, if_pos hy, UInt32.xor_left_inj] at hxy
    exact eq_of_half_eq hxy (iff_of_true hx hy)
  · rw [if_pos hx, if_neg hy] at hxy
    exact absurd hxy (half_xor_ne_half x y)
  · rw [if_neg hx, if_pos hy] at hxy
    exact absurd hxy.symm (half_xor_ne_half y x)
  · rw [if_neg hx, if_neg hy] at hxy
    exact eq_of_half_eq hxy (iff_of_false hx hy)

theorem shift8_injective : Injective shift8 :=
  shift_injective.iterate 8

theorem feed_injective_state (b : UInt8) : Injective (feed · b) :=
  fun _ _ h => (UInt32.xor_left_inj _).1 (shift8_injective h)

theorem feed_injective_byte (c : UInt32) : Injective (feed c) :=
  fun _ _ h => UInt8.toUInt32_inj.1 ((UInt32.xor_right_inj _).1 (shift8_injective h))

end Crc32

theorem OneApart.crc32_ne {xs ys : List UInt8} (h : OneApart xs ys) : crc32 xs ≠ crc32 ys :=
  fun heq => h.foldl_feed_ne Crc32.feed_injective_state Crc32.feed_injective_byte _
    ((UInt32.xor_left_inj _).1 heq)

/-! ### FNV-1a -/

namespace Fnv1a

/-- The prime is odd, so multiplying by it can be undone. -/
theorem mul_prime_injective : Injective fun x : UInt64 => x * 1099511628211 :=
  LeftInverse.injective (g := fun x => x * 0xce965057aff6957b) fun x => by
    show x * 1099511628211 * 0xce965057aff6957b = x
    rw [UInt64.mul_assoc]
    exact UInt64.mul_one x

theorem feed_injective_state (b : UInt8) : Injective (feed · b) :=
  fun _ _ h => (UInt64.xor_left_inj _).1 (mul_prime_injective h)

theorem feed_injective_byte (s : UInt64) : Injective (feed s) :=
  fun _ _ h => UInt8.toUInt64_inj.1 ((UInt64.xor_right_inj _).1 (mul_prime_injective h))

end Fnv1a

theorem OneApart.fnv1a_ne {xs ys : List UInt8} (h : OneApart xs ys) : fnv1a xs ≠ fnv1a ys :=
  h.foldl_feed_ne Fnv1a.feed_injective_state Fnv1a.feed_injective_byte _

/-! ## Murmur3 -/

namespace Murmur3

/-! ### Steps on words -/

/-- A factor that has an inverse, as every odd one does, can be divided by. -/
theorem mul_injective {c d : UInt32} (hc : c * d = 1) : Injective fun x : UInt32 => x * c :=
  LeftInverse.injective (g := fun x => x * d) fun x => by
    show x * c * d = x
    rw [UInt32.mul_assoc, hc, UInt32.mul_one]

/-- If two words become the same by xoring each with a shift of itself, what they differ in is a shift of
itself, hence zero. -/
theorem xor_shiftRight_injective {k : UInt32} (hk : k.toNat % 32 ≠ 0) :
    Injective fun x : UInt32 => x ^^^ (x >>> k) := by
  intro x y hxy
  have hzero : x ^^^ (x >>> k) ^^^ (y ^^^ (y >>> k)) = 0 := UInt32.xor_eq_zero_iff.2 hxy
  have hshift : x ^^^ y = (x ^^^ y) >>> k := by
    rw [UInt32.shiftRight_xor, ← UInt32.xor_eq_zero_iff, ← hzero]
    ac_rfl
  have hdiv := congrArg UInt32.toNat hshift
  rw [UInt32.toNat_shiftRight, Nat.shiftRight_eq_div_pow] at hdiv
  have hnone : (x ^^^ y).toNat = 0 := by
    by_contra hne
    have := Nat.div_lt_self (Nat.pos_of_ne_zero hne) (Nat.one_lt_two_pow hk)
    omega
  exact UInt32.xor_eq_zero_iff.1 (UInt32.toNat_inj.1 hnone)

section Rotation

variable {k : UInt32} (hpos : 0 < k.toNat) (hlt : k.toNat < 32)
include hlt

theorem toNat_turn_sub : (32 - k).toNat = 32 - k.toNat :=
  UInt32.toNat_sub_of_le _ _ (UInt32.le_iff_toNat_le.2 hlt.le)

/-- The bits that a rotation moves down to the end. -/
theorem high_lt (x : UInt32) : x.toNat / 2 ^ (32 - k.toNat) < 2 ^ k.toNat := by
  rw [Nat.div_lt_iff_lt_mul (Nat.two_pow_pos _), ← Nat.pow_add, Nat.add_sub_cancel' hlt.le]
  exact x.toNat_lt

include hpos

theorem toNat_rotateLeft (x : UInt32) :
    (rotateLeft x k).toNat =
      x.toNat % 2 ^ (32 - k.toNat) * 2 ^ k.toNat + x.toNat / 2 ^ (32 - k.toNat) := by
  have hsplit : 2 ^ (32 - k.toNat) * 2 ^ k.toNat = 2 ^ 32 := by
    rw [← Nat.pow_add, Nat.sub_add_cancel hlt.le]
  rw [rotateLeft, UInt32.toNat_or, UInt32.toNat_shiftLeft, UInt32.toNat_shiftRight, toNat_turn_sub hlt,
    Nat.mod_eq_of_lt hlt, Nat.mod_eq_of_lt (by omega : 32 - k.toNat < 32), Nat.shiftLeft_eq,
    ← hsplit, Nat.mul_mod_mul_right, Nat.shiftRight_eq_div_pow, ← Nat.shiftLeft_eq,
    ← Nat.shiftLeft_add_eq_or_of_lt (high_lt hlt x)]

/-- The rest of a full turn undoes a rotation. -/
theorem rotateLeft_rotateLeft (x : UInt32) : rotateLeft (rotateLeft x k) (32 - k) = x := by
  have hsub := toNat_turn_sub hlt
  have hhigh := high_lt hlt x
  rw [← UInt32.toNat_inj, toNat_rotateLeft (by omega) (by omega), hsub, Nat.sub_sub_self hlt.le,
    toNat_rotateLeft hpos hlt, Nat.mul_add_mod_of_lt hhigh, Nat.mul_comm (_ % _),
    Nat.mul_add_div (Nat.two_pow_pos _), Nat.div_eq_of_lt hhigh, Nat.add_zero, Nat.div_add_mod']

theorem rotateLeft_injective : Injective (rotateLeft · k) :=
  LeftInverse.injective (g := (rotateLeft · (32 - k))) (rotateLeft_rotateLeft hpos hlt)

end Rotation

theorem scramble_injective : Injective scramble :=
  (mul_injective (d := 0x56ed309b) rfl).comp <|
    (rotateLeft_injective (k := 15) (by decide) (by decide)).comp <|
      mul_injective (d := 0xdee13bb1) rfl

theorem mixBlock_eq_iff {s t k l : UInt32} :
    mixBlock s k = mixBlock t l ↔ s ^^^ scramble k = t ^^^ scramble l := by
  have hspread : Injective fun x : UInt32 => rotateLeft x 13 * 5 :=
    (mul_injective (d := 0xcccccccd) rfl).comp <|
      rotateLeft_injective (k := 13) (by decide) (by decide)
  unfold mixBlock
  rw [UInt32.add_left_inj]
  exact hspread.eq_iff

theorem finish_injective : Injective finish :=
  (xor_shiftRight_injective (k := 16) (by decide)).comp <|
    (mul_injective (d := 0x7ed1b41d) rfl).comp <|
      (xor_shiftRight_injective (k := 13) (by decide)).comp <|
        (mul_injective (d := 0xa5cb9243) rfl).comp <|
          xor_shiftRight_injective (k := 16) (by decide)

/-! ### Blocks -/

/-- The next four bytes of a key as a word, or what is left of the key. -/
def block (bytes : List UInt8) : UInt32 :=
  .ofNat (littleEndian (bytes.take 4))

/-- A byte that differs makes a block differ. -/
theorem block_ne {xs ys : List UInt8} (h : OneApart (xs.take 4) (ys.take 4)) :
    block xs ≠ block ys := by
  have hlt : ∀ bytes : List UInt8, littleEndian (bytes.take 4) < UInt32.size := fun bytes =>
    Nat.lt_of_lt_of_le (littleEndian_lt _)
      (Nat.pow_le_pow_right (by decide) (List.length_take_le 4 bytes))
  intro heq
  have hnat := congrArg UInt32.toNat heq
  rw [block, block, UInt32.toNat_ofNat_of_lt' (hlt xs), UInt32.toNat_ofNat_of_lt' (hlt ys)] at hnat
  exact h.littleEndian_ne hnat

/-- One more byte on top of those that a word holds. -/
theorem toNat_or_byte {w k : UInt32} {bytes : List UInt8} (b : UInt8)
    (hw : w.toNat = littleEndian bytes) (hroom : bytes.length < 4)
    (hk : k.toNat = 8 * bytes.length) :
    (w ||| (b.toUInt32 <<< k)).toNat = littleEndian (bytes ++ [b]) := by
  have hpow : 256 ^ bytes.length = 2 ^ k.toNat := by rw [hk, Nat.pow_mul]
  have hlow : w.toNat < 2 ^ k.toNat := by
    rw [hw, ← hpow]
    exact littleEndian_lt bytes
  have hfits : b.toNat <<< k.toNat < 2 ^ 32 := by
    have hb : b.toNat ≤ 255 := Nat.le_of_lt_succ b.toNat_lt
    have hk24 : 2 ^ k.toNat ≤ 2 ^ 24 := Nat.pow_le_pow_right (by decide) (by omega)
    calc b.toNat <<< k.toNat = b.toNat * 2 ^ k.toNat := Nat.shiftLeft_eq ..
      _ ≤ 255 * 2 ^ 24 := Nat.mul_le_mul hb hk24
      _ < 2 ^ 32 := by decide
  rw [littleEndian_concat, ← hw, hpow, UInt32.toNat_or, UInt32.toNat_shiftLeft,
    UInt8.toNat_toUInt32, Nat.mod_eq_of_lt (by omega : k.toNat < 32), Nat.mod_eq_of_lt hfits,
    Nat.or_comm, ← Nat.shiftLeft_add_eq_or_of_lt hlow, Nat.shiftLeft_eq, Nat.add_comm, Nat.mul_comm]

theorem toNat_word (a b c d : UInt8) : (word a b c d).toNat = littleEndian [a, b, c, d] := by
  have one : a.toUInt32.toNat = littleEndian [a] := a.toNat_toUInt32
  have two := toNat_or_byte (k := 8) b one (by simp) rfl
  have three := toNat_or_byte (k := 16) c two (by simp) rfl
  exact toNat_or_byte (k := 24) d three (by simp) rfl

theorem block_of_four (a b c d : UInt8) (rest : List UInt8) :
    block (a :: b :: c :: d :: rest) = word a b c d := by
  show UInt32.ofNat (littleEndian [a, b, c, d]) = word a b c d
  rw [← toNat_word, UInt32.ofNat_toNat]

/-- Zeros fill up a block without changing it. -/
theorem block_concat_zero (bytes : List UInt8) (h : bytes.length < 4) :
    block (bytes ++ [0]) = block bytes := by
  rw [block, block, List.take_of_length_le (by rw [List.length_append]; exact h),
    List.take_of_length_le h.le, littleEndian_concat]
  rfl

theorem block_of_three (a b c : UInt8) : block [a, b, c] = word a b c 0 :=
  (block_concat_zero [a, b, c] (by simp)).symm.trans (block_of_four a b c 0 [])

theorem block_of_two (a b : UInt8) : block [a, b] = word a b 0 0 :=
  (block_concat_zero [a, b] (by simp)).symm.trans (block_of_three a b 0)

theorem block_of_one (a : UInt8) : block [a] = word a 0 0 0 :=
  (block_concat_zero [a] (by simp)).symm.trans (block_of_two a 0)

/-! ### Mixing -/

theorem mix_of_four_le (s : UInt32) {bytes : List UInt8} (h : 4 ≤ bytes.length) :
    mix s bytes = mix (mixBlock s (block bytes)) (bytes.drop 4) := by
  match bytes, h with
  | a :: b :: c :: d :: rest, _ =>
    rw [mix, block_of_four]
    rfl

theorem mix_of_lt_four (s : UInt32) {bytes : List UInt8} (hne : bytes ≠ []) (h : bytes.length < 4) :
    mix s bytes = s ^^^ scramble (block bytes) := by
  match bytes, h with
  | [a], _ => rw [mix, block_of_one]
  | [a, b], _ => rw [mix, block_of_two]
  | [a, b, c], _ => rw [mix, block_of_three]

/-- A key is read block by block, up to what is left over. -/
theorem block_induction {P : List UInt8 → Prop} (nil : P [])
    (tail : ∀ bytes, bytes ≠ [] → bytes.length < 4 → P bytes)
    (block : ∀ bytes, 4 ≤ bytes.length → P (bytes.drop 4) → P bytes) (bytes : List UInt8) :
    P bytes := by
  induction hn : bytes.length using Nat.strong_induction_on generalizing bytes with
  | _ n ih =>
    subst hn
    by_cases hne : bytes = []
    · exact hne ▸ nil
    · by_cases hlt : bytes.length < 4
      · exact tail bytes hne hlt
      · refine block bytes (by omega) (ih _ ?_ _ rfl)
        rw [List.length_drop]
        omega

/-- The same bytes keep different states apart. -/
theorem mix_injective (bytes : List UInt8) : Injective (mix · bytes) := by
  induction bytes using block_induction with
  | nil => exact injective_id
  | tail bytes hne hlt =>
    intro s t hst
    simp only [mix_of_lt_four _ hne hlt] at hst
    exact (UInt32.xor_left_inj _).1 hst
  | block bytes hle ih =>
    intro s t hst
    simp only [mix_of_four_le _ hle] at hst
    exact (UInt32.xor_left_inj _).1 (mixBlock_eq_iff.1 (ih hst))

/-- Keys that are one byte apart lead from one state to different ones. -/
theorem mix_ne {xs ys : List UInt8} (h : OneApart xs ys) (s : UInt32) : mix s xs ≠ mix s ys := by
  induction xs using block_induction generalizing ys s with
  | nil => nomatch h
  | tail xs hne hlt =>
    have hlength := h.length_eq
    have hne' : ys ≠ [] := List.ne_nil_of_length_pos (hlength ▸ List.length_pos_iff.2 hne)
    rw [mix_of_lt_four s hne hlt, mix_of_lt_four s hne' (by omega), Ne, UInt32.xor_right_inj]
    refine fun heq => block_ne ?_ (scramble_injective heq)
    rwa [List.take_of_length_le (by omega), List.take_of_length_le (by omega)]
  | block xs hle ih =>
    rw [mix_of_four_le s hle, mix_of_four_le s (by rw [← h.length_eq]; exact hle)]
    rcases h.take_or_drop 4 with ⟨hfront, hrest⟩ | ⟨hfront, hrest⟩
    · -- The blocks differ, and what follows is the same.
      rw [hrest]
      intro heq
      have hblocks := mixBlock_eq_iff.1 (mix_injective _ heq)
      exact block_ne hfront (scramble_injective ((UInt32.xor_right_inj _).1 hblocks))
    · -- The blocks are the same, and the difference follows.
      rw [block, block, hfront]
      exact ih hrest _

end Murmur3

theorem OneApart.murmur3_ne {xs ys : List UInt8} (h : OneApart xs ys) : murmur3 xs ≠ murmur3 ys := by
  intro heq
  have hmix := Murmur3.finish_injective heq
  rw [h.length_eq, UInt32.xor_left_inj] at hmix
  exact Murmur3.mix_ne h 0 hmix

/-! ## All hash functions -/

/-- **Keys that are one byte apart never collide.** Whatever the hash function is, two keys of the same
length, however long they are, that differ in exactly one place have different hashes. -/
theorem HashFunction.digest_ne_of_one_byte (f : HashFunction) {xs ys : List UInt8}
    (hlength : xs.length = ys.length) (hbyte : ∃! i : Nat, xs[i]? ≠ ys[i]?) :
    f.digest xs ≠ f.digest ys := by
  have h : OneApart xs ys := .of_existsUnique hlength hbyte
  cases f with
  | crc32 => exact fun heq => h.crc32_ne (UInt32.toUInt64_inj.1 heq)
  | murmur3 => exact fun heq => h.murmur3_ne (UInt32.toUInt64_inj.1 heq)
  | fnv1a => exact h.fnv1a_ne

/-- The names `user-1` and `user-2` differ in the last of the two bytes behind a block. -/
theorem HashFunction.digest_ne_of_one_byte_users :
    let xs : List UInt8 := [0x75, 0x73, 0x65, 0x72, 0x2d, 0x31]
    let ys : List UInt8 := [0x75, 0x73, 0x65, 0x72, 0x2d, 0x32]
    xs.length = ys.length ∧ (∃! i : Nat, xs[i]? ≠ ys[i]?) ∧
      ∀ f : HashFunction, f.digest xs ≠ f.digest ys := by
  intro xs ys
  have hbyte : ∃! i : Nat, xs[i]? ≠ ys[i]? := by
    refine ⟨5, by decide, fun j hj => ?_⟩
    match j with
    | 0 | 1 | 2 | 3 | 4 => exact absurd rfl hj
    | 5 => rfl
    | _ + 6 => exact absurd rfl hj
  exact ⟨rfl, hbyte, fun f => f.digest_ne_of_one_byte rfl hbyte⟩

end TrafficGateway
