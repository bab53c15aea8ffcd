/-!
# Hash functions

The hash functions that sticky routing and traffic buckets are built on, over sequences of bytes.

## Main definitions

* `crc32`: the cyclic redundancy check with the reflected polynomial `0xEDB88320`.
* `murmur3`: the 32-bit Murmur3 hash with seed zero.
* `fnv1a`: the 64-bit FNV-1a hash.
* `HashFunction`: a choice among them, and `HashFunction.digest` what it computes.
-/

namespace TrafficGateway

/-! ### Cyclic redundancy check -/

namespace Crc32

/-- One bit of polynomial division: shift right, and subtract the polynomial when a one falls
out. -/
def shift (c : UInt32) : UInt32 :=
  if c &&& 1 = 1 then (c >>> 1) ^^^ 0xEDB88320 else c >>> 1

/-- Eight bits of polynomial division. -/
def shift8 (c : UInt32) : UInt32 :=
  shift (shift (shift (shift (shift (shift (shift (shift c)))))))

/-- Feeds one byte into the remainder. -/
def feed (c : UInt32) (b : UInt8) : UInt32 :=
  shift8 (c ^^^ b.toUInt32)

end Crc32

/-- The cyclic redundancy check of a sequence of bytes: the remainder starts as all ones and is
complemented at the end. -/
def crc32 (bytes : List UInt8) : UInt32 :=
  bytes.foldl Crc32.feed 0xFFFFFFFF ^^^ 0xFFFFFFFF

-- The check value of the standard, which is that of the digits from one to nine.
example : crc32 [0x31, 0x32, 0x33, 0x34, 0x35, 0x36, 0x37, 0x38, 0x39] = 0xCBF43926 := by
  decide +kernel

/-! ### Murmur3 -/

namespace Murmur3

/-- Rotation to the left by `k` bits, for `k` between 1 and 31. -/
def rotateLeft (x k : UInt32) : UInt32 :=
  (x <<< k) ||| (x >>> (32 - k))

/-- The scrambling of one block. -/
def scramble (k : UInt32) : UInt32 :=
  rotateLeft (k * 0xcc9e2d51) 15 * 0x1b873593

/-- Four bytes as a word, the lowest byte first. -/
def word (a b c d : UInt8) : UInt32 :=
  a.toUInt32 ||| (b.toUInt32 <<< 8) ||| (c.toUInt32 <<< 16) ||| (d.toUInt32 <<< 24)

-- Irreducible, so that the equations of `mix` are found without a look into this arithmetic.
/-- Mixes one block into the state. -/
@[irreducible] def mixBlock (h k : UInt32) : UInt32 :=
  rotateLeft (h ^^^ scramble k) 13 * 5 + 0xe6546b64

/-- Mixes the bytes into the state, in blocks of four; what is left over counts as a block filled
up with zeros that is not spread any further. -/
def mix (h : UInt32) : List UInt8 → UInt32
  | a :: b :: c :: d :: rest => mix (mixBlock h (word a b c d)) rest
  | [a, b, c] => h ^^^ scramble (word a b c 0)
  | [a, b] => h ^^^ scramble (word a b 0 0)
  | [a] => h ^^^ scramble (word a 0 0 0)
  | [] => h

/-- The final avalanche. -/
def finish (h : UInt32) : UInt32 :=
  let h := (h ^^^ (h >>> 16)) * 0x85ebca6b
  let h := (h ^^^ (h >>> 13)) * 0xc2b2ae35
  h ^^^ (h >>> 16)

end Murmur3

/-- The 32-bit Murmur3 hash of a sequence of bytes, with seed zero. -/
def murmur3 (bytes : List UInt8) : UInt32 :=
  Murmur3.finish (Murmur3.mix 0 bytes ^^^ UInt32.ofNat bytes.length)

/-! ### FNV-1a -/

namespace Fnv1a

/-- Feeds one byte into the state. -/
def feed (h : UInt64) (b : UInt8) : UInt64 :=
  (h ^^^ b.toUInt64) * 1099511628211

end Fnv1a

/-- The 64-bit FNV-1a hash of a sequence of bytes. -/
def fnv1a (bytes : List UInt8) : UInt64 :=
  bytes.foldl Fnv1a.feed 14695981039346656037

/-! ### The choice of a function -/

/-- The hash functions that sticky routing can use. -/
inductive HashFunction where
  | crc32
  | murmur3
  | fnv1a
  deriving DecidableEq, Repr, Inhabited

namespace HashFunction

/-- The hash of a sequence of bytes, widened to 64 bits. -/
def digest : HashFunction → List UInt8 → UInt64
  | .crc32, bytes => (TrafficGateway.crc32 bytes).toUInt64
  | .murmur3, bytes => (TrafficGateway.murmur3 bytes).toUInt64
  | .fnv1a, bytes => TrafficGateway.fnv1a bytes

/-- The hash of the UTF-8 form of a text. -/
def digestText (f : HashFunction) (s : String) : UInt64 :=
  f.digest s.toUTF8.toList

end HashFunction

end TrafficGateway
