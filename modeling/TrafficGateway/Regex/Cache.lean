import TrafficGateway.Regex.Engine

/-!
# The cache of regular expressions

Compiled patterns are kept for reuse, up to a number of them; when there is no room the one that was
asked for the longest time ago is given up. Texts that are no patterns are kept as well.

## Main definitions

* `RegexSlot`: what compiling a text gave.
* `RegexCache`: the slots, the one that was asked for last first.
* `RegexCache.get`: the slot of a text, and the cache after it was asked for.
-/

namespace TrafficGateway

/-- What compiling a text gave, and how many compilations came before. -/
structure RegexSlot [RegexEngine] where
  text : String
  serial : Nat
  regex : Option RegexEngine.Compiled
  regex_eq : regex = RegexEngine.read text

/-- A cache of at most `capacity` slots, the one that was asked for last first, and the number of
compilations so far. -/
structure RegexCache [RegexEngine] where
  capacity : Nat
  slots : List RegexSlot
  compilations : Nat
  capacity_pos : 0 < capacity
  length_le : slots.length ≤ capacity

namespace RegexCache

/-- The number of patterns that a gateway keeps. -/
def defaultCapacity : Nat := 256

variable [RegexEngine]

/-- The empty cache. A capacity of zero counts as one. -/
def ofCapacity (capacity : Nat) : RegexCache where
  capacity := max capacity 1
  slots := []
  compilations := 0
  capacity_pos := by omega
  length_le := by simp

/-- The empty cache of a gateway. -/
def empty : RegexCache :=
  ofCapacity defaultCapacity

instance : Inhabited RegexCache := ⟨empty⟩

/-- The number of slots. -/
def size (c : RegexCache) : Nat :=
  c.slots.length

/-- The slot of a text, if there is one. -/
def find? (c : RegexCache) (text : String) : Option RegexSlot :=
  c.slots.find? fun s => s.text = text

/-- Moves the slot of a text, which must be there, to the front. -/
def touch (c : RegexCache) (slot : RegexSlot) (h : slot ∈ c.slots) : RegexCache :=
  { c with
    slots := slot :: c.slots.filter fun s => s.text ≠ slot.text
    length_le := by
      have hlt : (c.slots.filter fun s => s.text ≠ slot.text).length < c.slots.length :=
        List.length_filter_lt_length_iff_exists.2 ⟨slot, h, by simp⟩
      have := c.length_le
      simp only [List.length_cons]
      omega }

/-- Puts a new slot to the front, and gives up the last slots if there is no room. -/
def enter (c : RegexCache) (slot : RegexSlot) : RegexCache :=
  { c with
    slots := (slot :: c.slots).take c.capacity
    compilations := c.compilations + 1
    length_le := List.length_take_le _ _ }

/-- The slot of a text, which is compiled if it is not there, and the cache after it was asked
for. -/
def get (c : RegexCache) (text : String) : RegexSlot × RegexCache :=
  match h : c.find? text with
  | some slot => (slot, c.touch slot (List.mem_of_find?_eq_some h))
  | none =>
    let slot : RegexSlot := ⟨text, c.compilations, RegexEngine.read text, rfl⟩
    (slot, c.enter slot)

end RegexCache

end TrafficGateway
