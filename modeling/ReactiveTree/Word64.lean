/-
# Whole numbers of 64 bits

A word of 64 bits is read in two ways: as a number from zero, and as an integer whose first
bit is the sign. Both readings bound what the texts of the program may write.

Key definitions: `Word64.count`, `Word64.inRange`, `Word64.ofBits`, `Word64.toBits`.
-/
namespace ReactiveTree.Word64

/-- The number of words, one more than the greatest of them. -/
def count : Nat := 0x10000000000000000

/-- The least integer of a word. -/
def minInt : Int := -0x8000000000000000

/-- The greatest integer of a word. -/
def maxInt : Int := 0x7fffffffffffffff

/-- The number is the integer of a word. -/
def inRange (n : Int) : Bool := minInt ≤ n && n ≤ maxInt

/-- The integer of the word with these bits; those above the word are dropped. -/
def ofBits (n : Nat) : Int :=
  let m : Nat := n % count
  if m < 0x8000000000000000 then m else (m : Int) - count

/-- The bits of the word of an integer. -/
def toBits (n : Int) : Nat := (n % count).toNat

end ReactiveTree.Word64
