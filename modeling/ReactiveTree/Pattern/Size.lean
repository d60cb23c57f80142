import ReactiveTree.Pattern.Basic

/-!
# How large a pattern is

A pattern is limited by the memory of two automata: one that matches it byte by byte from the end
of a text, and one that matches it from the start and marks its groups. A state takes 32 bytes, a
way out of a choice 4 and a range of bytes in a set 8. A repetition with bounds counts as often as
it would be written out, so that a short text can be too large a pattern.

Key definitions: `byteRanges`, `setSize`, `Shape`, `Pattern.shapes`, `Pattern.size`.
-/
namespace ReactiveTree.Pattern

open Text (CharSet)

/-! ### Characters as bytes -/

/-- A range of bytes or of code points, with both ends included. -/
abbrev Range := Nat × Nat

/-- The bytes of a code point in UTF-8, where all but the first take six bits each. -/
def bytesOf (length n : Nat) : List Nat :=
  let lead : Nat :=
    if length = 1 then 0 else if length = 2 then 0xc0 else if length = 3 then 0xe0 else 0xf0
  let rec go : Nat → Nat → List Nat → List Nat
    | 0, n, later => (lead + n) :: later
    | k + 1, n, later => go k (n / 64) ((0x80 + n % 64) :: later)
  go (length - 1) n []

/-- The code points whose encodings have a length, for every length. -/
def lengthRanges : List (Nat × Range) :=
  [(1, 0, 0x7f), (2, 0x80, 0x7ff), (3, 0x800, 0xd7ff), (3, 0xe000, 0xffff), (4, 0x10000, 0x10ffff)]

/-- Divide a range of code points whose encodings differ in the last `k + 1` bytes only into parts
in which every byte runs through a range of its own. -/
def divide : Nat → Nat → Nat → List Range
  | 0, a, b => [(a, b)]
  | k + 1, a, b =>
    let block := Nat.pow 64 (k + 1)
    if a / block = b / block then divide k a b
    else
      let first := (a + block - 1) / block * block
      let last := (b + 1) / block * block
      (if a < first then divide k a (first - 1) else []) ++
        (if first < last then [(first, last - 1)] else []) ++
        (if last ≤ b then divide k last b else [])

/-- The sequences of ranges of bytes that encode a range of code points. -/
def byteRanges (a b : Nat) : List (List Range) :=
  lengthRanges.flatMap fun (length, low, high) =>
    let a := max a low
    let b := min b high
    if a ≤ b then
      (divide (length - 1) a b).map fun (x, y) => (bytesOf length x).zip (bytesOf length y)
    else []

/-- How many elements two sequences have in common at their starts. -/
def commonLength : List Range → List Range → Nat
  | a :: as, b :: bs => if a = b then commonLength as bs + 1 else 0
  | _, _ => 0

/-- How many elements ordered sequences have if what each has in common with the one before is not
counted again. -/
def treeSize (before : List Range) : List (List Range) → Nat
  | [] => 0
  | s :: rest => s.length - commonLength before s + treeSize s rest

/-- How many bytes encode a code point. -/
def encodedLength (n : Nat) : Nat :=
  if n < 0x80 then 1 else if n < 0x800 then 2 else if n < 0x10000 then 3 else 4

/-- The size of a set of characters. Read from its start, a set beyond ASCII shares most of its
states, and only two of them are counted. -/
def setSize (fromStart : Bool) (s : CharSet) : Nat :=
  let sequences : List (List Range) := s.ranges.flatMap fun r => byteRanges r.1 r.2
  match s.ranges with
  | [(a, b)] => if a = b then 32 * encodedLength a else general sequences
  | _ => general sequences
where
  general (sequences : List (List Range)) : Nat :=
    if s.ranges.all fun r => r.2 < 0x80 then 64 + 8 * s.ranges.length
    else if fromStart then 64
    else 32 * (treeSize [] sequences + 2) + 4 * sequences.length

/-! ### The shape of a pattern -/

/-- What becomes of a part of a pattern. -/
inductive Shape where
  /-- It leaves no trace in a sequence. -/
  | nothing
  | set (s : CharSet)
  /-- A choice between parts of the given sizes. -/
  | choice (sizes : List Nat)
  | other (size : Nat)

namespace Shape

def size (fromStart : Bool) : Shape → Nat
  | nothing => 32
  | set s => setSize fromStart s
  | choice sizes => 64 + 4 * sizes.length + sizes.foldl (· + ·) 0
  | other n => n

/-- One part after another. -/
def seq (fromStart : Bool) : Shape → Shape → Shape
  | nothing, t => t
  | s, nothing => s
  | s, t => other (s.size fromStart + t.size fromStart)

/-- The union of parts that all are sets. -/
def union? : List Shape → Option CharSet
  | [] => some .empty
  | set s :: rest => (union? rest).map s.union
  | _ :: _ => none

/-- A choice between parts; sets become one set, and the parts of a choice are parts of the choice
around it. -/
def ofAlternatives (fromStart : Bool) : List Shape → Shape
  | [s] => s
  | parts =>
    match union? parts with
    | some s => set s
    | none => choice <| parts.flatMap fun
      | choice sizes => sizes
      | s => [s.size fromStart]

end Shape

/-- Only the empty text matches. -/
def isOnlyEmpty : Pattern → Bool
  | empty | anchor _ => true
  | chars _ => false
  | seq p q | either p q => p.isOnlyEmpty && q.isOnlyEmpty
  | group p => p.isOnlyEmpty
  | repeated p _ most => p.isOnlyEmpty || most == some 0

/-- The empty text matches somewhere. -/
def matchesEmpty : Pattern → Bool
  | empty | anchor _ => true
  | chars _ => false
  | seq p q => p.matchesEmpty && q.matchesEmpty
  | either p q => p.matchesEmpty || q.matchesEmpty
  | group p => p.matchesEmpty
  | repeated p least _ => least == 0 || p.matchesEmpty

/-- The size of a repetition of a part of size `n`. -/
def repeatedSize (n : Nat) (partMatchesEmpty : Bool) (least : Nat) : Option Nat → Nat
  | none =>
    if least = 0 then if partMatchesEmpty then n + 112 else n + 40
    else least * n + 40
  | some most =>
    if least = 0 && most = 1 then n + 72
    else if least = most then least * n
    else max (least * n) 32 + (most - least) * (n + 40) + 32

/-- The shapes of the alternatives of a pattern. -/
def shapes (fromStart : Bool) : Pattern → List Shape
  | empty => [.nothing]
  | chars s => [.set s]
  | anchor _ => [.other 32]
  | seq p q =>
    [.seq fromStart (.ofAlternatives fromStart (p.shapes fromStart))
      (.ofAlternatives fromStart (q.shapes fromStart))]
  | either p q => .ofAlternatives fromStart (p.shapes fromStart) :: q.shapes fromStart
  | group p =>
    let n := (Shape.ofAlternatives fromStart (p.shapes fromStart)).size fromStart
    [.other (if fromStart then n + 64 else n)]
  | repeated p least most =>
    let s := Shape.ofAlternatives fromStart (p.shapes fromStart)
    -- what matches the empty text only is not repeated
    let (least, most) : Nat × Option Nat :=
      if p.isOnlyEmpty then (min least 1, some (min (most.getD 1) 1)) else (least, most)
    if most = some 0 then [.nothing]
    else if least = 1 && most = some 1 then [s]
    else [.other (repeatedSize (s.size fromStart) p.matchesEmpty least most)]

/-- The memory that a pattern takes in bytes, with the states before and after it. -/
def size (p : Pattern) : Nat :=
  let part (fromStart : Bool) : Nat :=
    (Shape.ofAlternatives fromStart (p.shapes fromStart)).size fromStart
  max (part false + 144) (part true + 208)

end ReactiveTree.Pattern
