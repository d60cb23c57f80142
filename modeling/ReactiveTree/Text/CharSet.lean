/-
# Sets of characters

A set of characters is a list of ranges of code points. Written tables of the
character properties are texts such as `41-5a 61-7a aa`, read by `CharSet.ofText`.
The set operations work on ranges in ascending order that neither meet nor
overlap, which is what `CharSet.ofRanges` produces.

Key definitions: `CharSet`, `CharSet.contains`, `CharSet.ofText`, `CharSet.ofRanges`,
`CharSet.union`, `CharSet.compl`, `CharSet.inter`.
-/
namespace ReactiveTree.Text

/-- The value of a hexadecimal digit. -/
def hexDigit? (c : Char) : Option Nat :=
  if '0' ≤ c ∧ c ≤ '9' then some (c.toNat - 48)
  else if 'a' ≤ c ∧ c ≤ 'f' then some (c.toNat - 87)
  else if 'A' ≤ c ∧ c ≤ 'F' then some (c.toNat - 55)
  else none

/-- The number that hexadecimal digits write, most significant digit first. -/
def ofHexDigits? (cs : List Char) : Option Nat :=
  match cs with
  | [] => none
  | _ => cs.foldl (fun acc c => do return 16 * (← acc) + (← hexDigit? c)) (some 0)

/-- A set of characters, as ranges of code points with both ends included. -/
structure CharSet where
  ranges : List (Nat × Nat)
deriving Repr, DecidableEq, Inhabited

namespace CharSet

def empty : CharSet := ⟨[]⟩

/-- The last code point. -/
def maxCode : Nat := 0x10ffff

def full : CharSet := ⟨[(0, maxCode)]⟩

def singleton (c : Char) : CharSet := ⟨[(c.toNat, c.toNat)]⟩

def ofRange (a b : Char) : CharSet := ⟨[(a.toNat, b.toNat)]⟩

/-- Membership of a code point. -/
def containsCode (s : CharSet) (n : Nat) : Bool :=
  s.ranges.any fun r => decide (r.1 ≤ n) && decide (n ≤ r.2)

/-- Membership of a character. -/
def contains (s : CharSet) (c : Char) : Bool :=
  s.containsCode c.toNat

/-- Ranges in ascending order of their starts, with those that meet `(a, b)` or each other
joined. -/
def joinFrom (a b : Nat) : List (Nat × Nat) → List (Nat × Nat)
  | [] => [(a, b)]
  | (c, d) :: rest =>
    if c ≤ b + 1 then joinFrom a (max b d) rest else (a, b) :: joinFrom c d rest

/-- The set of the code points of ranges whose starts ascend. -/
def ofAscending : List (Nat × Nat) → CharSet
  | [] => empty
  | (a, b) :: rest => ⟨joinFrom a b rest⟩

/-- The set of the code points of some ranges. -/
def ofRanges (rs : List (Nat × Nat)) : CharSet :=
  ofAscending (rs.mergeSort fun r s => r.1 ≤ s.1)

def union (s t : CharSet) : CharSet :=
  ofAscending (s.ranges.merge t.ranges fun r s => r.1 ≤ s.1)

/-- The gaps between ascending ranges, from the code point `start` on. -/
def gaps (start : Nat) : List (Nat × Nat) → List (Nat × Nat)
  | [] => if start ≤ maxCode then [(start, maxCode)] else []
  | (a, b) :: rest =>
    if start < a then (start, a - 1) :: gaps (b + 1) rest else gaps (b + 1) rest

/-- Every character that is not in the set. -/
def compl (s : CharSet) : CharSet := ⟨gaps 0 s.ranges⟩

def inter (s t : CharSet) : CharSet := (s.compl.union t.compl).compl

def diff (s t : CharSet) : CharSet := s.inter t.compl

/-- The characters that are in exactly one of the two sets. -/
def symmDiff (s t : CharSet) : CharSet := (s.diff t).union (t.diff s)

/-- Read one entry of a table: `41` and `41-5a` are ranges, `100-12e/2` is every second code point
of one. -/
def readEntry (w : String) : List (Nat × Nat) :=
  let (range, step) := w.toList.span (· != '/')
  let (a, b) := range.span (· != '-')
  match ofHexDigits? a with
  | none => []
  | some first =>
    let last := (ofHexDigits? (b.drop 1)).getD first
    if step.isEmpty then [(first, last)]
    else (List.range ((last - first) / 2 + 1)).map fun k => (first + 2 * k, first + 2 * k)

/-- Split a text at spaces and line ends, without empty words. -/
def words (s : String) : List String :=
  (s.splitToList fun c => c == ' ' || c == '\n').filter (· != "")

/-- Read a table of ascending ranges. -/
def ofText (s : String) : CharSet :=
  ⟨(words s).flatMap readEntry⟩

end CharSet
end ReactiveTree.Text
