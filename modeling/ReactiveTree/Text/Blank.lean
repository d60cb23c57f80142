/-
# White space

The characters with the White_Space property, and the removal of leading and
trailing white space from a text.

Key definitions: `isBlank`, `trim`.
-/
namespace ReactiveTree.Text

/-- The characters with the White_Space property. -/
def isBlank (c : Char) : Bool :=
  let n := c.toNat
  (9 ≤ n && n ≤ 13) || n == 0x20 || n == 0x85 || n == 0xa0 || n == 0x1680 ||
    (0x2000 ≤ n && n ≤ 0x200a) || n == 0x2028 || n == 0x2029 || n == 0x202f || n == 0x205f ||
    n == 0x3000

/-- The list without its leading blanks. -/
def trimStart (cs : List Char) : List Char := cs.dropWhile isBlank

/-- The list without its trailing blanks. -/
def trimEnd (cs : List Char) : List Char := (cs.reverse.dropWhile isBlank).reverse

/-- The text without leading and trailing white space. -/
def trim (s : String) : String := String.ofList (trimEnd (trimStart s.toList))

end ReactiveTree.Text
