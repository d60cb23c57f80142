import ReactiveTree.Decimal.Shortest

/-!
# The written form of a double

Once the digits of a number are chosen, a `Layout` says how they are set out: where the
point goes, when an exponent is written instead, and the texts of the special values.

Key definitions: `Layout`, `Layout.write`.
-/
namespace ReactiveTree.Decimal

/-- The decisions of a number format. `e` is the decimal exponent of the leading digit. -/
structure Layout where
  /-- Exponents from here on are written positionally … -/
  plainFrom : Int
  /-- … up to below here. -/
  plainBelow : Int
  /-- `5.0` rather than `5`. -/
  pointZero : Bool
  /-- `1e+16` rather than `1e16`. -/
  exponentPlus : Bool
  /-- Minus signs are kept on zero. -/
  signedZero : Bool
  tie : Tie
  nan : String
  infinity : String
deriving Repr

/-- The decimal digits of a number. -/
def digitChars (n : Nat) : List Char := Nat.toDigits 10 n

/-- An integer in decimal, with a plus sign if asked for. -/
def exponentText (plus : Bool) (e : Int) : List Char :=
  if e < 0 then '-' :: digitChars e.natAbs
  else if plus then '+' :: digitChars e.natAbs
  else digitChars e.natAbs

/-- Digits with the point after the first `e + 1` of them. -/
def positional (pointZero : Bool) (ds : List Char) (e : Int) : List Char :=
  let n : Int := ds.length
  if e < 0 then '0' :: '.' :: List.replicate (-e - 1).toNat '0' ++ ds
  else if n ≤ e + 1 then
    ds ++ List.replicate (e + 1 - n).toNat '0' ++ (if pointZero then ['.', '0'] else [])
  else ds.take (e + 1).toNat ++ '.' :: ds.drop (e + 1).toNat

/-- Digits with the point after the first of them, and an exponent. -/
def scientific (plus : Bool) (ds : List Char) (e : Int) : List Char :=
  match ds with
  | [] => []
  | [d] => d :: 'e' :: exponentText plus e
  | d :: rest => d :: '.' :: rest ++ 'e' :: exponentText plus e

/-- A positive value in a layout. -/
def Layout.writePositive (l : Layout) (x : Dyadic) : List Char :=
  let d := shortest x l.tie
  let ds := digitChars d.digits
  let e := d.exponent + ds.length - 1
  if l.plainFrom ≤ e ∧ e < l.plainBelow then positional l.pointZero ds e
  else scientific l.exponentPlus ds e

/-- The written form of a double. -/
def Layout.write (l : Layout) (x : Float) : String :=
  match Dyadic.ofFloat? x with
  | none => if x.isNaN then l.nan else if isNegative x then "-" ++ l.infinity else l.infinity
  | some d =>
    let sign := if d.negative && (d.m != 0 || l.signedZero) then ['-'] else []
    let body := if d.m = 0 then (if l.pointZero then ['0', '.', '0'] else ['0'])
      else l.writePositive d
    String.ofList (sign ++ body)

end ReactiveTree.Decimal
