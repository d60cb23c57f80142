import ReactiveTree.Decimal.Dyadic

/-!
# The fewest digits that identify a double

Among the decimals that are nearer to a double than to any other (halfway counts if its
significand is even), the one with the fewest digits; of those, the one nearest to the
double. The search is exact: for each number of digits it looks at the two neighbours of the
value on the decimal grid.

Key definitions: `Digits`, `shortest`.
-/
namespace ReactiveTree.Decimal

/-- The number `digits * 10 ^ exponent`. -/
structure Digits where
  digits : Nat
  exponent : Int
deriving Repr, DecidableEq

/-- Which of two equally near decimals is taken. -/
inductive Tie where
  | toEven
  | away
deriving Repr, DecidableEq

/-- Ten to the power `g`; one if `g` is negative. -/
def tenTo (g : Int) : Nat := Nat.pow 10 g.toNat

/-- `2 ^ q` over `10 ^ g` as a fraction. -/
def gridScale (q g : Int) : Nat × Nat :=
  (twoTo q * tenTo (-g), twoTo (-q) * tenTo g)

/-- `m * 2 ^ q < 10 ^ k`. -/
def belowPower (m : Nat) (q k : Int) : Bool :=
  let (num, den) := gridScale q k
  m * num < den

/-- The least `k` with `m * 2 ^ q < 10 ^ k`, for a positive `m`. -/
def magnitude (m : Nat) (q : Int) : Int :=
  let guess := ((m.log2 : Int) + q) * 30103 / 100000
  if belowPower m q guess then guess
  else if belowPower m q (guess + 1) then guess + 1
  else guess + 2

/-- `d * 10 ^ g` lies among the reals that are nearest to the value. -/
def identifies (x : Dyadic) (d : Nat) (g : Int) : Bool :=
  let (num, den) := gridScale x.q g
  let low := if x.narrowBelow then 4 * x.m - 1 else 4 * x.m - 2
  let high := 4 * x.m + 2
  let here := 4 * d * den
  if x.m % 2 = 0 then low * num ≤ here && here ≤ high * num
  else low * num < here && here < high * num

/-- The neighbours of the value on the grid of `10 ^ g` that identify it, the nearer one first. -/
def onGrid (x : Dyadic) (tie : Tie) (g : Int) : Option Digits :=
  let (num, den) := gridScale x.q g
  let below := x.m * num / den
  let above := below + 1
  match identifies x below g && below != 0, identifies x above g with
  | false, false => none
  | true, false => some ⟨below, g⟩
  | false, true => some ⟨above, g⟩
  | true, true =>
    let twice := 2 * x.m * num
    let middle := (below + above) * den
    if twice < middle then some ⟨below, g⟩
    else if middle < twice then some ⟨above, g⟩
    else match tie with
      | .away => some ⟨above, g⟩
      | .toEven => if below % 2 = 0 then some ⟨below, g⟩ else some ⟨above, g⟩

/-- Move trailing zeros into the exponent, at most `fuel` of them. -/
def Digits.strip (d : Digits) : Nat → Digits
  | 0 => d
  | fuel + 1 =>
    if d.digits ≠ 0 ∧ d.digits % 10 = 0 then
      Digits.strip ⟨d.digits / 10, d.exponent + 1⟩ fuel
    else d

/-- The fewest digits that identify a positive value. -/
def shortest (x : Dyadic) (tie : Tie) : Digits :=
  let k := magnitude x.m x.q
  match (List.range 17).findSome? fun (n : Nat) => onGrid x tie (k - (n + 1)) with
  | some d => d.strip 17
  | none =>
    if 0 ≤ x.q then ⟨x.m * twoTo x.q, 0⟩ else ⟨x.m * Nat.pow 5 (-x.q).toNat, x.q⟩

end ReactiveTree.Decimal
