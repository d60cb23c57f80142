/-
# Doubles as exact numbers

A finite double is `± m * 2 ^ q`. On that form the questions about its exact value are
questions about integers: is it whole, which whole number is it, and what remains of it
after division by another double.

Key definitions: `Dyadic`, `Dyadic.ofFloat?`, `wholeNumber?`, `remainder`.
-/
namespace ReactiveTree.Decimal

/-- The finite value `± m * 2 ^ q`. -/
structure Dyadic where
  negative : Bool
  m : Nat
  q : Int
  /-- The value below is half as far away as the value above. -/
  narrowBelow : Bool
deriving Repr, DecidableEq

/-- The sign bit. -/
def isNegative (x : Float) : Bool := x.toBits >>> 63 == 1

/-- The exact value of a double; none for NaN and the infinities. -/
def Dyadic.ofFloat? (x : Float) : Option Dyadic :=
  let bits := x.toBits
  let exponent := ((bits >>> 52) &&& 0x7ff).toNat
  let fraction := (bits &&& 0xfffffffffffff).toNat
  if exponent = 0x7ff then none
  else if exponent = 0 then some ⟨isNegative x, fraction, -1074, false⟩
  else
    some ⟨isNegative x, 0x10000000000000 + fraction, (exponent : Int) - 1075,
      fraction == 0 && exponent > 1⟩

/-- Two to the power `q`; one if `q` is negative. -/
def twoTo (q : Int) : Nat := Nat.pow 2 q.toNat

/-- An integer with the sign of the value. -/
def Dyadic.signed (x : Dyadic) (n : Nat) : Int := if x.negative then -(n : Int) else n

/-- The part before the point, without its sign. -/
def Dyadic.truncatedAbs (x : Dyadic) : Nat :=
  if 0 ≤ x.q then x.m * twoTo x.q else x.m / twoTo (-x.q)

/-- The value is a whole number. -/
def Dyadic.isWhole (x : Dyadic) : Bool :=
  0 ≤ x.q || x.m % twoTo (-x.q) == 0

/-- The whole number that a double is equal to, if there is one. -/
def wholeNumber? (x : Float) : Option Int := do
  let d ← Dyadic.ofFloat? x
  if d.isWhole then some (d.signed d.truncatedAbs) else none

/-- The whole number reached from a finite double by dropping what follows the point. -/
def truncated? (x : Float) : Option Int :=
  (Dyadic.ofFloat? x).map fun d => d.signed d.truncatedAbs

def nan : Float := 0.0 / 0.0

def infinity : Float := 1.0 / 0.0

/-- A double from a sign and an exact value that is known to be a double. -/
def scaled (negative : Bool) (m : Nat) (q : Int) : Float :=
  let x := (Float.ofNat m).scaleB q
  if negative then -x else x

/-- What remains of `x` after taking away `y` a whole number of times, with the sign of `x`. -/
def remainder (x y : Float) : Float :=
  match Dyadic.ofFloat? x, Dyadic.ofFloat? y with
  | some a, some b =>
    if b.m = 0 then nan
    else
      let q := min a.q b.q
      let r := (a.m * twoTo (a.q - q)) % (b.m * twoTo (b.q - q))
      scaled a.negative r q
  | some _, none => if y.isNaN then nan else x
  | none, _ => nan

end ReactiveTree.Decimal
