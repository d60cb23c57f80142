import ReactiveTree.Decimal.Dyadic
import ReactiveTree.Text.Letters

/-!
# Reading decimals

The double nearest to a decimal, and the plain grammar of decimal texts: an optional sign,
digits with at most one point among or around them, and an optional exponent.

Key definitions: `nearest`, `readNumeral?`.
-/
namespace ReactiveTree.Decimal

open Text (isAsciiDigit)

/-- The double nearest to `m * 10 ^ e`. Numbers beyond the largest double are infinite. -/
def nearest (m : Nat) (e : Int) : Float :=
  if m = 0 then 0.0
  else
    let size := ((m.log2 : Int) * 30103) / 100000 + e
    if size > 320 then infinity
    else if size < -360 then 0.0
    else Float.ofScientific m (e < 0) e.natAbs

/-- The number that decimal digits write. -/
def ofDigits (ds : List Char) : Nat :=
  ds.foldl (fun acc c => 10 * acc + (c.toNat - 48)) 0

/-- The number written by the digits `whole`, a point and the digits `fraction`, times a power
of ten. -/
def ofParts (whole fraction : List Char) (exponent : Int) : Float :=
  nearest (ofDigits (whole ++ fraction)) (exponent - fraction.length)

/-- Split off an optional sign; true for a minus. -/
def takeSign : List Char → Bool × List Char
  | '-' :: cs => (true, cs)
  | '+' :: cs => (false, cs)
  | cs => (false, cs)

/-- Read an exponent that is the rest of a numeral; nothing stands for zero. -/
def readExponent? : List Char → Option Int
  | [] => some 0
  | c :: cs =>
    if c = 'e' ∨ c = 'E' then
      let (negative, ds) := takeSign cs
      if ds ≠ [] ∧ ds.all isAsciiDigit then
        some (if negative then -(ofDigits ds : Int) else ofDigits ds)
      else none
    else none

/-- Read a numeral without a sign. -/
def readUnsigned? (cs : List Char) : Option Float := do
  let (whole, rest) := cs.span isAsciiDigit
  let (fraction, rest) := match rest with
    | '.' :: more => more.span isAsciiDigit
    | _ => ([], rest)
  if whole.isEmpty && fraction.isEmpty then none
  else return ofParts whole fraction (← readExponent? rest)

/-- Read a decimal numeral. -/
def readNumeral? (cs : List Char) : Option Float :=
  let (negative, body) := takeSign cs
  (readUnsigned? body).map fun x => if negative then -x else x

end ReactiveTree.Decimal
