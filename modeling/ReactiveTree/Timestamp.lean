import ReactiveTree.Decimal.Reading
import ReactiveTree.Text.Blank
import ReactiveTree.Text.Letters

/-!
# Points in time

A point in time is a day, a second of it and a fraction in nanoseconds, in universal time. Times
are read with any offset and written with `Z`; a fraction is written with three, six or nine
digits.

Key definitions: `Timestamp`, `Date.toDays`, `Date.ofDays`, `Timestamp.ofText?`, `Timestamp.text`.
-/
namespace ReactiveTree

open Text (isAsciiDigit isBlank)

/-- A point in time; the fraction exceeds a second within a leap second. -/
structure Timestamp where
  /-- Days since the first of January 1970. -/
  day : Int := 0
  second : Nat := 0
  nano : Nat := 0
deriving Repr, DecidableEq, Inhabited

/-- A date of the calendar. -/
structure Date where
  year : Int
  month : Nat
  day : Nat
deriving Repr, DecidableEq, Inhabited

/-! ### The calendar -/

namespace Date

def isLeapYear (y : Int) : Bool := y % 4 == 0 && (y % 100 != 0 || y % 400 == 0)

def daysInMonth (y : Int) (m : Nat) : Nat :=
  if m = 2 then (if isLeapYear y then 29 else 28)
  else if m = 4 ∨ m = 6 ∨ m = 9 ∨ m = 11 then 30
  else 31

def isValid (d : Date) : Bool :=
  1 ≤ d.month && d.month ≤ 12 && 1 ≤ d.day && d.day ≤ daysInMonth d.year d.month

/-- The days from the first of January 1970 to a date. Years count from March, so that the leap
day comes last. -/
def toDays (d : Date) : Int :=
  let y := if d.month ≤ 2 then d.year - 1 else d.year
  let month : Int := if d.month ≤ 2 then d.month + 9 else d.month - 3
  let era := y / 400
  let ofEra := y - era * 400
  let ofYear := (153 * month + 2) / 5 + d.day - 1
  era * 146097 + (ofEra * 365 + ofEra / 4 - ofEra / 100 + ofYear) - 719468

/-- The date that is so many days after the first of January 1970. -/
def ofDays (days : Int) : Date :=
  let z := days + 719468
  let era := z / 146097
  let ofEra := z - era * 146097
  let year := (ofEra - ofEra / 1460 + ofEra / 36524 - ofEra / 146096) / 365
  let ofYear := ofEra - (365 * year + year / 4 - year / 100)
  let month := (5 * ofYear + 2) / 153
  let day := ofYear - (153 * month + 2) / 5 + 1
  let m := if month < 10 then month + 3 else month - 9
  { year := era * 400 + year + (if m ≤ 2 then 1 else 0), month := m.toNat, day := day.toNat }

end Date

namespace Timestamp

/-! ### Writing -/

/-- A number with zeros in front. -/
def padded (width n : Nat) : String :=
  let s := toString n
  String.ofList (List.replicate (width - s.length) '0') ++ s

def yearText (y : Int) : String :=
  if 0 ≤ y && y ≤ 9999 then padded 4 y.toNat
  else (if y < 0 then "-" else "+") ++ padded 4 y.natAbs

/-- A fraction in three, six or nine digits. -/
def fractionText (nano : Nat) : String :=
  if nano = 0 then ""
  else if nano % 1000000 = 0 then "." ++ padded 3 (nano / 1000000)
  else if nano % 1000 = 0 then "." ++ padded 6 (nano / 1000)
  else "." ++ padded 9 nano

/-- The text of a point in time. -/
def text (t : Timestamp) : String :=
  let d := Date.ofDays t.day
  let leap := t.nano / 1000000000
  yearText d.year ++ "-" ++ padded 2 d.month ++ "-" ++ padded 2 d.day ++ "T" ++
    padded 2 (t.second / 3600) ++ ":" ++ padded 2 (t.second / 60 % 60) ++ ":" ++
    padded 2 (t.second % 60 + leap) ++ fractionText (t.nano % 1000000000) ++ "Z"

/-- Milliseconds from an earlier time. -/
def since (t start : Timestamp) : Float :=
  let seconds := (t.day - start.day) * 86400 + (t.second - start.second : Int)
  Float.ofInt (seconds * 1000000000 + (t.nano - start.nano : Int)) / 1000000.0

/-! ### Reading -/

abbrev Scan := StateT (List Char) Option

/-- A number of at most `width` digits. -/
def scanDigits (width : Nat) : Scan Nat := fun cs =>
  let ds := (cs.take width).takeWhile isAsciiDigit
  if ds.isEmpty then none else some (Decimal.ofDigits ds, cs.drop ds.length)

/-- A number of at most `width` digits, with blanks before it. -/
def scanNumber (width : Nat) : Scan Nat := fun cs => scanDigits width (Text.trimStart cs)

def scanChar (wanted : Char → Bool) : Scan Unit
  | c :: cs => if wanted c then some ((), cs) else none
  | [] => none

/-- The sign between two numbers, with blanks before it. -/
def scanBetween (sign : Char) : Scan Unit := fun cs => scanChar (· == sign) (Text.trimStart cs)

/-- A year; one with a sign may have more than four digits. -/
def scanYear : Scan Int := fun cs =>
  let cs := Text.trimStart cs
  match cs with
  | '-' :: rest => (scanDigits rest.length rest).map fun (n, cs) => (-(n : Int), cs)
  | '+' :: rest => (scanDigits rest.length rest).map fun (n, cs) => ((n : Int), cs)
  | cs => (scanDigits 4 cs).map fun (n, cs) => ((n : Int), cs)

/-- The nanoseconds of a fraction, if there is one; digits beyond the ninth do not count. -/
def scanFraction : Scan Nat
  | '.' :: cs =>
    let ds := cs.takeWhile isAsciiDigit
    if ds.isEmpty then none
    else
      let nine := ds.take 9
      some (Decimal.ofDigits nine * Nat.pow 10 (9 - nine.length), cs.drop ds.length)
  | cs => some (0, cs)

/-- Two digits. -/
def scanPair : Scan Nat
  | c :: d :: cs =>
    if isAsciiDigit c && isAsciiDigit d then some (Decimal.ofDigits [c, d], cs) else none
  | _ => none

/-- The offset in seconds from universal time. -/
def scanOffset : Scan Int := fun cs =>
  let cs := Text.trimStart cs
  let signed (negative : Bool) : Scan Int := do
    let hours ← scanPair
    modify (·.dropWhile fun c => c == ':' || isBlank c)
    let minutes ← scanPair
    if 60 ≤ minutes || 24 ≤ hours then failure
    let n : Int := hours * 3600 + minutes * 60
    return if negative then -n else n
  if (cs.take 3).map Char.toUpper = ['U', 'T', 'C'] then some (0, cs.drop 3)
  else
    match cs with
    | c :: rest =>
      if c = 'Z' || c = 'z' then some (0, rest)
      else if c = '+' then signed false rest
      else if c = '-' || c.toNat = 0x2212 then signed true rest
      else none
    | [] => none

/-- The days of the first and the last date that there are. -/
def firstDay : Int := Date.toDays { year := -262143, month := 1, day := 1 }

def lastDay : Int := Date.toDays { year := 262142, month := 12, day := 31 }

/-- A day that has a date. -/
def isDay (day : Int) : Bool := firstDay ≤ day && day ≤ lastDay

/-- A point in time; both its local and its universal day have a date. -/
def scanTime : Scan Timestamp := do
  let year ← scanYear
  scanBetween '-'
  let month ← scanNumber 2
  scanBetween '-'
  let day ← scanNumber 2
  scanChar fun c => c == 'T' || c == 't' || c == ' '
  let hour ← scanNumber 2
  scanBetween ':'
  let minute ← scanNumber 2
  scanBetween ':'
  let second ← scanNumber 2
  let nano ← scanFraction
  let offset ← scanOffset
  let date : Date := { year, month, day }
  if !date.isValid || 24 ≤ hour || 60 ≤ minute || 60 < second then failure
  let leap := second / 60
  let wall : Int := hour * 3600 + minute * 60 + (second - leap : Nat)
  let utc := wall - offset
  let day := date.toDays + utc / 86400
  if !isDay date.toDays || !isDay day then failure
  return { day, second := (utc % 86400).toNat, nano := nano + leap * 1000000000 }

/-- The point in time that a text writes. -/
def ofText? (s : String) : Option Timestamp := do
  let (t, rest) ← scanTime s.toList
  if rest.all isBlank then some t else none

end Timestamp
end ReactiveTree
