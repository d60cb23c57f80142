import ReactiveTree.Snippet.RunError
import ReactiveTree.Text.Utf8

/-!
# Operators

Whole numbers stay whole as long as the result is an integer of the language; division, and
results beyond the integers, are floats. Integers and floats mix as floats. Floats are compared
up to the precision of floats. Values of unrelated types are unequal and not ordered. An operator
that assigns computes with integers alone where both sides are integers, and then fails instead
of widening.

Key definitions: `widen`, `floatRelation`, `equal`, `applyUnary`, `applyBinary`, `folded?`,
`applyAssigning`.
-/
namespace ReactiveTree.Snippet

open Datum (intText)

abbrev Result := Except RunError Datum

def noFunction (name : String) (args : List Datum) : Result := .error (notFound name args)

/-- An integer if it is one of the language, and else the float. -/
def widen (n : Int) (fallback : Float) : Datum :=
  if Word64.inRange n then .int n else .float fallback

/-! ### Powers -/

/-- A power by squaring. -/
def powerLoop (fuel : Nat) (r a : Float) (n : Nat) : Float :=
  match fuel with
  | 0 => r
  | fuel + 1 =>
    let r := if n % 2 = 1 then r * a else r
    if n / 2 = 0 then r else powerLoop fuel r (a * a) (n / 2)

/-- A float to an integer power. -/
def powerInt (x : Float) (n : Int) : Float :=
  let r := powerLoop (n.natAbs.log2 + 1) 1.0 x n.natAbs
  if n < 0 then 1.0 / r else r

/-- The integer of 32 bits with the same last bits. -/
def toInt32 (n : Int) : Int :=
  let m := n % 0x100000000
  if m < 0x80000000 then m else m - 0x100000000

/-- A float to a power of the language. -/
def powerOfFloat (x : Float) (n : Int) : Result :=
  if 0x7fffffff < n then
    .error (.arithmetic ("Number raised to too large an index: " ++ Datum.plainLayout.write x ++
      " ** " ++ intText n))
  else .ok (.float (powerInt x (toInt32 n)))

/-- An integer to an integer power. -/
def powerOfInts (x y : Int) : Result :=
  let shown := intText x ++ " ** " ++ intText y
  if y < 0 then .error (.arithmetic ("Integer raised to a negative power: " ++ shown))
  else if 0x100000000 ≤ y then
    .error (.arithmetic ("Integer raised to too large an index: " ++ shown))
  else
    let overflow : Result := .error (.arithmetic ("Exponential overflow: " ++ shown))
    if x = 0 ∨ x = 1 ∨ x = -1 then
      .ok (.int (if y = 0 then 1 else if x = -1 ∧ y % 2 = 0 then 1 else x))
    else if 64 < y then overflow
    else
      let n := Int.pow x y.toNat
      if Word64.inRange n then .ok (.int n) else overflow

/-! ### Bits -/

/-- Shift to the left, by a negative amount to the right. -/
def shift (x amount : Int) : Int :=
  if 0 ≤ amount then
    (if amount < 64 then Word64.ofBits (Word64.toBits x * Nat.pow 2 amount.toNat) else 0)
  else if -64 < amount then x / Nat.pow 2 amount.natAbs
  else if x < 0 then -1 else 0

/-! ### Texts and maps -/

/-- Remove every occurrence of a text that is not empty; `skip` characters belong to the
occurrence before. -/
def removeFrom (part : List Char) : Nat → List Char → List Char
  | _, [] => []
  | skip + 1, _ :: cs => removeFrom part skip cs
  | 0, c :: cs =>
    if part ≠ [] ∧ part.isPrefixOf (c :: cs) then removeFrom part (part.length - 1) cs
    else c :: removeFrom part 0 cs

def removeText (s part : String) : String := String.ofList (removeFrom part.toList 0 s.toList)

/-- A text occurs in another one. -/
def occursIn (part : List Char) : List Char → Bool
  | [] => part.isEmpty
  | c :: cs => part.isPrefixOf (c :: cs) || occursIn part cs

/-- The entries of both maps; the second one wins. -/
def mergeEntries (a b : List (String × Datum)) : List (String × Datum) :=
  b.foldl (fun acc e => Json.insertSorted e.1 e.2 acc) a

/-! ### Comparing -/

/-- How far two floats lie apart, in relation to the larger one. -/
def relativeGap (x y : Float) : Float :=
  let largest := if x.abs < y.abs then y.abs else x.abs
  (x - y) / (if x * y == 0.0 then 1.0 else largest)

/-- The precision of floats. -/
def precision : Float := 2.220446049250313e-16

/-- A comparison of two floats; none holds where one is no number. -/
def floatRelation (op : BinaryOp) (x y : Float) : Option Bool :=
  match op with
  | .eq => some ((relativeGap x y).abs ≤ precision)
  | .ne => some ((relativeGap x y).abs > precision)
  | .gt => some (relativeGap x y > precision)
  | .ge => some (relativeGap x y > -precision)
  | .lt => some (relativeGap y x > precision)
  | .le => some (relativeGap y x > -precision)
  | _ => none

def floatsEqual (x y : Float) : Bool := (floatRelation .eq x y).getD false

/-- A failure to compare the items of arrays makes them unequal if their types differ. -/
def unlessTypesDiffer (a b : Datum) (r : Except RunError Bool) : Except RunError Bool :=
  match r with
  | .error e => if a.typeName == b.typeName then .error e else .ok false
  | r => r

mutual
/-- Equality across types: numbers by value, a character and a text of that character. Ranges of
different kinds, functions and sequences cannot be compared with their like. -/
def equal : Datum → Datum → Except RunError Bool
  | .tagged _ a, b => equal a b
  | a, b =>
    match a, b.bare with
    | .unit, .unit => .ok true
    | .bool a, .bool b => .ok (a == b)
    | .int a, .int b => .ok (a == b)
    | .float a, .float b => .ok (floatsEqual a b)
    | .int a, .float b => .ok (floatsEqual (Scalar.ofInt a) b)
    | .float a, .int b => .ok (floatsEqual a (Scalar.ofInt b))
    | .char a, .char b => .ok (a == b)
    | .string a, .string b => .ok (a == b)
    | .char a, .string b => .ok (Datum.single? b == some a)
    | .string a, .char b => .ok (Datum.single? a == some b)
    | .array as, .array bs => if as.length = bs.length then equalItems as bs else .ok false
    | .map as, .map bs => if as.length = bs.length then equalEntries as bs else .ok false
    | .blob a, .blob b => .ok (a == b)
    | .range a b c, .range d e f =>
      if c == f then .ok (a == d && b == e)
      else .error (notFound "==" [.range a b c, .range d e f])
    | .function f as, .function g bs => .error (notFound "==" [.function f as, .function g bs])
    | .sequence s, .sequence t => .error (notFound "==" [.sequence s, .sequence t])
    | _, _ => .ok false

def equalItems : List Datum → List Datum → Except RunError Bool
  | [], [] => .ok true
  | a :: as, b :: bs =>
    match unlessTypesDiffer a b (equal a b) with
    | .ok true => equalItems as bs
    | r => r
  | _, _ => .ok false

def equalEntries : List (String × Datum) → List (String × Datum) → Except RunError Bool
  | [], [] => .ok true
  | (k, a) :: as, (l, b) :: bs =>
    if k == l then
      match equal a b with
      | .ok true => equalEntries as bs
      | r => r
    else .ok false
  | _, _ => .ok false
end

/-- Some item of a list is equal to a value. -/
def holdsItem (d : Datum) : List Datum → Except RunError Bool
  | [] => .ok false
  | e :: es =>
    match unlessTypesDiffer e d (equal e d) with
    | .ok false => holdsItem d es
    | r => r

/-! ### Operators on values -/

def applyUnary (op : UnaryOp) (d : Datum) : Result :=
  match op, d.bare with
  | .neg, .int n =>
    if Word64.inRange (-n) then .ok (.int (-n))
    else .error (.arithmetic ("Negation overflow: -" ++ intText n))
  | .neg, .float x => .ok (.float (-x))
  | .plus, .int n => .ok (.int n)
  | .plus, .float x => .ok (.float x)
  | .not, .bool b => .ok (.bool !b)
  | op, d => noFunction op.symbol [d]

/-- The operators on two integers. -/
def onInts (op : BinaryOp) (a b : Int) : Result :=
  let x := Scalar.ofInt a
  let y := Scalar.ofInt b
  match op with
  | .add => .ok (widen (a + b) (x + y))
  | .sub => .ok (widen (a - b) (x - y))
  | .mul => .ok (widen (a * b) (x * y))
  | .div => .ok (.float (x / y))
  | .rem =>
    if b = 0 ∨ (a = Word64.minInt ∧ b = -1) then .ok (.float (Decimal.remainder x y))
    else .ok (.int (a.tmod b))
  | .pow => powerOfInts a b
  | .shiftLeft => .ok (.int (shift a b))
  | .shiftRight => .ok (.int (shift a (-b)))
  | .bitAnd => .ok (.int (Word64.ofBits (Word64.toBits a &&& Word64.toBits b)))
  | .bitOr => .ok (.int (Word64.ofBits (Word64.toBits a ||| Word64.toBits b)))
  | .bitXor => .ok (.int (Word64.ofBits (Word64.toBits a ^^^ Word64.toBits b)))
  | .eq => .ok (.bool (a == b))
  | .ne => .ok (.bool (a != b))
  | .lt => .ok (.bool (a < b))
  | .le => .ok (.bool (a ≤ b))
  | .gt => .ok (.bool (b < a))
  | .ge => .ok (.bool (b ≤ a))
  | .rangeOpen => .ok (.range a b false)
  | .rangeClosed => .ok (.range a b true)

/-- The operators on two floats; those on other values fail with `other`. -/
def onFloats (op : BinaryOp) (x y : Float) (other : Result) : Result :=
  match op with
  | .add => .ok (.float (x + y))
  | .sub => .ok (.float (x - y))
  | .mul => .ok (.float (x * y))
  | .div => .ok (.float (x / y))
  | .rem => .ok (.float (Decimal.remainder x y))
  | .pow => .ok (.float (Float.pow x y))
  | op => ((floatRelation op x y).map fun b => .ok (.bool b)).getD other

/-- The comparisons of two values of an ordered type. -/
def onOrdered (op : BinaryOp) (same less : Bool) (other : Result) : Result :=
  match op with
  | .eq => .ok (.bool same)
  | .ne => .ok (.bool !same)
  | .lt => .ok (.bool less)
  | .le => .ok (.bool (less || same))
  | .gt => .ok (.bool !(less || same))
  | .ge => .ok (.bool !less)
  | _ => other

/-- The operators on two truth values. -/
def onBools (op : BinaryOp) (a b : Bool) (other : Result) : Result :=
  match op with
  | .bitAnd => .ok (.bool (a && b))
  | .bitOr => .ok (.bool (a || b))
  | .bitXor => .ok (.bool (a != b))
  | op => onOrdered op (a == b) (!a && b) other

/-- The operators between values of unrelated types: they are unequal and not ordered. -/
def onUnrelated (op : BinaryOp) (other : Result) : Result :=
  match op with
  | .ne => .ok (.bool true)
  | .eq | .lt | .le | .gt | .ge => .ok (.bool false)
  | _ => other

/-- The operators on two values of one type that has no order. -/
def onUnordered (op : BinaryOp) (a b : Datum) (other : Result) : Result :=
  match op with
  | .eq => (equal a b).map .bool
  | .ne => (equal a b).map fun same => .bool !same
  | _ => other

/-- A value is in a container. -/
def contains (container d : Datum) : Result :=
  match container.bare, d.bare with
  | .array items, d => (holdsItem d items).map .bool
  | .map entries, .string k => .ok (.bool (entries.any (·.1 == k)))
  | .string s, .string part => .ok (.bool (occursIn part.toList s.toList))
  | .string s, .char c => .ok (.bool (s.toList.contains c))
  | .blob bytes, .int n => .ok (.bool (bytes.contains (UInt8.ofNat (Word64.toBits n % 256))))
  | .range lo hi closed, .int n => .ok (.bool (lo ≤ n && (n < hi || (closed && n = hi))))
  | _, _ => noFunction "contains" [container, d]

/-- A binary operator on values. -/
def applyBinary (op : BinaryOp) (a b : Datum) : Result :=
  let other := noFunction op.symbol [a, b]
  match op, a.bare, b.bare with
  | op, .int a, .int b => onInts op a b
  | .pow, .float x, .int n => powerOfFloat x n
  | op, .float x, .float y => onFloats op x y other
  | op, .int a, .float y => onFloats op (Scalar.ofInt a) y other
  | op, .float x, .int b => onFloats op x (Scalar.ofInt b) other
  | .add, .string s, .blob bytes => .ok (.string (s ++ Text.decode bytes))
  | .add, .string s, d => .ok (.string (s ++ d.text))
  | .add, d, .string s => .ok (.string (d.text ++ s))
  | .add, .char c, .char d => .ok (.string (String.ofList [c, d]))
  | .sub, .string s, .string t => .ok (.string (removeText s t))
  | .sub, .string s, .char c => .ok (.string (removeText s (String.singleton c)))
  | op, .string s, .string t => onOrdered op (s == t) (s < t) other
  | op, .char c, .char d => onOrdered op (c == d) (c < d) other
  | op, .char c, .string t =>
    onOrdered op (Datum.single? t == some c) (String.singleton c < t) other
  | op, .string s, .char d =>
    onOrdered op (Datum.single? s == some d) (s < String.singleton d) other
  | op, .bool a, .bool b => onBools op a b other
  | .eq, .unit, .unit => .ok (.bool true)
  | op, .unit, .unit => (onUnrelated op other).map fun _ => .bool false
  | .add, .array xs, .array ys => .ok (.array (xs ++ ys))
  | .add, .map xs, .map ys => .ok (.map (mergeEntries xs ys))
  | .add, .blob xs, .blob ys => .ok (.blob (xs ++ ys))
  | op, a@(.array _), b@(.array _) => onUnordered op a b other
  | op, a@(.map _), b@(.map _) => onUnordered op a b other
  | op, a@(.blob _), b@(.blob _) => onUnordered op a b other
  | .ne, .range a b c, .range d e f => .ok (.bool (!(a == d && b == e && c == f)))
  | op, a@(.range _ _ _), b@(.range _ _ _) => onUnordered op a b other
  | _, .function _ _, .function _ _ => other
  | _, .sequence _, .sequence _ => other
  | op, _, _ => onUnrelated op other

/-- The operators that the host computes on two integers. -/
def widening : List BinaryOp := [.add, .sub, .mul, .div, .rem]

/-- The result of an operator on constants that the language computes by itself, if there is
one. -/
def folded? (op : BinaryOp) (a b : Datum) : Option Datum :=
  let known : Bool := match a.bare, b.bare with
    | .int _, .int _ => !widening.contains op
    | .string _, .string _ | .string _, .char _ | .char _, .string _ => true
    | .array _, .array _ | .map _, .map _ | .blob _, .blob _ => false
    | .string _, _ | _, .string _ => op != .add
    | _, _ => true
  if known then (applyBinary op a b).toOption else none

/-- The operators that assign, on two integers: no result outside the integers. -/
def assigningInts (op : BinaryOp) (a b : Int) : Result :=
  let checked (n : Int) (what : String) : Result :=
    if Word64.inRange n then .ok (.int n)
    else
      .error (.arithmetic (what ++ " overflow: " ++ intText a ++ " " ++ op.symbol ++ " " ++
        intText b))
  match op with
  | .add => checked (a + b) "Addition"
  | .sub => checked (a - b) "Subtraction"
  | .mul => checked (a * b) "Multiplication"
  | .div =>
    if b = 0 then .error (.arithmetic ("Division by zero: " ++ intText a ++ " / " ++ intText b))
    else checked (a.tdiv b) "Division"
  | .rem =>
    if b = 0 ∨ (a = Word64.minInt ∧ b = -1) then
      .error (.arithmetic ("Modulo division by zero or overflow: " ++ intText a ++ " % " ++
        intText b))
    else .ok (.int (a.tmod b))
  | op => onInts op a b

/-- The bytes that something adds to a blob. -/
def addedBytes? : Datum → Option (List UInt8)
  | .int n => some [UInt8.ofNat (Word64.toBits n % 256)]
  | .char c => some (String.singleton c).toUTF8.toList
  | .string s => some s.toUTF8.toList
  | .blob bytes => some bytes
  | _ => none

/-- The new value of a variable that an operator assigns to. -/
def applyAssigning (op : BinaryOp) (a b : Datum) : Result :=
  match op, a.bare, b.bare with
  | op, .int a, .int b => assigningInts op a b
  | .add, .array xs, .array ys => .ok (.array (xs ++ ys))
  | .add, .array xs, _ => .ok (.array (xs ++ [b]))
  | .add, .blob xs, d =>
    match addedBytes? d with
    | some bytes => .ok (.blob (xs ++ bytes))
    | none => applyBinary op a b
  | _, _, _ => applyBinary op a b

/-- The operator assigns by itself; otherwise it computes first, which is one operation more. -/
def assignsAtOnce (op : BinaryOp) (a b : Datum) : Bool :=
  match a.bare, b.bare with
  | .int _, .int _ => true
  | .float _, .float _ | .float _, .int _ => BinaryOp.assigning.take 6 |>.contains op
  | .bool _, .bool _ => [.bitAnd, .bitOr, .bitXor].contains op
  | .string _, .string _ | .string _, .char _ => op == .add || op == .sub
  | .char _, .char _ | .char _, .string _ => op == .add
  | .string _, _ | .array _, _ | .blob _, _ | .map _, .map _ => op == .add
  | _, _ => false

end ReactiveTree.Snippet
