import ReactiveTree.Snippet.Library.Basic

/-!
# Functions on numbers

The functions of the language on integers and floats come first. Those that read other values
as numbers take what is left: truth values are one and zero, texts are read, and everything
else is NaN.

Key definitions: `numberFunctions`.
-/
namespace ReactiveTree.Snippet

open Native

/-- A function on the number that a value stands for. -/
def onNumber (name : String) (f : Float → Float) : Native :=
  .of name fun | [d] => gives (.float (f d.number)) | _ => none

/-- A function on floats alone. -/
def onFloat (name : String) (f : Float → Float) : Native :=
  .of name fun | [.float x] => gives (.float (f x)) | _ => none

/-- A question about a float. -/
def asksFloat (name : String) (f : Float → Bool) : Native :=
  .of name fun | [.float x] => gives (.bool (f x)) | _ => none

/-- Round to a whole number, halves away from zero. -/
def roundHalfAway (x : Float) : Float :=
  if x.isFinite && x.abs < 4503599627370496.0 then
    let t := x.abs.floor
    let r := if x.abs - t ≥ 0.5 then t + 1.0 else t
    if Decimal.isNegative x then -r else r
  else x

/-- Round towards zero. -/
def dropFraction (x : Float) : Float := if x < 0.0 then x.ceil else x.floor

/-- Keep this many digits after the point. -/
def roundTo (x : Float) (digits : Int) : Float :=
  let factor := powerInt 10.0 (max 0 (min digits 15))
  roundHalfAway (x * factor) / factor

/-- The greater of two numbers; NaN gives way. -/
def greater (x y : Float) : Float :=
  if x.isNaN then y else if y.isNaN then x else if x < y then y else x

/-- The smaller of two numbers; NaN gives way. -/
def smaller (x y : Float) : Float :=
  if x.isNaN then y else if y.isNaN then x else if y < x then y else x

/-- Pick one of two values of the same kind by an order: the first if `keeps` holds. -/
def picking (name : String) (keepsInt : Int → Int → Bool) (keepsFloat : Float → Float → Bool)
    (keepsText : String → String → Bool) (other : Float → Float → Float) : Native :=
  .of name fun
    | [.int a, .int b] => gives (.int (if keepsInt a b then a else b))
    | [.float x, .float y] => gives (.float (if keepsFloat x y then x else y))
    | [.int a, .float y] =>
      let x := Scalar.ofInt a
      gives (.float (if keepsFloat x y then x else y))
    | [.float x, .int b] =>
      let y := Scalar.ofInt b
      gives (.float (if keepsFloat x y then x else y))
    | [.string s, .string t] => gives (.string (if keepsText s t then s else t))
    | [.char c, .char d] =>
      gives (.char (if keepsText (String.singleton c) (String.singleton d) then c else d))
    | [a, b] => gives (.float (other a.number b.number))
    | _ => none

/-- The sign of a number. -/
def signOf (x : Float) : Float := if x > 0.0 then 1.0 else if x < 0.0 then -1.0 else 0.0

/-- The long side of a right triangle whose other sides are `a` and the shorter `b`, with one
correction of the plain root. -/
def longSide (a b : Float) : Float :=
  let h := (a * a + b * b).sqrt
  let (t, u) :=
    if h ≤ 2.0 * b then
      let d := h - b
      (a * (2.0 * d - a), (d - 2.0 * (a - b)) * d)
    else
      let d := h - a
      (2.0 * d * (a - 2.0 * b), (4.0 * d - b) * b + d * d)
  h - (t + u) / (2.0 * h)

/-- The long side of a right triangle, also where squares are too large or too small. -/
def hypotenuse (x y : Float) : Float :=
  if x.isInf || y.isInf then Decimal.infinity
  else if x.isNaN || y.isNaN then x + y
  else
    let a := greater x.abs y.abs
    let b := smaller x.abs y.abs
    if b ≤ a * Float.scaleB 1.0 (-54) then a + b
    else if a > Float.scaleB 1.0 511 then (longSide (a.scaleB (-600)) (b.scaleB (-600))).scaleB 600
    else if b < Float.scaleB 1.0 (-459) then (longSide (a.scaleB 600) (b.scaleB 600)).scaleB (-600)
    else longSide a b

/-- The integer that is left of a float without its fraction; the bound above the integers
belongs to the greatest one. -/
def toInt (x : Float) : Result :=
  match Decimal.truncated? x with
  | some n =>
    if Word64.inRange n then .ok (.int n)
    else if n = Word64.maxInt + 1 then .ok (.int Word64.maxInt)
    else overflow
  | none => if x.isNaN then .ok (.int 0) else overflow
where
  overflow : Result :=
    .error (.arithmetic ("Integer overflow: to_int(" ++ Datum.plainLayout.write x ++ ")"))

/-- The value of a digit in any base up to 36. -/
def digitValue? (c : Char) : Option Nat :=
  if Text.isAsciiDigit c then some (c.toNat - 48)
  else if 'a' ≤ c ∧ c ≤ 'z' then some (c.toNat - 87)
  else if 'A' ≤ c ∧ c ≤ 'Z' then some (c.toNat - 55)
  else none

/-- Read an integer in a base, with a sign and blanks around it. -/
def parseInt (s : String) (base : Nat) : Result :=
  let failure (why : String) : Result :=
    .error (.arithmetic ("Error parsing integer number '" ++ s ++ "': " ++ why))
  let (negative, ds) := Decimal.takeSign (Text.trim s).toList
  match (Text.trim s).toList, ds.mapM digitValue? with
  | [], _ => failure "cannot parse integer from empty string"
  | _, none => failure "invalid digit found in string"
  | _, some values =>
    if values.isEmpty || values.any (base ≤ ·) then failure "invalid digit found in string"
    else
      let size := values.foldl (fun n d => base * n + d) 0
      let n : Int := if negative then -(size : Int) else size
      if Word64.inRange n then .ok (.int n)
      else failure (if negative then "number too small to fit in target type"
        else "number too large to fit in target type")

/-- Read a float, which may also be the word for one that no digits write. -/
def parseFloat (s : String) : Result :=
  let cs := (Text.trim s).toList
  let (negative, body) := Decimal.takeSign cs
  let word := String.ofList (body.map Char.toLower)
  if word = "inf" ∨ word = "infinity" then
    .ok (.float (if negative then -Decimal.infinity else Decimal.infinity))
  else if word = "nan" then .ok (.float Decimal.nan)
  else
    match Decimal.readNumeral? cs with
    | some x => .ok (.float x)
    | none =>
      let why :=
        if cs.isEmpty then "cannot parse float from empty string" else "invalid float literal"
      .error (.arithmetic ("Error parsing floating-point number '" ++ s ++ "': " ++ why))

/-- The 64 bits of an integer in a base. -/
def inBase (name : String) (base : Nat) : Native :=
  .of name fun
    | [.int n] => gives (.string (String.ofList (Nat.toDigits base (Word64.toBits n))))
    | _ => none

/-! ### Sequences of numbers -/

def noStep : RunError := .inCall "range" (.arithmetic "step value cannot be zero") none

/-- The integers between two bounds, a step apart. -/
def intSteps (start stop step : Int) : Option (Except RunError Outcome) :=
  if step = 0 then fails noStep else gives (.sequence (.ints start stop step))

/-- The floats between two bounds, a step apart. -/
def floatSteps (start stop step : Float) : Option (Except RunError Outcome) :=
  let next := start + step
  if next < start || start < next then gives (.sequence (.floats start stop step)) else fails noStep

/-- Functions that make sequences of numbers. -/
def rangeFunctions : List Native :=
  [.of "range" fun
      | [.int a, .int b] => gives (.range a b false)
      | [.int a, .int b, .int step] => intSteps a b step
      | [.range a b false, .int step] => intSteps a b step
      | [.float a, .float b, .float step] => floatSteps a b step
      | _ => none,
   .of "start" fun | [.range lo _ _] => gives (.int lo) | _ => none,
   .of "end" fun | [.range _ hi _] => gives (.int hi) | _ => none,
   .of "is_inclusive" fun | [.range _ _ closed] => gives (.bool closed) | _ => none,
   .of "is_exclusive" fun | [.range _ _ closed] => gives (.bool !closed) | _ => none,
   .of "is_empty" fun
      | [.range lo hi closed] => gives (.bool (if closed then hi < lo else hi ≤ lo))
      | _ => none,
   .of "contains" fun
      | [r@(.range _ _ _), d@(.int _)] => tries (contains r d)
      | _ => none]

def numberFunctions : List Native :=
  [.of "abs" fun
      | [.int n] =>
        if Word64.inRange n.natAbs then gives (.int n.natAbs)
        else fails (.arithmetic ("Negation overflow: -" ++ Datum.intText n))
      | [d] => gives (.float d.number.abs)
      | _ => none,
   .of "sign" fun
      | [.int n] => gives (.int n.sign)
      | [.float x] =>
        if x.isNaN then fails (.arithmetic "Sign of NaN is undefined")
        else gives (.int (if x > 0.0 then 1 else if x < 0.0 then -1 else 0))
      | [d] => gives (.float (signOf d.number))
      | _ => none,
   .of "log" fun
      | [.float x] => gives (.float x.log10)
      | [.float x, .float base] => gives (.float (x.log / base.log))
      | _ => none,
   onNumber "sqrt" Float.sqrt,
   .of "pow" fun | [x, y] => gives (.float (Float.pow x.number y.number)) | _ => none,
   onNumber "floor" Float.floor,
   onNumber "ceil" Float.ceil,
   onNumber "round" roundHalfAway,
   .of "round_to" fun | [d, .int n] => gives (.float (roundTo d.number n)) | _ => none,
   .of "clamp" fun
      | [x, lo, hi] => gives (.float (smaller (greater x.number lo.number) hi.number))
      | _ => none,
   picking "min" (fun a b => a ≤ b) (fun x y => x ≤ y) (fun s t => !(t < s)) smaller,
   picking "max" (fun a b => b ≤ a) (fun x y => y ≤ x) (fun s t => !(s < t)) greater,
   .of "pi" fun | [] => gives (.float 3.141592653589793) | _ => none,
   .of "lerp" fun
      | [a, b, t] => gives (.float (a.number + (b.number - a.number) * t.number))
      | _ => none,
   .of "map_range" fun
      | [x, inLo, inHi, outLo, outHi] =>
        gives (.float ((x.number - inLo.number) * (outHi.number - outLo.number) /
          (inHi.number - inLo.number) + outLo.number))
      | _ => none,
   onNumber "number" id,
   .of "text" fun | [d] => gives (.string ((d.toScalar?.map Scalar.text).getD "")) | _ => none,
   .of "coalesce" fun | [a, b] => gives (if a.isBlank then b else a) | _ => none,
   .of "PI" fun | [] => gives (.float 3.141592653589793) | _ => none,
   .of "E" fun | [] => gives (.float 2.718281828459045) | _ => none,
   onFloat "sin" Float.sin, onFloat "cos" Float.cos, onFloat "tan" Float.tan,
   onFloat "sinh" Float.sinh, onFloat "cosh" Float.cosh, onFloat "tanh" Float.tanh,
   onFloat "asin" Float.asin, onFloat "acos" Float.acos, onFloat "atan" Float.atan,
   onFloat "asinh" Float.asinh, onFloat "acosh" Float.acosh, onFloat "atanh" Float.atanh,
   .of "atan" fun | [.float x, .float y] => gives (.float (Float.atan2 x y)) | _ => none,
   .of "hypot" fun | [.float x, .float y] => gives (.float (hypotenuse x y)) | _ => none,
   onFloat "exp" Float.exp, onFloat "ln" Float.log,
   onFloat "ceiling" Float.ceil, onFloat "int" dropFraction,
   onFloat "fraction" fun x => x - dropFraction x,
   onFloat "to_degrees" fun x => x * (180.0 / 3.141592653589793),
   onFloat "to_radians" fun x => x * (3.141592653589793 / 180.0),
   asksFloat "is_nan" Float.isNaN, asksFloat "is_finite" Float.isFinite,
   asksFloat "is_infinite" Float.isInf,
   .of "is_zero" fun
      | [.int n] => gives (.bool (n == 0))
      | [.float x] => gives (.bool (x == 0.0))
      | _ => none,
   .of "is_odd" fun | [.int n] => gives (.bool (n % 2 == 1)) | _ => none,
   .of "is_even" fun | [.int n] => gives (.bool (n % 2 == 0)) | _ => none,
   .of "to_int" fun
      | [.int n] => gives (.int n)
      | [.float x] => tries (toInt x)
      | [.char c] => gives (.int c.toNat)
      | _ => none,
   .of "to_float" fun
      | [.int n] => gives (.float (Scalar.ofInt n))
      | [.float x] => gives (.float x)
      | _ => none,
   .of "parse_int" fun
      | [.string s] => tries (parseInt s 10)
      | [.string s, .int base] =>
        if 2 ≤ base ∧ base ≤ 36 then tries (parseInt s base.toNat)
        else fails (.arithmetic ("Invalid radix: '" ++ Datum.intText base ++ "'"))
      | _ => none,
   .of "parse_float" fun | [.string s] => tries (parseFloat s) | _ => none,
   inBase "to_hex" 16, inBase "to_octal" 8, inBase "to_binary" 2,
   .of "sleep" fun | [.int _] => gives .unit | [.float _] => gives .unit | _ => none]

end ReactiveTree.Snippet
