import ReactiveTree.Json.Basic
import ReactiveTree.Decimal.Layout
import ReactiveTree.Decimal.Reading
import ReactiveTree.Text.Blank
import ReactiveTree.Word64

/-!
# Kinds of nodes and the values of primitive nodes

A node is an object, an array, or a primitive: a string, a number or a boolean. A value
written into a primitive node takes the node's kind by coercion: to a number, booleans become
`1` or `0`, blank text `0`, and other text is read; to a string, by the text of the value; to
a boolean, zero, NaN and the empty text are false.

Key definitions: `Kind`, `Scalar`, `Scalar.same`, `Scalar.coerce?`, `formatNumber`,
`parseNumber?`.
-/
namespace ReactiveTree

/-- The kinds of nodes. -/
inductive Kind where
  | object
  | array
  | string
  | number
  | boolean
deriving Repr, DecidableEq, Inhabited

/-- The value of a primitive node. -/
inductive Scalar where
  | string (s : String)
  | number (x : Float)
  | boolean (b : Bool)
deriving Repr, Inhabited

namespace Kind

/-- The name of a kind in documents and messages. -/
def name : Kind → String
  | .object => "object"
  | .array => "array"
  | .string => "string"
  | .number => "number"
  | .boolean => "boolean"

def all : List Kind := [.object, .array, .string, .number, .boolean]

/-- The kind with a name. -/
def ofName? (s : String) : Option Kind := all.find? (·.name == s)

def isPrimitive : Kind → Bool
  | .object | .array => false
  | _ => true

def isContainer (k : Kind) : Bool := !k.isPrimitive

/-- The value of a new primitive node. -/
def default? : Kind → Option Scalar
  | .string => some (.string "")
  | .number => some (.number 0.0)
  | .boolean => some (.boolean false)
  | _ => none

end Kind

/-! ### Numbers as text -/

/-- Numbers in text: always positional, no point after a whole number, no sign on zero. -/
def numberLayout : Decimal.Layout where
  plainFrom := -400
  plainBelow := 400
  pointZero := false
  exponentPlus := false
  signedZero := false
  tie := .away
  nan := "NaN"
  infinity := "Infinity"

/-- The text of a number. -/
def formatNumber (x : Float) : String := numberLayout.write x

/-- Read a text as a number. Blank text is zero; the infinities and NaN have one spelling each,
and a numeral beyond all doubles is refused. -/
def parseNumber? (text : String) : Option Float :=
  let t := Text.trim text
  if t = "" then some 0.0
  else if t = "Infinity" ∨ t = "+Infinity" then some Decimal.infinity
  else if t = "-Infinity" then some (-Decimal.infinity)
  else if t = "NaN" then some Decimal.nan
  else (Decimal.readNumeral? t.toList).filter Float.isFinite

/-! ### Values -/

namespace Scalar

/-- The kind of node that holds the value. -/
def kind : Scalar → Kind
  | .string _ => .string
  | .number _ => .number
  | .boolean _ => .boolean

/-- Equality by which changes are noticed: NaN is the same as NaN. -/
def same : Scalar → Scalar → Bool
  | .number x, .number y => (x.isNaN && y.isNaN) || x == y
  | .string s, .string t => s == t
  | .boolean a, .boolean b => a == b
  | _, _ => false

/-- Plain equality: NaN differs from itself. -/
def eq : Scalar → Scalar → Bool
  | .number x, .number y => x == y
  | .string s, .string t => s == t
  | .boolean a, .boolean b => a == b
  | _, _ => false

def isTruthy : Scalar → Bool
  | .boolean b => b
  | .number x => x != 0.0 && !x.isNaN
  | .string s => s != ""

/-- The text of a value. -/
def text : Scalar → String
  | .string s => s
  | .number x => formatNumber x
  | .boolean true => "true"
  | .boolean false => "false"

/-- The value as a number, if it can be read as one. -/
def toNumber? : Scalar → Option Float
  | .number x => some x
  | .boolean b => some (if b then 1.0 else 0.0)
  | .string s => parseNumber? s

/-- The value converted to a primitive kind; none for a container, and for text that is no
number. -/
def coerce? (v : Scalar) : Kind → Option Scalar
  | .number => v.toNumber?.map .number
  | .string => some (.string v.text)
  | .boolean => some (.boolean v.isTruthy)
  | .object | .array => none

def number? : Scalar → Option Float
  | .number x => some x
  | _ => none

def string? : Scalar → Option String
  | .string s => some s
  | _ => none

/-- A number as plain JSON: whole numbers of 64 bits are integers, non-finite ones `null`. -/
def numberToJson (x : Float) : Json :=
  match Decimal.wholeNumber? x with
  | some n => if Word64.inRange n then .int n else .double x
  | none => if x.isFinite then .double x else .null

/-- A value as plain JSON. -/
def toJson : Scalar → Json
  | .string s => .str s
  | .boolean b => .bool b
  | .number x => numberToJson x

/-- The double nearest to an integer. -/
def ofInt (n : Int) : Float := if n < 0 then -(Float.ofNat n.natAbs) else Float.ofNat n.natAbs

/-- The value of a JSON scalar. -/
def ofJson? : Json → Option Scalar
  | .str s => some (.string s)
  | .bool b => some (.boolean b)
  | .int n => some (.number (ofInt n))
  | .double x => some (.number x)
  | _ => none

/-- A value as it stands in tree documents, where numbers are always doubles. -/
def toWire : Scalar → Json
  | .string s => .str s
  | .boolean b => .bool b
  | .number x => if x.isFinite then .double x else .null

end Scalar
end ReactiveTree
