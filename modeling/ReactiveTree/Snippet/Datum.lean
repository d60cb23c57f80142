import ReactiveTree.Node.Plain
import ReactiveTree.Json.Writing
import ReactiveTree.Text.Quoted

/-!
# Values of running snippets

A snippet computes with numbers of two kinds, texts, arrays, maps with sorted keys, bytes,
ranges, sequences and functions. A value has a text for the reader of a snippet and one for the
host that runs it, and both differ inside arrays and maps. Limits apply to its size. Values of
the tree come in as data, and results go out as scalars.

Key definitions: `Datum`, `Sequence`, `Datum.text`, `Datum.debugText`, `Datum.hostText`,
`Datum.size`, `Datum.jsonText`, `Datum.ofNode`, `Datum.toScalar?`.
-/
namespace ReactiveTree.Snippet

/-- What a loop can go over without being an array. -/
inductive Sequence where
  /-- The integers from `start` on, a step apart, up to but without `stop`. -/
  | ints (start stop step : Int)
  | floats (start stop step : Float)
  | bits (values : List Bool)
  | chars (values : List Char)
deriving Inhabited

inductive Datum where
  | unit
  | bool (b : Bool)
  | int (n : Int)
  | float (x : Float)
  | char (c : Char)
  | string (s : String)
  | array (items : List Datum)
  /-- Entries in ascending order of their keys. -/
  | map (entries : List (String × Datum))
  | blob (bytes : List UInt8)
  /-- The integers from `lo`, up to `hi` or up to but without it. -/
  | range (lo hi : Int) (closed : Bool)
  | sequence (s : Sequence)
  /-- A function by its name, with the arguments that are already bound. -/
  | function (name : String) (bound : List Datum)
  /-- A variable that functions share with the place where they were made. -/
  | shared (cell : Nat)
  /-- A value that carries a mark beside what it is. -/
  | tagged (tag : Int) (d : Datum)
deriving Inhabited

namespace Datum

/-- The value without its mark. -/
def bare : Datum → Datum
  | tagged _ d => d
  | d => d

/-- The mark of a value. -/
def tag : Datum → Int
  | tagged t _ => t
  | _ => 0

/-- The value with a mark; zero is none. -/
def withTag (t : Int) (d : Datum) : Datum := if t = 0 then d.bare else tagged t d.bare

/-- The name of a value's type. -/
def typeName : Datum → String
  | unit => "()"
  | bool _ => "bool"
  | int _ => "i64"
  | float _ => "f64"
  | char _ => "char"
  | string _ => "string"
  | array _ => "array"
  | map _ => "map"
  | blob _ => "blob"
  | range _ _ false => "range"
  | range _ _ true => "range="
  | sequence _ => "range"
  | function _ _ => "Fn"
  | shared _ => "shared"
  | tagged _ d => d.typeName

/-- The name of a value's type where another type was needed. -/
def actualType : Datum → String
  | range _ _ false => "core::ops::range::Range<i64>"
  | range _ _ true => "core::ops::range::RangeInclusive<i64>"
  | d => d.typeName

/-- The type of an argument as the list of the arguments of a function shows it. -/
def argumentType (d : Datum) : String :=
  match d.bare with
  | string _ => "&str | ImmutableString | String"
  | d => d.typeName

/-! ### Texts -/

/-- Floats by themselves: positional with a point, no sign on zero. -/
def floatLayout : Decimal.Layout where
  plainFrom := -400
  plainBelow := 400
  pointZero := true
  exponentPlus := false
  signedZero := false
  tie := .away
  nan := "NaN"
  infinity := "inf"

/-- Floats that are far from one have an exponent always. -/
def farLayout : Decimal.Layout := { floatLayout with plainFrom := 400, plainBelow := -400 }

/-- Floats inside arrays and maps. -/
def innerLayout : Decimal.Layout :=
  { floatLayout with plainFrom := -4, plainBelow := 16, signedZero := true }

/-- Floats in messages about numbers: positional, without a point if they are whole. -/
def plainLayout : Decimal.Layout := { floatLayout with pointZero := false, signedZero := true }

/-- The range in which floats by themselves are positional. -/
def leastPlain : Float := 9.9999998245167e-14

def greatestPlain : Float := 9999999827968.0

def floatText (x : Float) : String :=
  let a := x.abs
  if a == 0.0 then "0.0"
  else if a > greatestPlain || a < leastPlain then farLayout.write x
  else floatLayout.write x

def boolText (b : Bool) : String := if b then "true" else "false"

def intText (n : Int) : String := String.ofList (Json.writeInt n)

/-- A range up to the greatest integer has no end in its text. -/
def rangeText (lo hi : Int) (closed : Bool) : String :=
  intText lo ++ (if closed then "..=" else "..") ++ (if hi = Word64.maxInt then "" else intText hi)

/-- Two hexadecimal digits for each byte, in groups of eight. -/
def bytesText (bytes : List UInt8) : String :=
  let digits (b : UInt8) : List Char :=
    [Nat.digitChar (b.toNat / 16), Nat.digitChar (b.toNat % 16)]
  "[" ++ String.ofList (bytes.zipIdx.flatMap fun (b, i) =>
    if i ≠ 0 ∧ i % 8 = 0 then ' ' :: digits b else digits b) ++ "]"

/-- Who reads a text: the snippet, or the host that runs it. -/
inductive Reader where
  | snippet
  | host
deriving DecidableEq

mutual
/-- The text of a value inside an array or a map. -/
def inner (reader : Reader) : Datum → String
  | unit => "()"
  | bool b => boolText b
  | int n => intText n
  | float x => innerLayout.write x
  | char c => if reader = .host then Text.quoteSingle c else String.singleton c
  | string s => Text.quote s
  | array items => "[" ++ innerItems reader items ++ "]"
  | map entries => "#\x7b" ++ innerEntries reader entries ++ "\x7d"
  | blob bytes => bytesText bytes
  | range lo hi closed => rangeText lo hi closed
  | sequence _ => "range"
  | function name bound =>
    if reader = .host then
      "Fn(" ++ Text.quote name ++
        (if bound.isEmpty then "" else ", " ++ innerItems reader bound) ++ ")"
    else "Fn(" ++ name ++ ")"
  | shared _ => ""
  | tagged _ d => inner reader d

def innerItems (reader : Reader) : List Datum → String
  | [] => ""
  | [d] => inner reader d
  | d :: ds => inner reader d ++ ", " ++ innerItems reader ds

def innerEntries (reader : Reader) : List (String × Datum) → String
  | [] => ""
  | [(k, d)] => Text.quote k ++ ": " ++ inner reader d
  | (k, d) :: ds => Text.quote k ++ ": " ++ inner reader d ++ ", " ++ innerEntries reader ds
end

/-- The text of a value by itself. -/
def textFor (reader : Reader) : Datum → String
  | unit => ""
  | float x => floatText x
  | char c => String.singleton c
  | string s => s
  | function name _ => "Fn(" ++ name ++ ")"
  | tagged _ d => textFor reader d
  | d => d.inner reader

/-- The text of a value as a snippet reads it. -/
def text (d : Datum) : String := d.textFor .snippet

/-- The text of a value that shows what kind it is of. -/
def debugText (d : Datum) : String := d.inner .snippet

/-- The text of a value as the host reads it. -/
def hostText (d : Datum) : String := d.textFor .host

/-! ### Sizes -/

/-- How large a value is: bytes of text, items of arrays and entries of maps, also of those
inside it. -/
structure Size where
  text : Nat := 0
  items : Nat := 0
  entries : Nat := 0
deriving Repr, DecidableEq

instance : Add Size := ⟨fun a b => ⟨a.text + b.text, a.items + b.items, a.entries + b.entries⟩⟩

mutual
def size : Datum → Size
  | string s => ⟨s.utf8ByteSize, 0, 0⟩
  | array items => itemsSize items
  | map entries => entriesSize entries
  | blob bytes => ⟨0, bytes.length, 0⟩
  | tagged _ d => size d
  | _ => {}

def itemsSize : List Datum → Size
  | [] => {}
  | d :: ds => ⟨0, 1, 0⟩ + size d + itemsSize ds

def entriesSize : List (String × Datum) → Size
  | [] => {}
  | (_, d) :: ds => ⟨0, 0, 1⟩ + size d + entriesSize ds
end

mutual
/-- How deep the items of a value nest. -/
def nesting : Datum → Nat
  | array items => itemsNesting items
  | map entries => entriesNesting entries
  | tagged _ d => nesting d
  | _ => 0

def itemsNesting : List Datum → Nat
  | [] => 0
  | d :: ds => max (nesting d + 1) (itemsNesting ds)

def entriesNesting : List (String × Datum) → Nat
  | [] => 0
  | (_, d) :: ds => max (nesting d + 1) (entriesNesting ds)
end

/-! ### Sameness -/

/-- The character that a text of one character is. -/
def single? (s : String) : Option Char :=
  match s.toList with
  | [c] => some c
  | _ => none

mutual
/-- The same value of the same type, down to the bits of floats. -/
def identical : Datum → Datum → Bool
  | unit, unit => true
  | bool a, bool b => a == b
  | int a, int b => a == b
  | float a, float b => a.toBits == b.toBits
  | char a, char b => a == b
  | string a, string b => a == b
  | array a, array b => identicalItems a b
  | map a, map b => identicalEntries a b
  | blob a, blob b => a == b
  | range a b c, range d e f => a == d && b == e && c == f
  | function f as, function g bs => f == g && identicalItems as bs
  | tagged _ a, b => identical a b.bare
  | _, _ => false

def identicalItems : List Datum → List Datum → Bool
  | [], [] => true
  | a :: as, b :: bs => identical a b.bare && identicalItems as bs
  | _, _ => false

def identicalEntries : List (String × Datum) → List (String × Datum) → Bool
  | [], [] => true
  | (k, a) :: as, (l, b) :: bs => k == l && identical a b.bare && identicalEntries as bs
  | _, _ => false
end

/-! ### Values of the tree -/

def ofScalar : Scalar → Datum
  | .string s => .string s
  | .number x => .float x
  | .boolean b => .bool b

mutual
/-- The value of plain JSON. -/
def ofJson : Json → Datum
  | .bool b => .bool b
  | .int n => .int n
  | .double x => .float x
  | .str s => .string s
  | .arr items => .array (itemsOfJson items)
  | .obj members => .map (entriesOfJson members)
  | _ => .unit

def itemsOfJson : List Json → List Datum
  | [] => []
  | j :: js => ofJson j :: itemsOfJson js

def entriesOfJson : List (String × Json) → List (String × Datum)
  | [] => []
  | (k, j) :: ms => (k, ofJson j) :: entriesOfJson ms
end

/-- What a snippet sees of a node: the value of a primitive, the plain JSON of a container. -/
def ofNode : Node → Datum
  | .leaf _ v => ofScalar v
  | n => ofJson n.toPlain

mutual
/-- The plain JSON of a value; none if there is a function, a range or a blob in it. -/
def toJson? : Datum → Option Json
  | unit => some .null
  | bool b => some (.bool b)
  | int n => some (.int n)
  | float x => some (if x.isFinite then .double x else .null)
  | char c => some (.str (String.singleton c))
  | string s => some (.str s)
  | array items => (itemsToJson? items).map .arr
  | map entries => (entriesToJson? entries).map .obj
  | tagged _ d => toJson? d
  | _ => none

def itemsToJson? : List Datum → Option (List Json)
  | [] => some []
  | d :: ds =>
    match toJson? d, itemsToJson? ds with
    | some j, some js => some (j :: js)
    | _, _ => none

def entriesToJson? : List (String × Datum) → Option (List (String × Json))
  | [] => some []
  | (k, d) :: ds =>
    match toJson? d, entriesToJson? ds with
    | some j, some js => some ((k, j) :: js)
    | _, _ => none
end

mutual
/-- The text that a snippet gets for the JSON of a value: functions are their names, and what
JSON has no form for is shown as the host reads it. -/
def jsonText : Datum → String
  | unit => "null"
  | array items => "[" ++ jsonItems items ++ "]"
  | map entries => "\x7b" ++ jsonEntries entries ++ "\x7d"
  | blob bytes => "[" ++ String.intercalate "," (bytes.map fun b => toString b.toNat) ++ "]"
  | function name [] => Text.quote name
  | function name bound => "[" ++ Text.quote name ++ "," ++ jsonItems bound ++ "]"
  | tagged _ d => jsonText d
  | d => d.inner .host

def jsonItems : List Datum → String
  | [] => ""
  | [d] => jsonText d
  | d :: ds => jsonText d ++ "," ++ jsonItems ds

def jsonEntries : List (String × Datum) → String
  | [] => ""
  | [(k, d)] => Text.quote k ++ ":" ++ jsonText d
  | (k, d) :: ds => Text.quote k ++ ":" ++ jsonText d ++ "," ++ jsonEntries ds
end

/-- The result of a snippet as a scalar: containers as JSON text, other things by their text;
none for `()`. -/
def toScalar? (d : Datum) : Option Scalar :=
  match d.bare with
  | unit => none
  | float x => some (.number x)
  | int n => some (.number (Scalar.ofInt n))
  | bool b => some (.boolean b)
  | d@(array _) | d@(map _) => some (.string ((d.toJson?.map Json.compact).getD d.hostText))
  | d => some (.string d.hostText)

/-! ### Ranges -/

/-- The integers of a range are none. -/
def isEmptyRange : Datum → Bool
  | range lo hi closed => if closed then hi < lo else hi ≤ lo
  | _ => false

def isRange : Datum → Bool
  | range _ _ _ => true
  | _ => false

/-- A number is one of a range; floats may lie between its integers. -/
def inRange (r d : Datum) : Bool :=
  match r, d.bare with
  | range lo hi closed, int n => lo ≤ n && (n < hi || (closed && n == hi))
  | range lo hi closed, float x =>
    Scalar.ofInt lo ≤ x && (x < Scalar.ofInt hi || (closed && x == Scalar.ofInt hi))
  | _, _ => false

/-! ### Loose readings -/

/-- The number that a value stands for; NaN if it stands for none. -/
def number (d : Datum) : Float :=
  match d.bare with
  | float x => x
  | int n => Scalar.ofInt n
  | bool b => if b then 1.0 else 0.0
  | string s => (parseNumber? s).getD Decimal.nan
  | _ => Decimal.nan

/-- Nothing is there: `()`, blank text, NaN, an empty array or map. -/
def isBlank (d : Datum) : Bool :=
  match d.bare with
  | unit => true
  | string s => Text.trim s == ""
  | float x => x.isNaN
  | array items => items.isEmpty
  | map entries => entries.isEmpty
  | _ => false

end Datum

/-! ### Going over items -/

/-- The items that a loop has still before it. -/
inductive Items where
  | listed (ds : List Datum)
  /-- The integers from `next` up to but without `stop`. -/
  | counting (next stop : Int)
  | following (s : Sequence)

/-- The first value of a sequence, and the rest of it. A value whose successor is no integer of
the language is left out. -/
def Sequence.next? : Sequence → Option (Datum × Sequence)
  | ints n stop step =>
    if ((0 < step && n < stop) || (step < 0 && stop < n)) && Word64.inRange (n + step) then
      some (.int n, ints (n + step) stop step)
    else none
  | floats x stop step =>
    if (0.0 < step && x < stop) || (step < 0.0 && stop < x) then
      some (.float x, floats (x + step) stop step)
    else none
  | bits [] => none
  | bits (b :: bs) => some (.bool b, bits bs)
  | chars [] => none
  | chars (c :: cs) => some (.char c, chars cs)

namespace Items

/-- The items of a value; none for a value without items. -/
def of? (d : Datum) : Option Items :=
  match d.bare with
  | .array ds => some (listed ds)
  | .string s => some (listed (s.toList.map .char))
  | .blob bytes => some (listed (bytes.map fun b => .int b.toNat))
  | .range lo hi closed => some (counting lo (if closed then hi + 1 else hi))
  | .sequence s => some (following s)
  | _ => none

/-- The next item, and those after it. -/
def next? : Items → Option (Datum × Items)
  | listed [] => none
  | listed (d :: ds) => some (d, listed ds)
  | counting n stop => if n < stop then some (.int n, counting (n + 1) stop) else none
  | following s => s.next?.map fun (d, s) => (d, following s)

end Items
end ReactiveTree.Snippet
