import ReactiveTree.Json.Basic
import ReactiveTree.Decimal.Reading
import ReactiveTree.Text.CharSet
import ReactiveTree.Word64

/-!
# Reading JSON

A text is read as far as it is JSON: where it stops being so, `Json.broken` stands in the
result, so that a reader of typed documents meets a wrong value before a later fault of the
text. Whole numbers between `-2^63` and `2^64 - 1` are integers, all others doubles;
containers nest at most 127 deep.

Key definitions: `Json.Scan`, `Json.scan`, `Json.read?`.
-/
namespace ReactiveTree.Json

open Text (isAsciiDigit hexDigit? ofHexDigits?)

/-- A value and the text after it; no text if the value is broken. -/
structure Scan where
  value : Json
  rest : Option (List Char)

def isSpace (c : Char) : Bool := c == ' ' || c == '\n' || c == '\t' || c == '\r'

def skipSpace (cs : List Char) : List Char := cs.dropWhile isSpace

/-- The deepest nesting of containers that can be taken. -/
def maxDepth : Nat := 127

/-! ### Numbers -/

/-- The number written by its sign, whole part, fraction and exponent. -/
def numberValue (negative : Bool) (whole fraction : List Char) (exponent : Option Int) : Json :=
  let n := Decimal.ofDigits whole
  let asDouble (x : Float) : Json :=
    if x.isInf then .unusable else .double (if negative then -x else x)
  match fraction, exponent with
  | [], none =>
    if negative then
      if n = 0 then .double (-0.0)
      else if Word64.inRange (-n) then .int (-(n : Int))
      else asDouble (Decimal.nearest n 0)
    else if n < Word64.count then .int n
    else asDouble (Decimal.nearest n 0)
  | _, _ => asDouble (Decimal.ofParts whole fraction (exponent.getD 0))

/-- The whole part of a number: a zero, or digits that do not start with one. -/
def scanWhole : List Char → Option (List Char × List Char)
  | '0' :: cs => if (cs.head?.map isAsciiDigit).getD false then none else some (['0'], cs)
  | cs =>
    let (ds, rest) := cs.span isAsciiDigit
    if ds.isEmpty then none else some (ds, rest)

/-- The digits after a point, which must be there. -/
def scanFraction : List Char → Option (List Char × List Char)
  | '.' :: cs =>
    let (ds, rest) := cs.span isAsciiDigit
    if ds.isEmpty then none else some (ds, rest)
  | cs => some ([], cs)

/-- An exponent, if one stands here. -/
def scanExponent : List Char → Option (Option Int × List Char)
  | c :: cs =>
    if c = 'e' ∨ c = 'E' then
      let (negative, ds) := Decimal.takeSign cs
      let (ds, rest) := ds.span isAsciiDigit
      if ds.isEmpty then none
      else
        let n : Int := Decimal.ofDigits ds
        some (some (if negative then -n else n), rest)
    else some (none, c :: cs)
  | [] => some (none, [])

def scanNumber (negative : Bool) (cs : List Char) : Scan :=
  let parts := do
    let (whole, cs) ← scanWhole cs
    let (fraction, cs) ← scanFraction cs
    let (exponent, cs) ← scanExponent cs
    return (numberValue negative whole fraction exponent, cs)
  match parts with
  | some (j, rest) => ⟨j, some rest⟩
  | none => ⟨.broken, none⟩

/-! ### Strings -/

/-- The four hexadecimal digits of an escape. -/
def scanHex4 : List Char → Option (Nat × List Char)
  | a :: b :: c :: d :: rest => (ofHexDigits? [a, b, c, d]).map fun n => (n, rest)
  | _ => none

/-- The character of a one-letter escape. -/
def simpleEscape? (c : Char) : Option Char :=
  if c = '"' ∨ c = '\\' ∨ c = '/' then some c
  else if c = 'b' then some (Char.ofNat 8)
  else if c = 'f' then some (Char.ofNat 12)
  else if c = 'n' then some '\n'
  else if c = 'r' then some '\r'
  else if c = 't' then some '\t'
  else none

/-- What an escape of four hexadecimal digits stands for; a high surrogate needs the low one
after it. No character if the escape is half of a pair. -/
def scanUnicode (cs : List Char) : Option (Option Char × List Char) := do
  let (n, rest) ← scanHex4 cs
  if 0xd800 ≤ n ∧ n < 0xdc00 then
    match rest with
    | '\\' :: 'u' :: more =>
      let (m, rest2) ← scanHex4 more
      if 0xdc00 ≤ m ∧ m < 0xe000 then
        return (some (Char.ofNat (0x10000 + (n - 0xd800) * 0x400 + (m - 0xdc00))), rest2)
      else return (none, rest)
    | _ => return (none, rest)
  else if 0xdc00 ≤ n ∧ n < 0xe000 then return (none, rest)
  else return (some (Char.ofNat n), rest)

/-- The characters of a string after its opening quote, in reverse, with a mark that stays
true as long as every escape is a character. -/
def scanString (fuel : Nat) (usable : Bool) (acc : List Char) (cs : List Char) :
    Option (Bool × List Char × List Char) :=
  match fuel, cs with
  | _, [] => none
  | 0, _ => none
  | fuel + 1, c :: rest =>
    if c = '"' then some (usable, acc.reverse, rest)
    else if c = '\\' then
      match rest with
      | 'u' :: more =>
        match scanUnicode more with
        | none => none
        | some (some ch, rest) => scanString fuel usable (ch :: acc) rest
        | some (none, rest) => scanString fuel false acc rest
      | e :: more =>
        match simpleEscape? e with
        | some ch => scanString fuel usable (ch :: acc) more
        | none => none
      | [] => none
    else if c.toNat < 0x20 then none
    else scanString fuel usable (c :: acc) rest

/-- The string after an opening quote. -/
def scanStringValue (cs : List Char) : Scan :=
  match scanString (cs.length + 1) true [] cs with
  | none => ⟨.broken, none⟩
  | some (true, s, rest) => ⟨.str (String.ofList s), some rest⟩
  | some (false, _, rest) => ⟨.unusable, some rest⟩

/-! ### Values -/

/-- A fixed word, whose first letter has been seen. -/
def scanWord (word : List Char) (value : Json) (cs : List Char) : Scan :=
  if cs.take word.length = word then ⟨value, some (cs.drop word.length)⟩ else ⟨.broken, none⟩

/-- A container that is nested too deeply cannot be taken. -/
def limitDepth (level : Nat) (s : Scan) : Scan :=
  if maxDepth ≤ level then { s with value := if s.rest.isSome then .unusable else .broken } else s

mutual
/-- Read a value inside `level` containers. -/
def scanValue (fuel level : Nat) (cs : List Char) : Scan :=
  match fuel with
  | 0 => ⟨.broken, none⟩
  | fuel + 1 =>
    match skipSpace cs with
    | [] => ⟨.broken, none⟩
    | c :: rest =>
      if c = '"' then scanStringValue rest
      else if c = '[' then limitDepth level (scanItems fuel (level + 1) true [] rest)
      else if c = '\x7b' then limitDepth level (scanMembers fuel (level + 1) true [] rest)
      else if c = '-' then scanNumber true rest
      else if isAsciiDigit c then scanNumber false (c :: rest)
      else if c = 't' then scanWord ['r', 'u', 'e'] (.bool true) rest
      else if c = 'f' then scanWord ['a', 'l', 's', 'e'] (.bool false) rest
      else if c = 'n' then scanWord ['u', 'l', 'l'] .null rest
      else ⟨.broken, none⟩

/-- Read the items of an array up to its closing bracket; `acc` has those before, in reverse. -/
def scanItems (fuel level : Nat) (first : Bool) (acc : List Json) (cs : List Char) : Scan :=
  match fuel with
  | 0 => ⟨.broken, none⟩
  | fuel + 1 =>
    match skipSpace cs with
    | [] => ⟨.arr (.broken :: acc).reverse, none⟩
    | c :: rest =>
      if c = ']' then ⟨.arr acc.reverse, some rest⟩
      else
        let start := if first then some (c :: rest) else if c = ',' then some rest else none
        match start with
        | none => ⟨.arr (.broken :: acc).reverse, none⟩
        | some cs =>
          let item := scanValue fuel level cs
          match item.rest with
          | none => ⟨.arr (item.value :: acc).reverse, none⟩
          | some rest => scanItems fuel level false (item.value :: acc) rest

/-- Read the members of an object up to its closing brace. -/
def scanMembers (fuel level : Nat) (first : Bool) (acc : List (String × Json)) (cs : List Char) :
    Scan :=
  match fuel with
  | 0 => ⟨.broken, none⟩
  | fuel + 1 =>
    let broken : Scan := ⟨.obj (("", .broken) :: acc).reverse, none⟩
    match skipSpace cs with
    | [] => broken
    | c :: rest =>
      if c = '\x7d' then ⟨.obj acc.reverse, some rest⟩
      else
        let start :=
          if first then some (c :: rest) else if c = ',' then some (skipSpace rest) else none
        match start with
        | some ('"' :: cs) =>
          let key := scanStringValue cs
          match key.value, key.rest with
          | .str k, some rest =>
            match skipSpace rest with
            | ':' :: rest =>
              let v := scanValue fuel level rest
              match v.rest with
              | none => ⟨.obj ((k, v.value) :: acc).reverse, none⟩
              | some rest => scanMembers fuel level false ((k, v.value) :: acc) rest
            | _ => broken
          | _, _ => broken
        | _ => broken
end

/-- Read a text: its value, and whether nothing but white space follows it. -/
def scan (text : String) : Json × Bool :=
  let cs := text.toList
  let s := scanValue (cs.length + 1) 0 cs
  (s.value, match s.rest with
    | none => false
    | some rest => (skipSpace rest).isEmpty)

/-- Read a text as one value with sorted keys. -/
def read? (text : String) : Option Json :=
  let (j, ended) := scan text
  if j.isSound && ended then some j.sortKeys else none

end ReactiveTree.Json
