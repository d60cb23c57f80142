import ReactiveTree.Json.Basic
import ReactiveTree.Decimal.Layout

/-!
# Writing JSON

The compact form without any white space, and the form with one item or member a line.
Quotes, backslashes and controls are the only characters written as escapes. Doubles have the
fewest digits that identify them; non-finite ones are written `null`.

Key definitions: `Json.layout`, `Json.compact`, `Json.pretty`.
-/
namespace ReactiveTree.Json

/-- Numbers in JSON: positional from `10^-5` up to below `10^16`, and with a point always. -/
def layout : Decimal.Layout where
  plainFrom := -5
  plainBelow := 16
  pointZero := true
  exponentPlus := true
  signedZero := true
  tie := .toEven
  nan := "null"
  infinity := "null"

def hexDigitChar (n : Nat) : Char := Char.ofNat (if n < 10 then 48 + n else 87 + n)

/-- A character inside a string. -/
def escapeChar (c : Char) : List Char :=
  if c = '"' then ['\\', '"']
  else if c = '\\' then ['\\', '\\']
  else if c = '\n' then ['\\', 'n']
  else if c = '\r' then ['\\', 'r']
  else if c = '\t' then ['\\', 't']
  else if c = Char.ofNat 8 then ['\\', 'b']
  else if c = Char.ofNat 12 then ['\\', 'f']
  else if c.toNat < 0x20 then
    ['\\', 'u', '0', '0', hexDigitChar (c.toNat / 16), hexDigitChar (c.toNat % 16)]
  else [c]

def quoted (s : String) : List Char := '"' :: s.toList.flatMap escapeChar ++ ['"']

def writeDouble (x : Float) : List Char :=
  if x.isFinite then (layout.write x).toList else ['n', 'u', 'l', 'l']

def writeInt (n : Int) : List Char :=
  if n < 0 then '-' :: Decimal.digitChars n.natAbs else Decimal.digitChars n.natAbs

/-- A value that is not a container. -/
def writeAtom : Json → List Char
  | .bool true => ['t', 'r', 'u', 'e']
  | .bool false => ['f', 'a', 'l', 's', 'e']
  | .int n => writeInt n
  | .double x => writeDouble x
  | .str s => quoted s
  | _ => ['n', 'u', 'l', 'l']

mutual
/-- The compact form. -/
def writeCompact : Json → List Char
  | .arr items => '[' :: writeItems items ++ [']']
  | .obj members => '\x7b' :: writeMembers members ++ ['\x7d']
  | j => writeAtom j

def writeItems : List Json → List Char
  | [] => []
  | [j] => writeCompact j
  | j :: js => writeCompact j ++ ',' :: writeItems js

def writeMembers : List (String × Json) → List Char
  | [] => []
  | [(k, j)] => quoted k ++ ':' :: writeCompact j
  | (k, j) :: ms => quoted k ++ ':' :: writeCompact j ++ ',' :: writeMembers ms
end

/-- A line end and the indentation of a level. -/
def lineBreak (level : Nat) : List Char := '\n' :: List.replicate (2 * level) ' '

mutual
/-- The form with one item or member a line, inside `level` containers. -/
def writePretty (level : Nat) : Json → List Char
  | .arr [] => ['[', ']']
  | .obj [] => ['\x7b', '\x7d']
  | .arr items => '[' :: prettyItems (level + 1) items ++ lineBreak level ++ [']']
  | .obj members => '\x7b' :: prettyMembers (level + 1) members ++ lineBreak level ++ ['\x7d']
  | j => writeAtom j

def prettyItems (level : Nat) : List Json → List Char
  | [] => []
  | [j] => lineBreak level ++ writePretty level j
  | j :: js => lineBreak level ++ writePretty level j ++ ',' :: prettyItems level js

def prettyMembers (level : Nat) : List (String × Json) → List Char
  | [] => []
  | [(k, j)] => lineBreak level ++ quoted k ++ ':' :: ' ' :: writePretty level j
  | (k, j) :: ms =>
    lineBreak level ++ quoted k ++ ':' :: ' ' :: writePretty level j ++
      ',' :: prettyMembers level ms
end

/-- The compact text of a value. -/
def compact (j : Json) : String := String.ofList (writeCompact j)

/-- The text of a value with one item or member a line. -/
def pretty (j : Json) : String := String.ofList (writePretty 0 j)

end ReactiveTree.Json
