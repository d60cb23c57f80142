import ReactiveTree.Word64

/-
# Paths

A path is a text of segments joined by points. Under an object a segment is a key, under an
array the decimal digits of an index; the empty path is the root. A path with an empty segment
is malformed and addresses nothing.

Key definitions: `Path.split`, `Path.join`, `Path.isValidKey`, `Path.parentAndKey?`,
`Path.index?`, `PathError`.
-/
namespace ReactiveTree

/-- Why a tree refuses an operation. -/
inductive PathError where
  | malformed (path : String)
  | traverseIntoPrimitive (path segment : String)
  | invalidIndex (path segment : String)
  | indexOutOfBounds (path : String) (index len : Nat)
  | notFound (path : String)
  | notAnArray (path : String)
  | notPrimitive (path : String)
  | alreadyExists (path : String)
  | rootMustBeObject
  | expressionOnContainer (path : String)
deriving Repr, DecidableEq

/-- The text of a refusal. -/
def PathError.message : PathError → String
  | .malformed p => "Malformed path '" ++ p ++ "'"
  | .traverseIntoPrimitive p s =>
    "Cannot traverse into primitive at '" ++ p ++ "' (segment '" ++ s ++ "')"
  | .invalidIndex p s => "Invalid array index '" ++ s ++ "' in '" ++ p ++ "'"
  | .indexOutOfBounds p i n =>
    "Index " ++ toString i ++ " out of bounds (len " ++ toString n ++ ") in '" ++ p ++ "'"
  | .notFound p => "No node at '" ++ p ++ "'"
  | .notAnArray p => "Node at '" ++ p ++ "' is not an array"
  | .notPrimitive p => "Node at '" ++ p ++ "' is not a primitive"
  | .alreadyExists p => "Node at '" ++ p ++ "' already exists"
  | .rootMustBeObject => "Root node must be an object"
  | .expressionOnContainer p => "Container at '" ++ p ++ "' cannot carry an expression"

namespace Path

/-- Cut a list at every point. -/
def cut : List Char → List (List Char)
  | [] => [[]]
  | c :: cs =>
    if c = '.' then [] :: cut cs
    else match cut cs with
      | [] => [[c]]
      | s :: rest => (c :: s) :: rest

/-- The segments of a path; the empty path has none. -/
def split (path : String) : Except PathError (List String) :=
  if path.toList = [] then .ok []
  else
    let segments := (cut path.toList).map String.ofList
    if segments.any (· == "") then .error (.malformed path) else .ok segments

/-- A key that a path can address. -/
def isValidKey (key : String) : Bool := key != "" && !key.toList.contains '.'

/-- The path of a segment under a parent. -/
def join (parent segment : String) : String :=
  if parent = "" then segment else parent ++ "." ++ segment

/-- Split off what follows the last point: `a.b.c` gives `a.b` and `c`. -/
def parentAndKey? (path : String) : Option (String × String) :=
  if path.toList = [] then none
  else
    let (key, rest) := path.toList.reverse.span (· != '.')
    match rest with
    | [] => some ("", path)
    | _ :: parent => some (String.ofList parent.reverse, String.ofList key.reverse)

def isDigit (c : Char) : Bool := '0' ≤ c && c ≤ '9'

/-- The index that a segment of decimal digits writes. -/
def index? (segment : String) : Option Nat :=
  let cs := segment.toList
  if cs ≠ [] ∧ cs.all isDigit then
    let n := cs.foldl (fun acc c => 10 * acc + (c.toNat - 48)) 0
    if n < Word64.count then some n else none
  else none

end Path
end ReactiveTree
