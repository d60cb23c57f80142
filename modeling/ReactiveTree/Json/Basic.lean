/-
# JSON values

JSON as this library handles it: object members keep the order in which they stand, and
whole numbers are apart from other numbers. Two more forms stand for what a text can hold
in place of a value: `broken` where the text stops being JSON, and `unusable` for a value
that is well written but cannot be taken (a number beyond all doubles, half of a surrogate
pair, or a container nested too deeply).

Key definitions: `Json`, `Json.isSound`, `Json.sortKeys`, `Json.depth`.
-/
namespace ReactiveTree

inductive Json where
  | null
  | bool (b : Bool)
  /-- A number written without point and exponent. -/
  | int (n : Int)
  | double (x : Float)
  | str (s : String)
  | arr (items : List Json)
  | obj (members : List (String × Json))
  /-- The text stops being JSON here. -/
  | broken
  /-- Well written, but not a value that can be taken. -/
  | unusable
deriving Inhabited

namespace Json

/-- The value of a key. -/
def lookup {α : Type} (key : String) : List (String × α) → Option α
  | [] => none
  | (k, v) :: rest => if k = key then some v else lookup key rest

/-- Take a key out, the others keep their order. -/
def eraseKey {α : Type} (key : String) : List (String × α) → List (String × α)
  | [] => []
  | (k, v) :: rest => if k = key then rest else (k, v) :: eraseKey key rest

/-- Put a member into an object: a key that is present keeps its place and takes the value. -/
def upsert {α : Type} (key : String) (v : α) : List (String × α) → List (String × α)
  | [] => [(key, v)]
  | (k, w) :: rest => if k = key then (k, v) :: rest else (k, w) :: upsert key v rest

/-- Put a member into an object whose keys ascend, replacing the member of that key. -/
def insertSorted {α : Type} (key : String) (v : α) : List (String × α) → List (String × α)
  | [] => [(key, v)]
  | (k, w) :: rest =>
    if k = key then (key, v) :: rest
    else if key < k then (key, v) :: (k, w) :: rest
    else (k, w) :: insertSorted key v rest

/-- Members in ascending order of their keys; of equal keys the last one stands. -/
def sortMembers {α : Type} (ms : List (String × α)) : List (String × α) :=
  ms.foldl (fun acc m => insertSorted m.1 m.2 acc) []

mutual
/-- Nothing in the value is broken or unusable. -/
def isSound : Json → Bool
  | .arr items => allSound items
  | .obj members => membersSound members
  | .broken => false
  | .unusable => false
  | _ => true

def allSound : List Json → Bool
  | [] => true
  | j :: js => isSound j && allSound js

def membersSound : List (String × Json) → Bool
  | [] => true
  | (_, j) :: ms => isSound j && membersSound ms
end

mutual
/-- Nothing in the value is broken; unusable values may stand where nobody looks. -/
def isWellWritten : Json → Bool
  | .arr items => allWellWritten items
  | .obj members => membersWellWritten members
  | .broken => false
  | _ => true

def allWellWritten : List Json → Bool
  | [] => true
  | j :: js => isWellWritten j && allWellWritten js

def membersWellWritten : List (String × Json) → Bool
  | [] => true
  | (_, j) :: ms => isWellWritten j && membersWellWritten ms
end

mutual
/-- The value with the members of every object sorted by key. -/
def sortKeys : Json → Json
  | .arr items => .arr (sortItems items)
  | .obj members => .obj (sortMembers (sortEach members))
  | j => j

def sortItems : List Json → List Json
  | [] => []
  | j :: js => sortKeys j :: sortItems js

def sortEach : List (String × Json) → List (String × Json)
  | [] => []
  | (k, j) :: ms => (k, sortKeys j) :: sortEach ms
end

mutual
/-- How many containers are nested in the value. -/
def depth : Json → Nat
  | .arr items => itemsDepth items + 1
  | .obj members => membersDepth members + 1
  | _ => 0

def itemsDepth : List Json → Nat
  | [] => 0
  | j :: js => max (depth j) (itemsDepth js)

def membersDepth : List (String × Json) → Nat
  | [] => 0
  | (_, j) :: ms => max (depth j) (membersDepth ms)
end

end Json
end ReactiveTree
