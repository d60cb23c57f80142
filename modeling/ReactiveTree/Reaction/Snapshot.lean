import ReactiveTree.Json.Form
import ReactiveTree.Tree.Basic

/-!
# Snapshots

The value of every primitive of a tree at one time, by path. A snapshot is written as one JSON
object; numbers that are not finite are written as `null`, which no snapshot may hold.

Key definitions: `Snapshot`, `Snapshot.capture`, `Snapshot.ofText`, `Snapshot.toWire`.
-/
namespace ReactiveTree

structure Snapshot where
  /-- The values in ascending order of their paths. -/
  values : List (String × Scalar) := []
deriving Inhabited

namespace Snapshot

/-- The values of a tree. -/
def capture (t : Tree) : Snapshot :=
  ⟨Json.sortMembers (t.primitives.filterMap fun e => e.node.value?.map fun v => (e.path, v))⟩

def find? (s : Snapshot) (path : String) : Option Scalar := Json.lookup path s.values

def size (s : Snapshot) : Nat := s.values.length

def isEmpty (s : Snapshot) : Bool := s.values.isEmpty

/-- A value by itself. -/
def readValue (j : Json) : Except Fault Scalar :=
  if !j.isSound then .error .notJson
  else
    match j with
    | .str s => .ok (.string s)
    | .bool b => .ok (.boolean b)
    | .int n => .ok (.number (Scalar.ofInt n))
    | .double x => .ok (.number x)
    | _ => .error .shape

def read (j : Json) : Except Fault Snapshot :=
  (Json.readMap readValue j).map fun values => ⟨Json.sortMembers values⟩

/-- The snapshot that a text writes. -/
def ofText (text : String) : Except Fault Snapshot := Json.readDocument read text

def toWire (s : Snapshot) : Json := .obj (s.values.map fun (path, v) => (path, v.toWire))

end Snapshot
end ReactiveTree
