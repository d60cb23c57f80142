/-
# Places in a source

A place is a line and a column, both counted from one.

Key definitions: `Position`, `Position.table`, `Position.shown`.
-/
namespace ReactiveTree.Snippet

structure Position where
  line : Nat
  column : Nat
deriving Repr, DecidableEq, Inhabited

namespace Position

/-- The place of the first character. -/
def start : Position := ⟨1, 1⟩

/-- The place after a character. -/
def next (p : Position) (c : Char) : Position :=
  if c = '\n' then ⟨p.line + 1, 1⟩ else ⟨p.line, p.column + 1⟩

/-- The places of the characters of a text, and of its end. -/
def table (cs : List Char) : Array Position :=
  (cs.foldl (fun (places, p) c => (places.push (p.next c), p.next c)) (#[start], start)).1

/-- The place as messages show it. -/
def shown (p : Position) : String :=
  " (line " ++ toString p.line ++ ", position " ++ toString p.column ++ ")"

end Position
end ReactiveTree.Snippet
