import ReactiveTree.Snippet.Limits
import ReactiveTree.Snippet.Operators

/-!
# Functions that snippets can call

A function is found by its name and takes the arguments that it knows what to do with. Those
that change their first argument give its new value beside the result.

Key definitions: `Outcome`, `Native`, `Native.find?`, `Part`, `partOf?`.
-/
namespace ReactiveTree.Snippet

/-- What a function gives back. -/
structure Outcome where
  value : Datum
  /-- The first argument, if the function changes it. -/
  object : Option Datum := none
  /-- How deep the functions nest that the function calls on its way. -/
  depth : Nat := 0
deriving Inhabited

/-- What a function does with its arguments; none for those that it does not take. -/
abbrev Native.Run := Limits → List Datum → Option (Except RunError Outcome)

/-- A function of the library. -/
structure Native where
  name : String
  run : Native.Run
  /-- The first argument is looked at in its place, and must be within the limits there. -/
  inPlace : Bool := false

namespace Native

/-- A result without any change. -/
def gives (d : Datum) : Option (Except RunError Outcome) := some (.ok { value := d })

/-- A result that may be a failure. -/
def tries (r : Result) : Option (Except RunError Outcome) := some (r.map fun d => { value := d })

def fails (e : RunError) : Option (Except RunError Outcome) := some (.error e)

/-- No result, but a new value of the first argument. -/
def becomes (d : Datum) : Option (Except RunError Outcome) :=
  some (.ok { value := .unit, object := some d })

/-- A result, and a new value of the first argument. -/
def takes (value object : Datum) : Option (Except RunError Outcome) :=
  some (.ok { value, object := some object })

/-- A result that calls of other functions lead to, nested to a depth. -/
def through (depth : Nat) (o : Option (Except RunError Outcome)) :
    Option (Except RunError Outcome) :=
  o.map fun r => r.map fun o => { o with depth }

/-- A function that needs no limits. -/
def of (name : String) (run : List Datum → Option (Except RunError Outcome)) : Native :=
  { name, run := fun _ => run }

/-- The first function of a name that takes the arguments, and what it does. -/
def find? (table : List Native) (limits : Limits) (name : String) (args : List Datum) :
    Option (Native × Except RunError Outcome) :=
  table.findSome? fun f => if f.name = name then (f.run limits args).map (f, ·) else none

end Native

/-! ### Positions -/

/-- The position that an index means in a list; a negative one counts from the end. -/
def position? (len : Nat) (i : Int) : Option Nat :=
  if 0 ≤ i then (if i < len then some i.toNat else none)
  else if i.natAbs ≤ len then some (len - i.natAbs) else none

/-- Where a part starts: negative positions count from the end, others stop there. -/
def startOf (len : Nat) (i : Int) : Nat :=
  if i < 0 then len - i.natAbs else min i.toNat len

/-- The item at an index, from the first one on. -/
def itemAt? {α : Type} (xs : List α) (i : Int) : Option α := xs[startOf xs.length i]?

/-- The list with another item at an index, if there is one. -/
def withItemAt {α : Type} (xs : List α) (i : Int) (x : α) : List α := xs.set (startOf xs.length i) x

/-- A part of a list: where it starts, counted from the end if negative, and how long it is. -/
structure Part where
  start : Int
  len : Int

namespace Part

/-- The part that a range describes. A closed range has at least one position. -/
def ofRange (lo hi : Int) (closed : Bool) : Part :=
  let start := max lo 0
  let stop := max hi start
  ⟨start, if closed then stop - start + 1 else stop - start⟩

/-- The part that a range describes; a closed range may be empty. -/
def ofRangeOrNone (lo hi : Int) (closed : Bool) : Part :=
  let start := max lo 0
  if closed then ⟨start, max hi (start - 1) - start + 1⟩ else ⟨start, max hi start - start⟩

/-- Where the part starts and ends in a list of a length. -/
def bounds (p : Part) (len : Nat) : Nat × Nat :=
  let i := startOf len p.start
  (i, min len (i + p.len.toNat))

/-- The items of the part. -/
def items {α : Type} (p : Part) (xs : List α) : List α :=
  let (i, j) := p.bounds xs.length
  (xs.take j).drop i

/-- The items outside of the part. -/
def others {α : Type} (p : Part) (xs : List α) : List α :=
  let (i, j) := p.bounds xs.length
  xs.take i ++ xs.drop j

/-- The list with other items instead of the part. -/
def replaced {α : Type} (p : Part) (new xs : List α) : List α :=
  let (i, j) := p.bounds xs.length
  xs.take i ++ new ++ xs.drop j

end Part

/-- The part that the first arguments describe, as a range or as a start and a length, and the
arguments after it. -/
def partOf? : List Datum → Option (Part × List Datum)
  | .range lo hi closed :: rest => some (.ofRange lo hi closed, rest)
  | .int start :: .int len :: rest => some (⟨start, len⟩, rest)
  | _ => none

/-- The part that arguments describe, which may also go from a start to the end. -/
def tailOf? : List Datum → Option Part
  | [.int start] => some ⟨start, Word64.maxInt⟩
  | args =>
    match partOf? args with
    | some (p, []) => some p
    | _ => none

/-- Where something is found first in a list, from a position on. -/
def indexOf {α : Type} (found : List α → Bool) (start : Nat) (xs : List α) : Int :=
  go start (xs.drop start)
where
  go (i : Nat) : List α → Int
    | [] => if found [] then i else -1
    | x :: rest => if found (x :: rest) then i else go (i + 1) rest

/-- How many positions a length asks for. -/
def lengthOf (n : Int) : Nat := n.toNat

/-- How deep functions nest that find the text of a value for another function. -/
def textDepth (d : Datum) : Nat :=
  match d.bare with
  | .string _ | .char _ | .unit => 0
  | d => d.nesting + 1

end ReactiveTree.Snippet
