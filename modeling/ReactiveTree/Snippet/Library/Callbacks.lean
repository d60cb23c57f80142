import ReactiveTree.Snippet.Library.Basic
import ReactiveTree.Snippet.Machine

/-!
# Functions that call functions

What is done with the items of an array or a map may be given as a function: it gets an item, or
an item and its position or key, or the item as its object. Most of these functions also take the
name of one. A failure of the function given is one inside the function that calls it; where
items are compared, a failure is no answer instead.

Key definitions: `CallArgs`, `Caller`, `callbackFunction?`.
-/
namespace ReactiveTree.Snippet

/-- What a function is called with. -/
structure CallArgs where
  args : List Datum := []
  /-- The arguments that it may take besides. -/
  extra : List Datum := []
  /-- The item that is its object, or one of its arguments. -/
  item : Option Datum := none
  /-- Where the item may stand among the arguments. -/
  place : Option Nat := none

/-- How a function is called. The item is given back. -/
abbrev Caller := Datum → CallArgs → Run (Datum × Option Datum)

/-- A call inside the function of a name. -/
def callFrom (name : String) (call : Caller) : Caller := fun f given m =>
  match call f given m with
  | .error (.fault e pos) m => .error (.fault (.inCall name e pos) none) m
  | r => r

/-- A truth value, and false for everything else. -/
def holds (d : Datum) : Bool :=
  match d.bare with
  | .bool b => b
  | _ => false

/-- Something is there. -/
def isThere (d : Datum) : Bool :=
  match d.bare with
  | .unit => false
  | _ => true

/-- What a function gets for an item at a position. -/
def CallArgs.ofItem (x : Datum) (i : Nat) : CallArgs :=
  { extra := [.int i], item := some x, place := some 0 }

/-- What a function gets for an entry of a map. -/
def CallArgs.ofEntry (key : String) (x : Datum) : CallArgs :=
  { args := [.string key], item := some x, place := some 1 }

/-- The results for the items of an array, and the items afterwards. -/
def overArray (call : Caller) (f : Datum) (xs : List Datum) : Run (List (Datum × Datum)) :=
  xs.zipIdx.mapM fun (x, i) => do
    let (r, x') ← call f (.ofItem x i)
    return (r, x'.getD x)

/-- The first item whose result is of use. -/
def firstOf (call : Caller) (f : Datum) (wanted : Datum → Bool) :
    List (Datum × Nat) → Run (Option (Datum × Datum × Nat))
  | [] => return none
  | (x, i) :: rest => do
    let (r, _) ← call f (.ofItem x i)
    if wanted r then return some (r, x, i) else firstOf call f wanted rest

/-- The items of an array from a position on, with their positions. -/
def itemsFrom (xs : List Datum) (start : Int) : List (Datum × Nat) :=
  xs.zipIdx.drop (startOf xs.length start)

/-- Combine a result with each item in turn. -/
def reduceItems (call : Caller) (f : Datum) (acc : Datum) (xs : List (Datum × Nat)) : Run Datum :=
  xs.foldlM (fun acc (x, i) =>
    return (← call f { args := [acc], extra := [.int i], item := some x, place := some 1 }).1) acc

/-- The result for some arguments; unit if there is none. -/
def attempted (call : Caller) (f : Datum) (args : List Datum) : Run Datum := fun m =>
  match call f { args } m with
  | .ok (r, _) m => .ok r m
  | .error (.fault _ _) m => .ok .unit m
  | .error e m => .error e m

/-- The order that a result stands for: the first of two items stays before the second. -/
def staysBefore (d : Datum) : Bool :=
  match d.bare with
  | .int n => n ≤ 0
  | .bool less => less
  | _ => true

/-- Insert an item into those before it, the last one first, by an order that a function gives. -/
def insertBy (call : Caller) (f d : Datum) : List Datum → Run (List Datum)
  | [] => return [d]
  | e :: es => do
    if staysBefore (← attempted call f [e, d]) then return d :: e :: es
    else return e :: (← insertBy call f d es)

/-- Sort items by an order that a function gives. -/
def sortBy (call : Caller) (f : Datum) (xs : List Datum) : Run (List Datum) :=
  return (← xs.foldlM (fun acc d => insertBy call f d acc) []).reverse

/-- Drop the items that a function finds equal to the one before. -/
def dropRepeatsBy (call : Caller) (f last : Datum) : List Datum → Run (List Datum)
  | [] => return [last]
  | d :: ds => do
    if holds (← attempted call f [last, d]) then dropRepeatsBy call f last ds
    else return last :: (← dropRepeatsBy call f d ds)

/-- Split the items by what a function says of them. -/
def partitionBy (call : Caller) (f : Datum) (xs : List Datum) : Run (List Datum × List Datum) := do
  let results ← overArray call f xs
  return (results.filterMap fun (r, x) => if holds r then some x else none,
    results.filterMap fun (r, x) => if holds r then none else some x)

/-- Split the entries of a map by what a function says of them. -/
def partitionEntries (call : Caller) (f : Datum) (es : List (String × Datum)) :
    Run (List (String × Datum) × List (String × Datum)) := do
  let results ← es.mapM fun (k, x) => do
    let (r, x') ← call f (.ofEntry k x)
    return (holds r, k, x'.getD x)
  return ((results.filter (·.1)).map (·.2), (results.filter (!·.1)).map (·.2))

/-- The functions that take the name of a function as well. -/
def takesName (name : String) : Bool :=
  ["map", "filter", "index_of", "some", "all", "dedup", "reduce", "reduce_rev", "drain", "retain",
    "sort", "sort_by", "order_by"].contains name

/-- The functions that change their object through another function. -/
def changesObject (name : String) : Bool :=
  ["for_each", "sort", "sort_by", "retain", "drain", "dedup"].contains name

/-- The arguments with a function in the place of its name. -/
def withNamed (name : String) : List Datum → List Datum
  | .array xs :: .string f :: rest =>
    .array xs :: (if takesName name then .function f [] else .string f) :: rest
  | args => args

/-- The function of a name that calls its argument; none for arguments that it does not take. -/
def callbackFunction? (call : Caller) (name : String) (args : List Datum) : Option (Run Outcome) :=
  let call := callFrom name call
  match name, withNamed name args with
  | "map", [.array xs, f@(.function _ _)] => some do
    let results ← overArray call f xs
    return { value := .array (results.map (·.1)) }
  | "filter", [.array xs, f@(.function _ _)] => some do
    return { value := .array (← partitionBy call f xs).1 }
  | "filter", [.map es, f@(.function _ _)] => some do
    return { value := .map (← partitionEntries call f es).1 }
  | "for_each", [.array xs, f@(.function _ _)] => some do
    let results ← xs.zipIdx.mapM fun (x, i) =>
      return ((← call f { extra := [.int i], item := some x }).2).getD x
    return { value := .unit, object := some (.array results) }
  | "reduce", [.array xs, f@(.function _ _)] => some do
    return { value := ← reduceItems call f .unit xs.zipIdx }
  | "reduce", [.array xs, f@(.function _ _), start] => some do
    return { value := ← reduceItems call f start xs.zipIdx }
  | "reduce_rev", [.array xs, f@(.function _ _)] => some do
    return { value := ← reduceItems call f .unit xs.zipIdx.reverse }
  | "reduce_rev", [.array xs, f@(.function _ _), start] => some do
    return { value := ← reduceItems call f start xs.zipIdx.reverse }
  | "find", [.array xs, f@(.function _ _)] => some do
    return { value := ((← firstOf call f holds xs.zipIdx).map (·.2.1)).getD .unit }
  | "find", [.array xs, f@(.function _ _), .int start] => some do
    return { value := ((← firstOf call f holds (itemsFrom xs start)).map (·.2.1)).getD .unit }
  | "find_map", [.array xs, f@(.function _ _)] => some do
    return { value := ((← firstOf call f isThere xs.zipIdx).map (·.1)).getD .unit }
  | "find_map", [.array xs, f@(.function _ _), .int start] => some do
    return { value := ((← firstOf call f isThere (itemsFrom xs start)).map (·.1)).getD .unit }
  | "index_of", [.array xs, f@(.function _ _)] => some do
    let found ← firstOf call f holds xs.zipIdx
    return { value := .int ((found.map fun r => (r.2.2 : Int)).getD (-1)) }
  | "index_of", [.array xs, f@(.function _ _), .int start] => some do
    return { value := .int (((← firstOf call f holds (itemsFrom xs start)).map
      fun r => (r.2.2 : Int)).getD (-1)) }
  | "zip", [.array xs, .array ys, f@(.function _ _)] => some do
    let results ← (xs.zip ys).zipIdx.mapM fun ((x, y), i) =>
      call f { args := [x, y], extra := [.int i] }
    return { value := .array (results.map (·.1)) }
  | "some", [.array xs, f@(.function _ _)] => some do
    return { value := .bool (← firstOf call f holds xs.zipIdx).isSome }
  | "all", [.array xs, f@(.function _ _)] => some do
    return { value := .bool (← firstOf call f (!holds ·) xs.zipIdx).isNone }
  | "sort", [.array xs, f@(.function _ _)] => some do
    return { value := .unit, object := some (.array (← sortBy call f xs)) }
  | "sort_by", [.array xs, f@(.function _ _)] => some do
    return { value := .unit, object := some (.array (← sortBy call f xs)) }
  | "order_by", [.array xs, f@(.function _ _)] => some do
    return { value := .array (← sortBy call f xs) }
  | "retain", [.array xs, f@(.function _ _)] => some do
    let (kept, dropped) ← partitionBy call f xs
    return { value := .array dropped, object := some (.array kept) }
  | "retain", [.map es, f@(.function _ _)] => some do
    let (kept, dropped) ← partitionEntries call f es
    return { value := .map dropped, object := some (.map kept) }
  | "drain", [.array xs, f@(.function _ _)] => some do
    let (taken, kept) ← partitionBy call f xs
    return { value := .array taken, object := some (.array kept) }
  | "drain", [.map es, f@(.function _ _)] => some do
    let (taken, kept) ← partitionEntries call f es
    return { value := .map taken, object := some (.map kept) }
  | "dedup", [.array xs, f@(.function _ _)] => some do
    match xs with
    | [] => return { value := .unit, object := some (.array []) }
    | x :: rest =>
      return { value := .unit, object := some (.array (← dropRepeatsBy call f x rest)) }
  | _, _ => none

end ReactiveTree.Snippet
