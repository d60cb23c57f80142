import ReactiveTree.Snippet.Library.Basic

/-!
# Functions on arrays and maps

Arrays and maps are changed in place; what is taken out is the result.

Key definitions: `arrayFunctions`, `mapFunctions`.
-/
namespace ReactiveTree.Snippet

open Native

/-- A function that changes an array. -/
def changesItems (name : String) (f : List Datum → List Datum) : Native :=
  .of name fun | [.array xs] => becomes (.array (f xs)) | _ => none

/-! ### Sorting -/

/-- The order of two values of one simple type. -/
def comesBefore (a b : Datum) : Bool :=
  match a.bare, b.bare with
  | .int a, .int b => a < b
  | .float x, .float y => x < y
  | .string s, .string t => s < t
  | .char c, .char d => c < d
  | .bool a, .bool b => !a && b
  | _, _ => false

/-- Insert an item into those before it, the last one first, behind all that it does not come
before. -/
def insertOrdered (d : Datum) : List Datum → List Datum
  | [] => [d]
  | e :: es => if comesBefore d e then e :: insertOrdered d es else d :: e :: es

/-- Sort items, keeping the order of equal ones. -/
def sortItems (xs : List Datum) : List Datum :=
  (xs.foldl (fun acc d => insertOrdered d acc) []).reverse

/-- The types whose values are sorted by themselves. -/
def sortedTypes : List String := ["i64", "f64", "string", "char", "bool", "()"]

/-- Go on with the sorted items, which must all have one type that has an order. -/
def sortedBy (name : String) (xs : List Datum)
    (next : List Datum → Option (Except RunError Outcome)) : Option (Except RunError Outcome) :=
  match xs with
  | x :: y :: rest =>
    if !(y :: rest).all (·.typeName == x.typeName) then
      fails (.functionNotFound (name ++ "() cannot be called with elements of different types") "")
    else if sortedTypes.contains x.typeName then next (sortItems xs)
    else fails (.functionNotFound ("elements of " ++ x.typeName ++ " cannot be sorted") "")
  | xs => next xs

/-- Drop an item that is equal to the one before it. -/
def dropRepeats (last : Datum) : List Datum → List Datum
  | [] => [last]
  | d :: ds =>
    if (equal last d).toOption.getD false then dropRepeats last ds else last :: dropRepeats d ds

/-! ### Finding -/

/-- The position of the first item that is equal to a value. -/
def positionOf (d : Datum) : Nat → List Datum → Except RunError Int
  | _, [] => .ok (-1)
  | i, e :: es =>
    match unlessTypesDiffer e d (equal e d) with
    | .ok true => .ok i
    | .ok false => positionOf d (i + 1) es
    | .error e => .error e

/-- How deep comparing an item with those of a list nests. -/
def compareDepth (xs : List Datum) (d : Datum) : Nat :=
  if xs.isEmpty then 0 else d.nesting + 1

def arrayFunctions : List Native :=
  [.of "len" fun | [.array xs] => gives (.int xs.length) | _ => none,
   .of "is_empty" fun | [.array xs] => gives (.bool xs.isEmpty) | _ => none,
   .of "push" fun | [.array xs, d] => becomes (.array (xs ++ [d])) | _ => none,
   .of "append" fun | [.array xs, .array ys] => becomes (.array (xs ++ ys)) | _ => none,
   .of "insert" fun
      | [.array xs, .int i, d] =>
        let place := startOf xs.length i
        becomes (.array (xs.take place ++ d :: xs.drop place))
      | _ => none,
   .of "pop" fun
      | [.array xs] => takes (xs.getLast?.getD .unit) (.array xs.dropLast)
      | _ => none,
   .of "shift" fun
      | [.array xs] => takes (xs.head?.getD .unit) (.array xs.tail)
      | _ => none,
   .of "remove" fun
      | [.array xs, .int i] =>
        match position? xs.length i with
        | some i => takes ((xs[i]?).getD .unit) (.array (xs.eraseIdx i))
        | none => takes .unit (.array xs)
      | _ => none,
   changesItems "clear" fun _ => [],
   .of "truncate" fun
      | [.array xs, .int n] => becomes (.array (xs.take (lengthOf n)))
      | _ => none,
   .of "chop" fun
      | [.array xs, .int n] => becomes (.array (xs.drop (xs.length - lengthOf n)))
      | _ => none,
   { name := "pad"
     run := fun limits => fun
      | [.array xs, .int n, d] =>
        if within limits.items (lengthOf n) then
          becomes (.array (xs ++ List.replicate (lengthOf n - xs.length) d))
        else fails (.tooLarge "Size of array/BLOB")
      | _ => none },
   changesItems "reverse" List.reverse,
   .of "sort" fun | [.array xs] => sortedBy "sort" xs fun ys => becomes (.array ys) | _ => none,
   .of "sort_desc" fun
      | [.array xs] => sortedBy "sort_desc" xs fun ys => becomes (.array ys.reverse)
      | _ => none,
   .of "dedup" fun
      | [.array []] => becomes (.array [])
      | [.array (x :: xs)] => through (compareDepth xs x) (becomes (.array (dropRepeats x xs)))
      | _ => none,
   .of "order" fun | [.array xs] => sortedBy "sort" xs fun ys => gives (.array ys) | _ => none,
   .of "order_desc" fun
      | [.array xs] => sortedBy "sort_desc" xs fun ys => gives (.array ys.reverse)
      | _ => none,
   .of "get" fun | [.array xs, .int i] => gives ((itemAt? xs i).getD .unit) | _ => none,
   .of "set" fun | [.array xs, .int i, d] => becomes (.array (withItemAt xs i d)) | _ => none,
   .of "contains" fun
      | [c@(.array xs), d] => through (compareDepth xs d) (tries (contains c d))
      | _ => none,
   .of "index_of" fun
      | [.array _, .function _ _] => none
      | [.array xs, d] => through (compareDepth xs d) (tries ((positionOf d 0 xs).map .int))
      | [.array xs, d, .int start] =>
        let i := startOf xs.length start
        through (compareDepth (xs.drop i) d) (tries ((positionOf d i (xs.drop i)).map .int))
      | _ => none,
   .of "extract" fun
      | .array xs :: args => (tailOf? args).bind fun p => gives (.array (p.items xs))
      | _ => none,
   .of "drain" fun
      | .array xs :: args =>
        match partOf? args with
        | some (p, []) => takes (.array (p.items xs)) (.array (p.others xs))
        | _ => none
      | _ => none,
   .of "retain" fun
      | .array xs :: args =>
        match partOf? args with
        | some (p, []) =>
          if (p.items xs).isEmpty then takes (.array []) (.array xs)
          else takes (.array (p.others xs)) (.array (p.items xs))
        | _ => none
      | _ => none,
   .of "splice" fun
      | .array xs :: args =>
        match partOf? args with
        | some (p, [.array ys]) => becomes (.array (p.replaced ys xs))
        | _ => none
      | _ => none,
   .of "split" fun
      | [.array xs, .int i] =>
        let place := startOf xs.length i
        takes (.array (xs.drop place)) (.array (xs.take place))
      | _ => none]

def mapFunctions : List Native :=
  [.of "len" fun | [.map es] => gives (.int es.length) | _ => none,
   .of "is_empty" fun | [.map es] => gives (.bool es.isEmpty) | _ => none,
   .of "contains" fun
      | [c@(.map _), d@(.string _)] => tries (contains c d)
      | _ => none,
   .of "get" fun
      | [.map es, .string k] => gives ((Json.lookup k es).getD .unit)
      | _ => none,
   .of "set" fun | [.map es, .string k, d] => becomes (.map (Json.insertSorted k d es)) | _ => none,
   .of "clear" fun | [.map _] => becomes (.map []) | _ => none,
   .of "remove" fun
      | [.map es, .string k] =>
        takes ((Json.lookup k es).getD .unit) (.map (Json.eraseKey k es))
      | _ => none,
   .of "keys" fun | [.map es] => gives (.array (es.map fun e => .string e.1)) | _ => none,
   .of "values" fun | [.map es] => gives (.array (es.map (·.2))) | _ => none,
   .of "mixin" fun | [.map a, .map b] => becomes (.map (mergeEntries a b)) | _ => none,
   .of "fill_with" fun | [.map a, .map b] => becomes (.map (mergeEntries b a)) | _ => none,
   .of "to_json" fun | [d@(.map _)] => gives (.string d.jsonText) | _ => none]

end ReactiveTree.Snippet
