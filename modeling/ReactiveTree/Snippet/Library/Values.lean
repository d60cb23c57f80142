import ReactiveTree.Snippet.Library.Basic

/-!
# Functions on values of all kinds

Operators are functions under their symbols. A value carries a mark, its tag, which functions
read and write; a value can be taken out of the place where it is.

Key definitions: `operatorFunctions`, `valueFunctions`, `tagFunction?`.
-/
namespace ReactiveTree.Snippet

open Native

/-- The operators as functions. -/
def operatorFunctions : List Native :=
  (BinaryOp.all.map fun op =>
    .of op.symbol fun | [a, b] => tries (applyBinary op a b) | _ => none) ++
  [UnaryOp.neg, UnaryOp.plus, UnaryOp.not].map fun op =>
    .of op.symbol fun | [a] => tries (applyUnary op a) | _ => none

/-- Functions on functions, and those that take what is left. -/
def valueFunctions : List Native :=
  [.of "name" fun | [.function name _] => gives (.string name) | _ => none,
   .of "is_anonymous" fun
      | [.function name _] => gives (.bool (isLambdaName name))
      | _ => none,
   .of "take" fun | [d] => takes d .unit | _ => none,
   .of "is_empty" fun | [d] => gives (.bool d.isBlank) | _ => none]

/-! ### Tags -/

def leastTag : Int := -2147483648

def greatestTag : Int := 2147483647

/-- A value with another tag, which has 32 bits. -/
def withTag? (d : Datum) (tag : Int) : Result :=
  let failure (size : String) : Result :=
    .error (.arithmetic (Datum.intText tag ++ " is too " ++ size ++
      " to fit into a tag (must be between " ++ Datum.intText leastTag ++ " and " ++
      Datum.intText greatestTag ++ ")"))
  if tag < leastTag then failure "small"
  else if greatestTag < tag then failure "large"
  else .ok (d.withTag tag)

/-- The functions that read and write the tag of a value. -/
def tagFunction? (name : String) (args : List Datum) : Option (Except RunError Outcome) :=
  match name, args with
  | "tag", [d] => gives (.int d.tag)
  | "set_tag", [d, t] =>
    match t.bare with
    | .int tag => some ((withTag? d tag).map fun d => { value := .unit, object := some d })
    | _ => none
  | _, _ => none

end ReactiveTree.Snippet
