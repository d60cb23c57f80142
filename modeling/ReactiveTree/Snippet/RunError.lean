import ReactiveTree.Snippet.Limits
import ReactiveTree.Snippet.Syntax

/-!
# Why a running snippet stops

Most failures can be caught by the snippet itself; those that come from a limit cannot. A failure
inside a call is wrapped in one that names the function. A snippet that catches a failure gets
what was thrown, or a map that describes the failure.

Key definitions: `RunError`, `RunError.message`, `RunError.root`, `RunError.catchable`,
`RunError.caught`.
-/
namespace ReactiveTree.Snippet

inductive RunError where
  | thrown (value : Datum)
  /-- The snippet ends with a value; a failure only where a call does not let it through. -/
  | exited (value : Datum)
  /-- A text that is read while the snippet runs is not well-formed. -/
  | malformed
  | variableNotFound (name : String)
  | moduleNotFound (name : String)
  /-- No function takes the arguments that the detail lists. -/
  | functionNotFound (name detail : String)
  /-- A property that values of the type do not have. -/
  | unknownProperty (name type : String)
  | notWritable (name type value : String)
  | notIndexed (access : String)
  | arrayIndex (index : Int) (len : Nat)
  | textIndex (index : Int) (len : Nat)
  | bitIndex (index : Int)
  | wrongType (actual expected : String)
  | wrongOutput (actual expected : String)
  /-- Arithmetic without a result. -/
  | arithmetic (text : String)
  | constantChanged (name : String)
  /-- A function that changes its object is called on a constant. -/
  | constantObject (name : String)
  | constantProperty (name : String)
  | notIterable
  | noObject
  | tooDeep
  | tooManyOperations
  | timedOut
  /-- A value beyond a limit on sizes. -/
  | tooLarge (what : String)
  /-- A failure at a place inside a function. -/
  | inCall (name : String) (inner : RunError) (pos : Option Position)
deriving Inhabited

namespace RunError

/-- How many things of a kind there are, as messages count them. -/
def count (len : Nat) (one many place none : String) : String :=
  if len = 0 then none
  else "only " ++ toString len ++ " " ++ (if len = 1 then one else many) ++ " in " ++ place

def placeText (pos : Option Position) : String := (pos.map Position.shown).getD ""

/-- The text of a failure. -/
def message : RunError → String
  | thrown v => if v.hostText = "" then "Runtime error" else "Runtime error: " ++ v.hostText
  | exited _ => "NOT AN ERROR - exit value"
  | malformed => "syntax error: the text is not well-formed"
  | variableNotFound n => "Variable not found: " ++ n
  | moduleNotFound n => "Module not found: " ++ n
  | functionNotFound n detail => "Function not found: " ++ n ++ detail
  | unknownProperty n t =>
    "Unknown property '" ++ n ++ "' - a getter is not registered for type '" ++ t ++ "'"
  | notWritable n t v =>
    "No writable property '" ++ n ++ "' - a setter is not registered for type '" ++ t ++
      "' to handle '" ++ v ++ "'"
  | notIndexed access => "Indexer unavailable: " ++ access
  | arrayIndex i n => "Array index " ++ Datum.intText i ++ " out of bounds: " ++
      count n "element" "elements" "array" "array is empty"
  | textIndex i n => "String index " ++ Datum.intText i ++ " out of bounds: " ++
      count n "character" "characters" "string" "string is empty"
  | bitIndex i =>
    "Bit-field index " ++ Datum.intText i ++ " out of bounds: only 64 bits in bit-field"
  | wrongType actual expected =>
    "Data type incorrect: " ++ actual ++ " (expecting " ++ expected ++ ")"
  | wrongOutput actual expected =>
    "Output type incorrect: " ++ actual ++ " (expecting " ++ expected ++ ")"
  | arithmetic t => t
  | constantChanged n => if n = "" then "Cannot modify constant" else "Cannot modify constant " ++ n
  | constantObject n => "Non-pure method '" ++ n ++ "' cannot be called on constant"
  | constantProperty n => "Cannot modify property '" ++ n ++ "' of constant"
  | notIterable => "For loop expects iterable type"
  | noObject => "'this' not bound"
  | tooDeep => "Stack overflow"
  | tooManyOperations => "Too many operations"
  | timedOut => "Script terminated"
  | tooLarge what => what ++ " too large"
  | inCall name inner pos =>
    inner.message ++ placeText pos ++ "\nin call to " ++
      (if isLambdaName name then "closure" else "function '" ++ name ++ "'")

/-- The failure without the calls around it. -/
def root : RunError → RunError
  | inCall _ e _ => e.root
  | e => e

/-- A call lets the failure through as it is. -/
def passes : RunError → Bool
  | exited _ | malformed | tooDeep | tooManyOperations | timedOut | tooLarge _ => true
  | _ => false

/-- A snippet may handle the failure. -/
def catchable (e : RunError) : Bool := !e.passes

/-- The kind of a failure as a handler sees it. -/
def kind : RunError → String
  | thrown _ => "ErrorRuntime"
  | exited _ => "Exit"
  | malformed => "ErrorParsing"
  | variableNotFound _ => "ErrorVariableNotFound"
  | moduleNotFound _ => "ErrorModuleNotFound"
  | functionNotFound _ _ => "ErrorFunctionNotFound"
  | unknownProperty _ _ | notWritable _ _ _ => "ErrorDotExpr"
  | notIndexed _ => "ErrorIndexingType"
  | arrayIndex _ _ => "ErrorArrayBounds"
  | textIndex _ _ => "ErrorStringBounds"
  | bitIndex _ => "ErrorBitFieldBounds"
  | wrongType _ _ => "ErrorMismatchDataType"
  | wrongOutput _ _ => "ErrorMismatchOutputType"
  | arithmetic _ => "ErrorArithmetic"
  | constantChanged _ => "ErrorAssignmentToConstant"
  | constantObject _ | constantProperty _ => "ErrorNonPureMethodCallOnConstant"
  | notIterable => "ErrorFor"
  | noObject => "ErrorUnboundThis"
  | tooDeep => "ErrorStackOverflow"
  | tooManyOperations => "ErrorTooManyOperations"
  | timedOut => "ErrorTerminated"
  | tooLarge _ => "ErrorDataTooLarge"
  | inCall _ _ _ => "ErrorInFunctionCall"

/-- What a handler learns of a failure besides its kind, its place and its text. -/
def details : RunError → List (String × Datum)
  | variableNotFound n => [("variable", .string n)]
  | constantChanged n => [("variable", .string n)]
  | moduleNotFound n => [("module", .string n)]
  | functionNotFound n detail => [("function", .string (n ++ detail))]
  | constantObject n => [("function", .string n)]
  | constantProperty n => [("function", .string ("set$" ++ n))]
  | inCall n _ _ => [("function", .string n), ("source", .string "")]
  | e@(unknownProperty _ _) => [("property", .string e.message)]
  | e@(notWritable _ _ _) => [("property", .string e.message)]
  | notIndexed access => [("type", .string access)]
  | arrayIndex i n => [("length", .int n), ("index", .int i)]
  | textIndex i n => [("length", .int n), ("index", .int i)]
  | bitIndex i => [("length", .int 64), ("index", .int i)]
  | wrongType actual expected => [("requested", .string expected), ("actual", .string actual)]
  | wrongOutput actual expected => [("requested", .string expected), ("actual", .string actual)]
  | _ => []

/-- The map that describes a failure at a place. -/
def description (e : RunError) (pos : Option Position) : Datum :=
  let place : List (String × Datum) := match pos with
    | some p => [("line", .int p.line), ("position", .int p.column)]
    | none => []
  .map ((("error", .string e.kind) :: ("message", .string e.message) :: place ++ e.details).foldl
    (fun acc (k, d) => Json.insertSorted k d acc) [])

/-- What a handler gets for a failure at a place. -/
def caught (e : RunError) (pos : Option Position) : Datum :=
  match e.root with
  | thrown v => v
  | _ => e.description pos

end RunError

/-- No function of a name takes the arguments. -/
def notFound (name : String) (args : List Datum) : RunError :=
  .functionNotFound name (" (" ++ String.intercalate ", " (args.map Datum.argumentType) ++ ")")

/-- What is too large about a size. -/
def Limits.tooLarge? (l : Limits) (s : Datum.Size) : Option RunError :=
  if !within l.text s.text then some (.tooLarge "Length of string")
  else if !within l.items s.items then some (.tooLarge "Size of array/BLOB")
  else if !within l.entries s.entries then some (.tooLarge "Size of object map")
  else none

end ReactiveTree.Snippet
