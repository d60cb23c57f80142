import ReactiveTree.Snippet.Syntax

/-!
# Parts of a program without effect

An expression is constant if its value is known without running anything, and pure if nothing
but its value matters. A pure statement does nothing. A declaration does nothing that is seen
outside of its block.

Key definitions: `isCallable`, `Expr.value?`, `Expr.isPure`, `Stmt.isPure`,
`Stmt.isPureInside`, `Stmt.hasValue`.
-/
namespace ReactiveTree.Snippet

/-- A text can be the name of a function: a name, a fixed word or a symbol. -/
def isCallable (s : String) : Bool :=
  Token.isNameWord s.toList || Token.fixedWords.contains s || s == "_" ||
    match Token.symbol? s.toList with
    | some (_, []) => true
    | _ => false

/-! ### Constants -/

mutual
/-- The value that an expression writes, if it writes one. -/
def Expr.value? : Expr → Option Datum
  | .constant d _ => some d
  | .text parts _ => (joined? parts).map .string
  | .array items _ => (values? items).map .array
  | .map entries _ => (entryValues? entries).map .map
  | .binary .rangeOpen (.constant (.int a) _) (.constant (.int b) _) _ => some (.range a b false)
  | .binary .rangeClosed (.constant (.int a) _) (.constant (.int b) _) _ => some (.range a b true)
  | .call "Fn" [.constant (.string s) _] _ _ => if isCallable s then some (.function s []) else none
  | _ => none

def joined? : List Expr → Option String
  | [] => some ""
  | e :: es =>
    match e.value?, joined? es with
    | some d, some s => some (d.hostText ++ s)
    | _, _ => none

def values? : List Expr → Option (List Datum)
  | [] => some []
  | e :: es =>
    match e.value?, values? es with
    | some d, some ds => some (d :: ds)
    | _, _ => none

def entryValues? : List (String × Expr) → Option (List (String × Datum))
  | [] => some []
  | (k, e) :: es =>
    match e.value?, entryValues? es with
    | some d, some ds => some (Json.insertSorted k d ds)
    | _, _ => none
end

mutual
/-- The expression is made of constants alone. -/
def Expr.isConstant : Expr → Bool
  | .constant _ _ => true
  | .text parts _ => allConstant parts
  | .array items _ => allConstant items
  | .map entries _ => entriesConstant entries
  | _ => false

def allConstant : List Expr → Bool
  | [] => true
  | e :: es => e.isConstant && allConstant es

def entriesConstant : List (String × Expr) → Bool
  | [] => true
  | (_, e) :: es => e.isConstant && entriesConstant es
end

/-! ### Effects -/

mutual
/-- Nothing but the value matters. Reading a variable may fail, and making an array or a text
counts as an effect. -/
def Expr.isPure : Expr → Bool
  | .constant _ _ => true
  | .text parts _ => allConstant parts
  | .array items _ => allConstant items
  | .map entries _ => entriesPure entries
  | .and a b => a.isPure && b.isPure
  | .or a b => a.isPure && b.isPure
  | .orElse a b => a.isPure && b.isPure
  | .block body _ => stmtsPure body
  | _ => false

def entriesPure : List (String × Expr) → Bool
  | [] => true
  | (_, e) :: es => e.isPure && entriesPure es

def optionPure : Option Expr → Bool
  | some e => e.isPure
  | none => true

def casesPure : List (List Datum × Option Expr × Expr) → Bool
  | [] => true
  | (_, guard, action) :: rest => optionPure guard && action.isPure && casesPure rest

/-- The statement does nothing, whatever its value is. One that only names a variable does not
read it. -/
def Stmt.isPure : Stmt → Bool
  | .nothing => true
  | .expr (.var _ _) => true
  | .expr (.member _ _ _) => true
  | .expr e => e.isPure
  | .cond guard yes no => guard.isPure && stmtsPure yes && stmtsPure no
  | .choose value cases (some other) => value.isPure && casesPure cases && other.isPure
  | .whileLoop (some (.constant (.bool false) _)) _ => true
  | .doLoop body (.constant (.bool b) _) goOn => b != goOn && stmtsPure body
  | .forLoop _ _ source body => source.isPure && stmtsPure body
  | .block body => stmtsPure body
  | .attempt body _ handler => stmtsPure body && stmtsPure handler
  | _ => false

def stmtsPure : List Stmt → Bool
  | [] => true
  | s :: ss => s.isPure && stmtsPure ss
end

/-- The items of an array are pure. -/
def allPure (es : List Expr) : Bool := es.all (·.isPure)

/-- The statement does nothing that is seen outside of its block. -/
def Stmt.isPureInside : Stmt → Bool
  | .declare _ value _ => value.isPure
  | s => s.isPure

/-- The statement has a meaning for those after it in its block. -/
def Stmt.isDeclaration : Stmt → Bool
  | .declare _ _ _ => true
  | _ => false

/-- No statement after this one in its block runs. -/
def Stmt.leavesBlock : Stmt → Bool
  | .breakLoop _ | .continueLoop | .returnValue _ | .throwValue _ _ => true
  | _ => false

/-- The statement may have a value other than `()`. -/
def Stmt.hasValue : Stmt → Bool
  | .expr _ | .cond _ _ _ | .choose _ _ _ | .block _ => true
  | _ => false

end ReactiveTree.Snippet
