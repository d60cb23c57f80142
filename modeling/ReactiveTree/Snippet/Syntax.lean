import ReactiveTree.Snippet.Datum
import ReactiveTree.Snippet.Token

/-!
# Programs of the snippet language

A program is a list of statements and the functions that they call. Statements have values:
the value of a block is that of its last statement. Expressions know where they stand in the
source.

Key definitions: `BinaryOp`, `Expr`, `Link`, `Stmt`, `Expr.start`, `Function`, `Program`.
-/
namespace ReactiveTree.Snippet

/-- The operators between two operands that are functions of their values. -/
inductive BinaryOp where
  | add | sub | mul | div | rem | pow
  | shiftLeft | shiftRight | bitAnd | bitOr | bitXor
  | eq | ne | lt | le | gt | ge
  | rangeOpen | rangeClosed
deriving Repr, DecidableEq, Inhabited

inductive UnaryOp where
  | neg
  | plus
  | not
deriving Repr, DecidableEq, Inhabited

mutual
inductive Expr where
  /-- A value that is known without running anything. -/
  | constant (d : Datum) (pos : Position)
  | var (name : String) (pos : Position)
  /-- The object of the method that runs. -/
  | this (pos : Position)
  /-- The text of the parts one after another. -/
  | text (parts : List Expr) (pos : Position)
  | array (items : List Expr) (pos : Position)
  | map (entries : List (String × Expr)) (pos : Position)
  | unary (op : UnaryOp) (e : Expr) (pos : Position)
  | binary (op : BinaryOp) (a b : Expr) (pos : Position)
  | and (a b : Expr)
  | or (a b : Expr)
  /-- The second operand stands for a first one that is `()`. -/
  | orElse (a b : Expr)
  /-- A call by name; an open one runs among the variables of its caller. -/
  | call (name : String) (args : List Expr) (isOpen : Bool) (pos : Position)
  /-- A constant of a module. -/
  | member (owner name : String) (pos : Position)
  /-- A call of a function of a module. -/
  | memberCall (owner name : String) (args : List Expr) (pos : Position)
  | access (base : Expr) (links : List Link)
  /-- A function without a name of its own, with the outer variables that it uses and the values
  of those that are known. -/
  | lambda (name : String) (captured : List (String × Option Datum)) (pos : Position)
  | block (body : List Stmt) (pos : Position)

/-- A step from an object to a part of it; a safe one stops at `()`. -/
inductive Link where
  | property (name : String) (safe : Bool) (pos : Position)
  | index (e : Expr) (safe : Bool) (pos : Position)
  | method (name : String) (args : List Expr) (safe : Bool) (pos : Position)

inductive Stmt where
  | nothing
  | expr (e : Expr)
  | declare (name : String) (value : Expr) (isConst : Bool)
  | assign (target : Expr) (op : Option BinaryOp) (value : Expr) (pos : Position)
  | cond (guard : Expr) (yes no : List Stmt)
  /-- The cases have constants, perhaps a condition, and the expression to go on with. -/
  | choose (value : Expr) (cases : List (List Datum × Option Expr × Expr)) (other : Option Expr)
  /-- A loop without a guard ends only from inside. -/
  | whileLoop (guard : Option Expr) (body : List Stmt)
  /-- Run the body, and again as long as the guard is `goOn`. -/
  | doLoop (body : List Stmt) (guard : Expr) (goOn : Bool)
  | forLoop (name : String) (counter : Option String) (source : Expr) (body : List Stmt)
  | breakLoop (value : Option Expr)
  | continueLoop
  | returnValue (value : Option Expr)
  | throwValue (value : Option Expr) (pos : Position)
  | attempt (body : List Stmt) (name : Option String) (handler : List Stmt)
  | block (body : List Stmt)
end

instance : Inhabited Expr := ⟨.constant .unit .start⟩

instance : Inhabited Stmt := ⟨.nothing⟩

/-- A case of a switch. -/
abbrev Case := List Datum × Option Expr × Expr

/-- A function of a program. -/
structure Function where
  name : String
  params : List String
  body : List Stmt
  /-- The type whose values have the function as a method. -/
  owner : Option String := none
  isPrivate : Bool := false
deriving Inhabited

structure Program where
  functions : List Function
  body : List Stmt
deriving Inhabited

/-- Where an expression starts. -/
def Expr.start : Expr → Position
  | constant _ p => p
  | var _ p => p
  | this p => p
  | text _ p => p
  | array _ p => p
  | map _ p => p
  | unary _ _ p => p
  | binary _ _ _ p => p
  | and a _ => a.start
  | or a _ => a.start
  | orElse a _ => a.start
  | call _ _ _ p => p
  | member _ _ p => p
  | memberCall _ _ _ p => p
  | access base _ => base.start
  | lambda _ _ p => p
  | block _ p => p

/-- The operands of a chain of one operator, of which the first may be a chain itself. -/
def Expr.operands : Expr → List Expr
  | and (.and a b) c => (Expr.and a b).operands ++ [c]
  | or (.or a b) c => (Expr.or a b).operands ++ [c]
  | orElse (.orElse a b) c => (Expr.orElse a b).operands ++ [c]
  | and a b => [a, b]
  | or a b => [a, b]
  | orElse a b => [a, b]
  | e => [e]

/-- The constant that an expression is. -/
def Expr.constant? : Expr → Option Datum
  | constant d _ => some d
  | _ => none

/-- The name of a function that has none in the source. -/
def lambdaStem : String := "anon$"

/-- A function has no name in the source. -/
def isLambdaName (name : String) : Bool := lambdaStem.toList.isPrefixOf name.toList

namespace BinaryOp

def symbol : BinaryOp → String
  | add => "+"
  | sub => "-"
  | mul => "*"
  | div => "/"
  | rem => "%"
  | pow => "**"
  | shiftLeft => "<<"
  | shiftRight => ">>"
  | bitAnd => "&"
  | bitOr => "|"
  | bitXor => "^"
  | eq => "=="
  | ne => "!="
  | lt => "<"
  | le => "<="
  | gt => ">"
  | ge => ">="
  | rangeOpen => ".."
  | rangeClosed => "..="

/-- How tightly an operator binds its operands. -/
def precedence : BinaryOp → Nat
  | bitOr | bitXor => 30
  | bitAnd => 60
  | eq | ne => 90
  | lt | le | gt | ge => 130
  | rangeOpen | rangeClosed => 140
  | add | sub => 150
  | mul | div | rem => 180
  | pow => 190
  | shiftLeft | shiftRight => 210

def all : List BinaryOp :=
  [add, sub, mul, div, rem, pow, shiftLeft, shiftRight, bitAnd, bitOr, bitXor, eq, ne, lt, le, gt,
   ge, rangeOpen, rangeClosed]

/-- The operators that may stand before the `=` of an assignment. -/
def assigning : List BinaryOp :=
  [add, sub, mul, div, rem, pow, shiftLeft, shiftRight, bitAnd, bitOr, bitXor]

end BinaryOp

def UnaryOp.symbol : UnaryOp → String
  | .neg => "-"
  | .plus => "+"
  | .not => "!"

/-- A binary operator as it stands in a source. -/
inductive Infix where
  | op (o : BinaryOp)
  | and
  | or
  | orElse
  | isIn
  | notIn
deriving Repr, DecidableEq

namespace Infix

def precedence : Infix → Nat
  | op o => o.precedence
  | and => 60
  | or => 30
  | isIn | notIn => 110
  | orElse => 135

/-- Equal operators are grouped from the right. -/
def fromRight (i : Infix) : Bool := i == .op .pow

def ofToken? : Token → Option Infix
  | .symbol s =>
    if s = "&&" then some and
    else if s = "||" then some or
    else if s = "??" then some orElse
    else if s = "!in" then some notIn
    else (BinaryOp.all.find? (·.symbol == s)).map op
  | .word s => if s = "in" then some isIn else none
  | _ => none

end Infix
end ReactiveTree.Snippet
