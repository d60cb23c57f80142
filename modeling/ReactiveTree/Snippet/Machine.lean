import ReactiveTree.Snippet.Limits
import ReactiveTree.Snippet.Operators

/-!
# The machine that runs snippets

A running snippet has variables, the object of the method that runs, the variables that
functions share, and a log. It counts its operations, by which its budget and its time are
measured. Besides a failure, a loop or a function is left by an interrupt of its own. What a
constant held when it was made is fixed; entries that its maps get later are not.

Key definitions: `Note`, `Machine`, `Interrupt`, `Run`, `tick`, `sized`, `inBlock`, `inCall`,
`handling`, `round`, `repeatRun`, `overItems`.
-/
namespace ReactiveTree.Snippet

/-- A line that a snippet writes to the log. -/
inductive Note where
  | info (text : String)
  | debug (text : String)
deriving Repr, DecidableEq, Inhabited

/-- The line as it is shown. -/
def Note.shown : Note → String
  | info text => "INFO: " ++ text
  | debug text => "DEBUG: " ++ text

/-- A value in a place that may be written to, but for the parts that are fixed. -/
structure Object where
  value : Datum
  /-- What no part may be changed of. -/
  fixed : Option Datum := none
deriving Inhabited

structure Variable extends Object where
  name : String
deriving Inhabited

structure Machine where
  operations : Nat := 0
  /-- The lines of the log, the last one first. -/
  log : List Note := []
  /-- The variables that functions share with the place where they were made. -/
  cells : Array Datum := #[]
  /-- The variables in scope, the innermost one first. -/
  scope : List Variable := []
  /-- The object of the method that runs. -/
  self : Option Object := none
  /-- How many calls are open. -/
  level : Nat := 0
  /-- How many blocks are open. -/
  blocks : Nat := 0
  /-- The constants outside of all blocks. -/
  constants : List (String × Datum) := []
deriving Inhabited

/-- Why the statements that follow are skipped. -/
inductive Interrupt where
  /-- A failure, and where it arose. -/
  | fault (e : RunError) (pos : Option Position)
  /-- Leave a loop with a value. -/
  | leave (value : Datum)
  /-- Go on with the next round of a loop. -/
  | skip
  /-- Leave a function with its result. -/
  | give (value : Datum)

abbrev Run := EStateM Interrupt Machine

/-- What a program runs with. -/
structure Env where
  functions : List Function
  limits : Limits
  /-- What the tree holds at a path. -/
  read : String → Datum

def fail {α : Type} (e : RunError) : Run α := throw (.fault e none)

def failAt {α : Type} (pos : Position) (e : RunError) : Run α := throw (.fault e (some pos))

def ofResult {α : Type} : Except RunError α → Run α
  | .ok a => return a
  | .error e => fail e

/-- A failure without a place gets this one. -/
def placed {α : Type} (pos : Position) (run : Run α) : Run α := fun m =>
  match run m with
  | .error (.fault e none) m => .error (.fault e (some pos)) m
  | r => r

/-- How a run ends, without ending the one that asks. -/
def outcome {α : Type} (run : Run α) : Run (Except Interrupt α) := fun m =>
  match run m with
  | .ok a m => .ok (.ok a) m
  | .error e m => .ok (.error e) m

/-- End as another run did. -/
def resume {α : Type} : Except Interrupt α → Run α
  | .ok a => return a
  | .error e => throw e

/-! ### Budget and sizes -/

/-- How many operations stand for a millisecond. -/
def operationsPerMs : Nat := 20000

/-- How many operations lie between two looks at the clock. -/
def clockInterval : Nat := 64

/-- Why a run stops at an operation, if it does. -/
def Limits.exceeded? (l : Limits) (operations : Nat) : Option RunError :=
  if !within l.operations operations then some .tooManyOperations
  else if operations % clockInterval = 0 ∧ l.time * operationsPerMs ≤ operations then some .timedOut
  else none

/-- Count an operation. -/
def tick (env : Env) : Run Unit := do
  let m ← get
  let n := m.operations + 1
  set { m with operations := n }
  if let some e := env.limits.exceeded? n then fail e

/-- Count operations that are forgotten afterwards. -/
def peak (env : Env) (depth : Nat) : Run Unit := do
  if depth ≠ 0 ∧ !within env.limits.operations ((← get).operations + depth) then
    fail .tooManyOperations

/-- A value within the limits on sizes. -/
def sized (env : Env) (d : Datum) : Run Datum :=
  match env.limits.tooLarge? d.size with
  | some e => fail e
  | none => return d

def note (n : Note) : Run Unit := modify fun m => { m with log := n :: m.log }

/-! ### Variables -/

/-- The value behind a shared variable, and any other value itself. -/
def flattened : Datum → Run Datum
  | .shared i => return ((← get).cells[i]?).getD .unit
  | d => return d

def findVariable (name : String) : Run Variable := do
  match (← get).scope.find? (·.name == name) with
  | some v => return v
  | none => fail (.variableNotFound name)

def push (name : String) (value : Datum) : Run Unit :=
  modify fun m => { m with scope := { name, value } :: m.scope }

/-- Make a constant; those outside of all blocks can be read from everywhere. -/
def pushConstant (env : Env) (name : String) (value : Datum) : Run Unit :=
  modify fun m =>
    { m with
      scope := { name, value, fixed := some value } :: m.scope
      constants := if m.blocks = 0 ∧ !env.functions.isEmpty then (name, value) :: m.constants
        else m.constants }

/-- Replace the value of the innermost variable of a name. -/
def replaceFirst (name : String) (value : Datum) : List Variable → List Variable
  | [] => []
  | v :: vs => if v.name == name then { v with value } :: vs else v :: replaceFirst name value vs

/-- Give a variable a new value. -/
def store (name : String) (value : Datum) : Run Unit := do
  match (← findVariable name).value with
  | .shared i => modify fun m => { m with cells := m.cells.setIfInBounds i value }
  | _ => modify fun m => { m with scope := replaceFirst name value m.scope }

/-- Make a variable shared. -/
def share (name : String) : Run Datum := do
  let v ← findVariable name
  match v.value with
  | .shared i => return .shared i
  | d =>
    let m ← get
    let cell := Datum.shared m.cells.size
    set { m with cells := m.cells.push d, scope := replaceFirst name cell m.scope }
    return cell

/-- Run a part whose variables end with it. -/
def inBlock {α : Type} (body : Run α) : Run α := fun m =>
  let depth := m.scope.length
  let close (n : Machine) : Machine :=
    { n with scope := n.scope.drop (n.scope.length - depth), blocks := m.blocks }
  match body { m with blocks := m.blocks + 1 } with
  | .ok a n => .ok a (close n)
  | .error e n => .error e (close n)

/-- Run the body of a function with variables and an object of its own; the object is given
back beside the result, whatever that is. An open call sees the variables of its caller too. -/
def inCall (env : Env) (name : String) (params : List Variable) (isOpen : Bool)
    (pos : Option Position) (self : Option Object) (body : Run Datum) :
    Run (Except Interrupt Datum × Option Datum) := fun m =>
  if env.limits.calls < m.level + 1 then .error (.fault .tooDeep pos) m
  else
    let outer : List Variable := if isOpen then m.scope else []
    let back (n : Machine) : Machine :=
      { n with
        scope := if isOpen then n.scope.drop (n.scope.length - m.scope.length) else m.scope
        self := m.self
        level := m.level
        blocks := m.blocks }
    let object (n : Machine) : Option Datum := n.self.map (·.value)
    let inner : Machine :=
      { m with
        scope := params ++ outer, self := self, level := m.level + 1, blocks := m.blocks + 1 }
    match body inner with
    | .ok v n => .ok (.ok v, object n) (back n)
    | .error (.give v) n => .ok (.ok v, object n) (back n)
    | .error (.fault e inner) n =>
      .ok (.error (.fault (if e.passes then e else .inCall name e inner) pos), object n) (back n)
    | .error e n => .ok (.error e, object n) (back n)

/-- Run a handler where a body fails with something that can be caught. A handler that throws
nothing in particular passes the failure on. -/
def handling (body : Run Datum) (handler : Datum → Run Datum) : Run Datum := fun m =>
  match body m with
  | .error (.fault e pos) m =>
    if e.catchable then
      match handler (e.caught pos) m with
      | .ok _ m => .ok .unit m
      | .error (.fault (.thrown .unit) pos) m => .error (.fault e pos) m
      | r => r
    else .error (.fault e pos) m
  | r => r

/-! ### Loops -/

/-- How a round of a loop ends. -/
inductive Round where
  | done
  | skipped
  | left (value : Datum)

/-- The value with which a loop ends. -/
def Round.value? : Round → Option Datum
  | left v => some v
  | _ => none

/-- A round of a loop. -/
def round (body : Run Datum) : Run Round := fun m =>
  match body m with
  | .ok _ m => .ok .done m
  | .error (.leave v) m => .ok (.left v) m
  | .error .skip m => .ok .skipped m
  | .error e m => .error e m

/-- Repeat a step until it gives a value. -/
def repeatRun (fuel : Nat) (step : Run (Option Datum)) : Run Datum :=
  match fuel with
  | 0 => fail .timedOut
  | fuel + 1 => do
    match ← step with
    | some v => return v
    | none => repeatRun fuel step

/-- Run a body for each item in turn, with its position, until one gives a value. -/
def overItems (body : Nat → Datum → Run (Option Datum)) (fuel i : Nat) (items : Items) :
    Run Datum :=
  match fuel with
  | 0 => fail .timedOut
  | fuel + 1 =>
    match items.next? with
    | none => return .unit
    | some (d, items) => do
      match ← body i d with
      | some v => return v
      | none => overItems body fuel (i + 1) items

end ReactiveTree.Snippet
