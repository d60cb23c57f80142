import ReactiveTree.Snippet.Access
import ReactiveTree.Snippet.Parser
import ReactiveTree.Snippet.Simplify

/-!
# Running programs

Expressions have values, statements too: a block has the value of its last statement. The
arguments of a call are evaluated from the left, but for a variable in the first place: it comes
last, and a function may change it. Functions of the program come before those of the library.
In a chain of links all indices and arguments are evaluated before the first object. Every
expression, statement, step and call is an operation, but for operators and calls that are
statements themselves.

Key definitions: `evalExpr`, `evalStmt`, `evalChain`, `callByName`, `callFunction`,
`Program.ending`, `Program.run`.
-/
namespace ReactiveTree.Snippet

/-- The truth value of a condition that stands at a place. -/
def asCondition (pos : Position) (d : Datum) : Run Bool :=
  match d.bare with
  | .bool b => return b
  | _ => failAt pos (.wrongType d.actualType "bool")

/-- A text that stands at a place. -/
def asText (pos : Position) (d : Datum) : Run String :=
  match d.bare with
  | .string s => return s
  | _ => failAt pos (.wrongType d.actualType "string")

/-- A function that stands at a place: its name, and the arguments that are bound. -/
def asFunction (pos : Position) (d : Datum) : Run (String × List Datum) :=
  match d.bare with
  | .function name bound => return (name, bound)
  | _ => failAt pos (.wrongType d.typeName "Fn")

/-- The value of a variable. Where no variable has a name, a function of the program may. -/
def readName (env : Env) (name : String) : Run Datum := do
  if !(← get).scope.any (·.name == name) && env.hasFunction name then return .function name []
  else flattened (← findVariable name).value

/-- The constant of a module. Only the module of the program itself is there. -/
def readMember (owner name : String) : Run Datum := do
  if owner = "global" then
    match (← get).constants.find? (·.1 == name) with
    | some (_, d) => return d
    | none => fail (.variableNotFound (owner ++ "::" ++ name))
  else fail (.moduleNotFound owner)

/-- The object of the method that runs. -/
def currentObject (pos : Position) : Run Object := do
  match (← get).self with
  | some object => return object
  | none => failAt pos .noObject

/-- The object of the method that runs gets a new value. -/
def storeObject (d : Datum) : Run Unit :=
  modify fun m => { m with self := m.self.map fun object => { object with value := d } }

/-- Where the first argument of a call is held. -/
inductive Holder where
  | none
  | named (name : String)
  | object

def Holder.hold : Holder → Hold
  | none => {}
  | _ => { inPlace := true }

/-- Put the first argument of a call back. -/
def Holder.putBack : Holder → Datum → Run Unit
  | none, _ => return ()
  | named name, d => store name d
  | object, d => storeObject d

/-- A variable as the first argument of a call. Shared variables and constants are copied. -/
def heldVariable (env : Env) (name : String) : Run (Datum × Holder) := do
  match (← get).scope.find? (·.name == name) with
  | some v =>
    let d ← flattened v.value
    match v.value with
    | .shared _ => return (d, .none)
    | _ => return (d, if v.fixed.isSome then .none else .named name)
  | none => return (← readName env name, .none)

/-- How deep functions nest that an operator calls on its operands. -/
def operatorDepth (op : BinaryOp) (a b : Datum) : Nat :=
  match op, a.bare, b.bare with
  | .add, .string _, b => textDepth b
  | .add, a, .string _ => textDepth a
  | .eq, .array xs, .array ys | .ne, .array xs, .array ys =>
    if xs.length = ys.length then a.nesting else 0
  | _, _, _ => 0

/-- The links whose arguments take no operation to gather. -/
def isPlain : List Link → Bool
  | [.property _ _ _] => true
  | [.index e _ _] => e.isConstant
  | [.method _ [] _ _] => true
  | _ => false

/-- An assignment to the end of a chain: the operator, the value and where the operator
stands. -/
abbrev Assigned := Option BinaryOp × Datum × Position

/-- What an assignment to a part of a variable does. -/
def Change.of (a : Assigned) (root : String) (rootPos : Position) : Change :=
  { op := a.1, value := a.2.1, pos := a.2.2, root, rootPos }

mutual
/-- The value of an expression. -/
def evalExpr (fuel : Nat) (env : Env) (e : Expr) : Run Datum :=
  match fuel with
  | 0 => fail .timedOut
  | fuel + 1 => do
    tick env
    match e with
    | .constant d _ => return d
    | .var name pos => placed pos (readName env name)
    | .member owner name pos => placed pos (readMember owner name)
    | .this pos => do flattened (← currentObject pos).value
    | .text parts _ =>
      let text ← parts.foldlM (fun acc part => do
        let d ← evalExpr fuel env part
        let s ← match d.bare with
          | .string s => pure s
          | d => do
            peak env (1 + d.nesting)
            pure d.text
        discard (sized env (.string (acc ++ s)))
        return acc ++ s) ""
      return .string text
    | .array items _ =>
      let (ds, _) ← items.foldlM (fun (ds, total) e => do
        let d ← evalExpr fuel env e
        let total := total + (Datum.array [d]).size
        if let some e := env.limits.tooLarge? total then fail e
        return (d :: ds, total)) (([] : List Datum), ({} : Datum.Size))
      return .array ds.reverse
    | .map entries _ =>
      let (es, _) ← entries.foldlM (fun (es, total) (k, e) => do
        let d ← evalExpr fuel env e
        let total := total + (Datum.map [(k, d)]).size
        if let some e := env.limits.tooLarge? total then fail e
        return (Json.insertSorted k d es, total)) (([] : List (String × Datum)), ({} : Datum.Size))
      return .map es
    | .and _ _ =>
      return .bool (← e.operands.allM fun a => do asCondition a.start (← evalExpr fuel env a))
    | .or _ _ =>
      return .bool (← e.operands.anyM fun a => do asCondition a.start (← evalExpr fuel env a))
    | .orElse _ _ =>
      let found ← e.operands.findSomeM? fun a => do
        let d ← evalExpr fuel env a
        match d.bare with
        | .unit => return none
        | _ => return some d
      return found.getD .unit
    | .unary _ _ _ => evalCall fuel env e
    | .binary _ _ _ _ => evalCall fuel env e
    | .call _ _ _ _ => evalCall fuel env e
    | .memberCall owner name args pos =>
      let ds ← args.mapM (evalExpr fuel env)
      if owner = "global" then
        callByName fuel env name ds none false pos >>= fun r => resume r.result
      else failAt pos (.moduleNotFound owner)
    | .access (.var name pos) [.method "is_shared" [] _ _] => do
      tick env
      match (← placed pos (findVariable name)).value with
      | .shared _ => return .bool true
      | _ => return .bool false
    | .access base links => evalChain fuel env base links none
    | .lambda name captured pos => do
      for _ in List.range (3 + captured.length) do tick env
      return .function name (← placed pos (captured.mapM fun (x, known) => do
        let d ← share x
        return known.getD d))
    | .block body _ => inBlock (evalStmts fuel env body)

/-- The arguments of a call, and where the first one is held. -/
def evalArgs (fuel : Nat) (env : Env) (args : List Expr) : Run (List Datum × Holder) :=
  match fuel with
  | 0 => fail .timedOut
  | fuel + 1 => do
    match args with
    | .var name pos :: rest =>
      tick env
      let ds ← rest.mapM (evalExpr fuel env)
      let (d, holder) ← placed pos (heldVariable env name)
      return (d :: ds, holder)
    | .this pos :: rest =>
      discard (currentObject pos)
      tick env
      let ds ← rest.mapM (evalExpr fuel env)
      let object ← currentObject pos
      return (object.value :: ds, if object.fixed.isSome then .none else .object)
    | args => return (← args.mapM (evalExpr fuel env), .none)

/-- The value of an operator or a call. -/
def evalCall (fuel : Nat) (env : Env) (e : Expr) : Run Datum :=
  match fuel with
  | 0 => fail .timedOut
  | fuel + 1 => do
    match e with
    | .unary op a pos => do
      let (ds, _) ← evalArgs fuel env [a]
      tick env
      placed pos (ofResult (applyUnary op (ds.headD .unit)))
    | .binary op a b pos => do
      let (ds, _) ← evalArgs fuel env [a, b]
      tick env
      match ds with
      | [x, y] => do
        peak env (operatorDepth op x y)
        sized env (← placed pos (ofResult (applyBinary op x y)))
      | _ => return .unit
    | .call "call" (f :: args) isOpen pos => do
      let (name, bound) ← asFunction f.start (← evalExpr fuel env f)
      let ds ← args.mapM (evalExpr fuel env)
      resume (← callByName fuel env name (bound ++ ds) none isOpen pos).result
    | .call "Fn" [e] _ _ => do
      let s ← asText e.start (← evalExpr fuel env e)
      if isCallable s then return .function s [] else failAt e.start (.functionNotFound s "")
    | .call "curry" (f :: a :: rest) _ _ => do
      let (name, bound) ← asFunction f.start (← evalExpr fuel env f)
      return .function name (bound ++ (← (a :: rest).mapM (evalExpr fuel env)))
    | .call "is_shared" [.var name pos] _ _ => do
      tick env
      match (← placed pos (findVariable name)).value with
      | .shared _ => return .bool true
      | _ => return .bool false
    | .call "is_shared" [e] _ _ => do
      discard (evalExpr fuel env e)
      return .bool false
    | .call "is_def_var" [e] _ _ => do
      let s ← asText e.start (← evalExpr fuel env e)
      return .bool ((← get).scope.any (·.name == s))
    | .call "is_def_fn" [e, n] _ _ => do
      let s ← asText e.start (← evalExpr fuel env e)
      let d ← evalExpr fuel env n
      match d.bare with
      | .int n => return .bool (0 ≤ n && (env.function? none s n.toNat).isSome)
      | _ => failAt n.start (.wrongType d.actualType "i64")
    | .call "type_of" [e] _ _ => do
      let (ds, _) ← evalArgs fuel env [e]
      return .string (ds.headD .unit).typeName
    | .call name args isOpen pos => do
      let (ds, holder) ← evalArgs fuel env args
      match env.function? none name ds.length with
      | some f =>
        if f.body.isEmpty then return .unit
        else resume (← callFunction fuel env f ds none isOpen pos).result
      | none => do
        let o ← placed pos (callNative env (hooks fuel env) holder.hold name ds)
        if let some d := o.object then holder.putBack d
        return o.value
    | e => evalExpr fuel env e

/-- The value of a chain of links, at whose end something may be assigned. -/
def evalChain (fuel : Nat) (env : Env) (base : Expr) (links : List Link)
    (assigned : Option Assigned) : Run Datum :=
  match fuel with
  | 0 => fail .timedOut
  | fuel + 1 => do
    let plain := isPlain links
    let steps ← links.mapM fun link => do
      unless plain do tick env
      match link with
      | .property name safe pos => return Step.property name safe pos
      | .index e safe pos => do
        let key ← if plain then pure (e.value?.getD .unit) else evalExpr fuel env e
        return Step.index key safe e.start pos
      | .method name args safe pos => do
        let argPos := (args.head?.map Expr.start).getD pos
        return Step.method name (← args.mapM (evalExpr fuel env)) safe argPos pos
    let follow (object : Object) (root : String) (pos : Position) : Run Reached :=
      reached (takeSteps env (callMethod fuel env) (assigned.map (Change.of · root pos)) false
        object steps)
    match base with
    | .var name pos => do
      tick env
      let (value, fixed) ← match (← get).scope.find? (·.name == name) with
        | some v => do pure (← flattened v.value, v.fixed)
        | none => do pure (← placed pos (readName env name), none)
      let r ← follow ⟨value, fixed⟩ name pos
      match r.object with
      | some d => if (← get).scope.any (·.name == name) then store name d
      | none => pure ()
      resume r.result
    | .this pos => do
      tick env
      let r ← follow (← currentObject pos) "" pos
      if let some d := r.object then storeObject d
      resume r.result
    | e => do
      let r ← follow { value := ← evalExpr fuel env e } "" e.start
      resume r.result

/-- Call a method of an object. -/
def callMethod (fuel : Nat) (env : Env) (object : Object) (isCopy : Bool) (step : Step) :
    Run Reached :=
  match fuel with
  | 0 => fail .timedOut
  | fuel + 1 => do
    match step with
    | .method name args _ argPos pos =>
      match name, object.value.bare, args with
      | "call", .function f bound, args => callByName fuel env f (bound ++ args) none false pos
      | "call", d, [] => failAt argPos (.wrongType d.typeName "Fn")
      | "call", _, f :: args => do
        let (f, bound) ← asFunction argPos f
        callOn fuel env f (bound ++ args) object isCopy pos
      | "curry", .function f bound, args => return { result := .ok (.function f (bound ++ args)) }
      | "curry", d, _ => failAt pos (.wrongType d.typeName "Fn")
      | "is_shared", _, [] => return { result := .ok (.bool false) }
      | "type_of", d, [] => return { result := .ok (.string d.typeName) }
      | name, .map es, args =>
        match (Json.lookup name es).map Datum.bare with
        | some (.function f bound) => callOn fuel env f (bound ++ args) object isCopy pos
        | _ => callOn fuel env name args object isCopy pos
      | name, _, args => callOn fuel env name args object isCopy pos
    | _ => return { result := .ok .unit }

/-- Call a function with an object. What a function of the program makes of a copy is lost. -/
def callOn (fuel : Nat) (env : Env) (name : String) (args : List Datum) (object : Object)
    (isCopy : Bool) (pos : Position) : Run Reached :=
  match fuel with
  | 0 => fail .timedOut
  | fuel + 1 => do
    let r ← callByName fuel env name args (some object) false pos
    if isCopy && (env.method? object.value name args.length).isSome then
      return { r with object := none }
    else return r

/-- Call a function by its name, with an object or without one. -/
def callByName (fuel : Nat) (env : Env) (name : String) (args : List Datum) (object : Option Object)
    (isOpen : Bool) (pos : Position) : Run Reached :=
  match fuel with
  | 0 => fail .timedOut
  | fuel + 1 => do
    let own : Option Function := match object with
      | some o => env.method? o.value name args.length
      | none => env.function? none name args.length
    match own, object with
    | some f, object =>
      if f.body.isEmpty && !isLambdaName name then return { result := .ok .unit }
      else callFunction fuel env f args object isOpen pos
    | none, none => do
      if name = "type_of" then
        if let [d] := args then return { result := .ok (.string d.typeName) }
      let o ← placed pos (callNative env (hooks fuel env) {} name args)
      return { result := .ok o.value }
    | none, some object => do
      let hold : Hold := { inPlace := true, isFixed := object.fixed.isSome }
      let o ← placed pos (callNative env (hooks fuel env) hold name (object.value :: args))
      return { result := .ok o.value, object := o.object }

/-- Call a function that a function of the library was given. -/
def callGiven (fuel : Nat) (env : Env) (f : Datum) (given : CallArgs) :
    Run (Datum × Option Datum) :=
  match fuel with
  | 0 => fail .timedOut
  | fuel + 1 => do
    match f with
    | .function name bound =>
      let choices := (given.choices bound).filter fun (args, _) =>
        !isLambdaName name || (env.function? none name args.length).isSome
      let calls := choices.map fun (args, object) => deeper do
        let r ← callByName fuel env name args (object.map fun value => { value }) false .start
        return (← resume r.result, r.object)
      match calls with
      | call :: calls => firstTaken name call calls
      | [] => fail (notFound name (bound ++ given.args))
    | _ => fail (.wrongType f.typeName "Fn")

/-- What functions of the library need of the machine. -/
def hooks (fuel : Nat) (env : Env) : Hooks :=
  match fuel with
  | 0 => { call := fun _ _ => fail .timedOut, readData := fun _ => fail .timedOut }
  | fuel + 1 => { call := callGiven fuel env, readData := readData fuel env }

/-- The value of a data text, which a machine of its own computes. -/
def readData (fuel : Nat) (env : Env) (text : String) : Run Datum :=
  match fuel with
  | 0 => fail .timedOut
  | fuel + 1 =>
    match Program.readData? env.limits text with
    | none => fail .malformed
    | some p => fun m =>
      match evalStmts fuel { env with functions := p.functions } p.body { log := m.log } with
      | .ok d n =>
        match d.bare with
        | .map es => .ok (.map es) { m with log := n.log }
        | _ => .error (.fault (.wrongOutput d.typeName "map") none) { m with log := n.log }
      | .error e n => .error e { m with log := n.log }

/-- Call a function of the program. -/
def callFunction (fuel : Nat) (env : Env) (f : Function) (args : List Datum)
    (object : Option Object) (isOpen : Bool) (pos : Position) : Run Reached :=
  match fuel with
  | 0 => fail .timedOut
  | fuel + 1 => do
    tick env
    let params := (f.params.zip args).map fun (name, value) => ({ name, value } : Variable)
    let (result, object) ←
      inCall env f.name params.reverse isOpen (some pos) object (evalStmts fuel env f.body)
    return { result, object }

/-- The value of the last one of some statements. -/
def evalStmts (fuel : Nat) (env : Env) (body : List Stmt) : Run Datum :=
  match fuel with
  | 0 => fail .timedOut
  | fuel + 1 => body.foldlM (fun _ s => evalStmt fuel env s) .unit

/-- The value of a statement. -/
def evalStmt (fuel : Nat) (env : Env) (s : Stmt) : Run Datum :=
  match fuel with
  | 0 => fail .timedOut
  | fuel + 1 => do
    let block (body : List Stmt) : Run Datum := inBlock (evalStmts fuel env body)
    let optional (e : Option Expr) : Run Datum :=
      match e with
      | some e => evalExpr fuel env e
      | none => return .unit
    tick env
    match s with
    | .nothing => return .unit
    | .expr e@(.call _ _ _ _) => evalCall fuel env e
    | .expr e@(.binary _ _ _ _) => evalCall fuel env e
    | .expr e@(.unary _ _ _) => evalCall fuel env e
    | .expr e => evalExpr fuel env e
    | .declare name value isConst =>
      let d ← evalExpr fuel env value
      if isConst then pushConstant env name d else push name d
      return .unit
    | .assign target op value pos =>
      match target with
      | .this p =>
        discard (currentObject p)
        let v ← evalExpr fuel env value
        tick env
        let object ← currentObject p
        storeObject (← (Change.of (op, v, pos) "" p).apply env object)
        return .unit
      | .var name p =>
        let v ← evalExpr fuel env value
        tick env
        let target ← placed p (findVariable name)
        let old ← flattened target.value
        store name (← (Change.of (op, v, pos) name p).apply env ⟨old, target.fixed⟩)
        return .unit
      | .access base links =>
        let v ← evalExpr fuel env value
        discard (evalChain fuel env base links (some (op, v, pos)))
        return .unit
      | _ => return .unit
    | .cond guard yes no =>
      if ← asCondition guard.start (← evalExpr fuel env guard) then block yes else block no
    | .choose value cases other =>
      let d ← evalExpr fuel env value
      let found ← (exactCases d cases ++ rangeCases d cases).findM? fun (_, guard, _) =>
        match guard with
        | none => return true
        | some g => do asCondition g.start (← evalExpr fuel env g)
      optional ((found.map (·.2.2)).or other)
    | .whileLoop guard body =>
      repeatRun fuel do
        let goOn ← match guard with
          | some g => do asCondition g.start (← evalExpr fuel env g)
          | none => pure true
        if goOn then
          if body.isEmpty then tick env
          return (← round (block body)).value?
        else return some .unit
    | .doLoop body guard goOn =>
      repeatRun fuel do
        match ← round (block body) with
        | .left v => return some v
        | .skipped => return none
        | .done =>
          if (← asCondition guard.start (← evalExpr fuel env guard)) == goOn then return none
          else return some .unit
    | .forLoop name counter source body =>
      let d ← evalExpr fuel env source
      match Items.of? d with
      | none => failAt source.start .notIterable
      | some items => inBlock do
        if let some c := counter then push c (.int 0)
        push name .unit
        overItems (fun i item => do
          if let some c := counter then store c (.int i)
          store name item
          if body.isEmpty then tick env
          return (← round (block body)).value?) fuel 0 items
    | .breakLoop value => throw (.leave (← optional value))
    | .continueLoop => throw .skip
    | .returnValue value => throw (.give (← optional value))
    | .throwValue value pos => failAt pos (.thrown (← optional value))
    | .attempt body name handler =>
      handling (block body) fun e => inBlock do
        if let some name := name then push name e
        block handler
    | .block body => block body
end

/-! ### Programs -/

/-- Steps that are enough for every run within its time. -/
def Limits.fuel (l : Limits) : Nat := l.time * operationsPerMs + 1000000

/-- How a run ends: its result, and the lines that it wrote. -/
def Program.ending : EStateM.Result Interrupt Machine Datum → Except RunError Datum × List Note
  | .ok v m => (.ok v, m.log.reverse)
  | .error (.give v) m => (.ok v, m.log.reverse)
  | .error (.fault (.exited v) _) m => (.ok v, m.log.reverse)
  | .error (.fault e _) m => (.error e, m.log.reverse)
  | .error (.leave v) m => (.ok v, m.log.reverse)
  | .error .skip m => (.ok .unit, m.log.reverse)

/-- Run a program with some variables: its result, and the lines that it wrote. -/
def Program.run (p : Program) (limits : Limits) (read : String → Datum)
    (given : List (String × Datum)) : Except RunError Datum × List Note :=
  let env : Env := { functions := p.functions, limits, read }
  let scope := given.reverse.map fun (name, value) => ({ name, value } : Variable)
  ending (evalStmts limits.fuel env p.body { scope })

end ReactiveTree.Snippet
