import ReactiveTree.Snippet.Library.Bits
import ReactiveTree.Snippet.Purity

/-!
# Programs made simpler

Before a program runs, what is known of it is computed: operators on constants, conditions and
switches that are constant, parts of written arrays and maps, names of constants. Statements
without effect are left out where their value is not needed, and so is what follows a statement
that leaves its block. This is repeated for as long as the program becomes lighter.

Key definitions: `Known`, `Expr.simplify`, `Stmt.simplify`, `tidied`, `Stmt.weight`,
`Program.simplify`.
-/
namespace ReactiveTree.Snippet

/-! ### Blocks -/

mutual
/-- The statements that a statement stands for in a block: those of a block without
declarations. -/
def Stmt.flat : Stmt → List Stmt
  | .block body => if body.any (·.isDeclaration) then [.block body] else allFlat body
  | s => [s]

def allFlat : List Stmt → List Stmt
  | [] => []
  | s :: ss => s.flat ++ allFlat ss
end

/-- The statements up to the first one that leaves their block. -/
def untilLeaving : List Stmt → List Stmt
  | [] => []
  | s :: ss => if s.leavesBlock then [s] else s :: untilLeaving ss

/-- A statement that keeps declarations before it from being left out. -/
def Stmt.needsOthers (pure : Stmt → Bool) (s : Stmt) : Bool :=
  !pure s ||
    match s with
    | .declare _ value _ => value.isConstant
    | .expr e => !e.isConstant
    | _ => false

/-- The statements with an effect, and the last one if its value is needed. What is pure only
inside the block goes where nothing after it needs it. -/
def withoutPure (keep : Bool) (pure : Stmt → Bool) (ss : List Stmt) : List Stmt :=
  let needed := (ss.reverse.findIdx? (·.needsOthers pure)).map (ss.length - 1 - ·) |>.getD 0
  (ss.zipIdx.filter fun (s, i) =>
    (keep && i + 1 == ss.length) || !(s.isPure || (pure s && needed ≤ i))).map (·.1)

/-- The end of a block whose value is needed, the last statement first. A function does not need
to return what its last statement gives. -/
def trimKept (pure : Stmt → Bool) (reduce : Bool) : List Stmt → List Stmt
  | [] => []
  | [s] =>
    match s with
    | .returnValue none => if reduce then [] else [s]
    | .returnValue (some e) => if reduce then [.expr e] else [s]
    | s => if !s.hasValue && pure s then [] else [s]
  | last :: s :: rest =>
    match reduce, last with
    | true, .returnValue none =>
      if s.hasValue then .nothing :: s :: rest else trimKept pure reduce (s :: rest)
    | true, .returnValue (some e) => .expr e :: s :: rest
    | _, .nothing =>
      if s.hasValue then .nothing :: s :: rest else trimKept pure reduce (s :: rest)
    | _, last =>
      if !last.hasValue && pure last then
        if s.hasValue then .nothing :: s :: rest else trimKept pure reduce (s :: rest)
      else last :: s :: rest

/-- A block without what does nothing; the value of the block may be needed. -/
def tidied (keep : Bool) (pure : Stmt → Bool) (reduce : Bool) (ss : List Stmt) : List Stmt :=
  let ss := withoutPure keep pure (untilLeaving ss)
  if keep then (trimKept pure reduce ss.reverse).reverse
  else (ss.reverse.dropWhile pure).reverse

/-- A block inside of a program. -/
def tidiedBlock (keep : Bool) (ss : List Stmt) : List Stmt :=
  tidied keep (·.isPureInside) false (allFlat ss)

/-- A block as a statement. -/
def Stmt.ofBlock : List Stmt → Stmt
  | [] => .nothing
  | body => .block body

/-! ### What is known -/

/-- What is known where a part of a program stands. The variables of loops and handlers are not
looked at. -/
structure Known where
  limits : Limits
  /-- The values of the constants in scope. A variable hides a constant of its name. -/
  values : List (String × Option Datum) := []

namespace Known

def value? (k : Known) (name : String) : Option Datum := (k.values.lookup name).join

/-- One more name, perhaps with a known value. -/
def add (k : Known) (name : String) (value : Option Datum) : Known :=
  { k with values := (name, value) :: k.values }

end Known

/-- An expression with a known value is a constant. -/
def settled (e : Expr) : Expr :=
  match e.value? with
  | some d => .constant d e.start
  | none => e

/-- Texts that follow each other are one; what has no text goes. -/
def mergeTexts : List Expr → List Expr
  | [] => []
  | e :: es =>
    match e, mergeTexts es with
    | .constant (.string s) p, .constant (.string t) _ :: rest =>
      .constant (.string (s ++ t)) p :: rest
    | .constant .unit p, rest => if rest.isEmpty then [.constant .unit p] else rest
    | .constant (.string "") p, rest => if rest.isEmpty then [.constant (.string "") p] else rest
    | e, [.constant .unit _] => [e]
    | e, [.constant (.string "") _] => [e]
    | e, rest => e :: rest

def joinAnd (a b : Expr) (otherwise : Expr) : Expr :=
  match a, b with
  | .constant (.bool true) _, b => b
  | .constant (.bool false) p, _ => .constant (.bool false) p
  | a, .constant (.bool true) _ => a
  | _, _ => otherwise

def joinOr (a b : Expr) (otherwise : Expr) : Expr :=
  match a, b with
  | .constant (.bool false) _, b => b
  | .constant (.bool true) p, _ => .constant (.bool true) p
  | a, .constant (.bool false) _ => a
  | _, _ => otherwise

/-- Nothing stands in for anything here. -/
def isNothing : Expr → Bool
  | .constant .unit _ => true
  | .orElse a b => isNothing a && isNothing b
  | _ => false

/-- The first operand that is not `()`; where all are, it is `false`. -/
def joinOrElse (a b : Expr) (otherwise : Expr) : Expr :=
  if isNothing a then if isNothing b then .constant (.bool false) a.start else b
  else if a.isConstant then a
  else otherwise

/-- The result of an operator on two known values, within the limits on sizes. -/
def operated (known : Known) (op : BinaryOp) (a b : Expr) (pos : Position) (otherwise : Expr) :
    Expr :=
  match a.value?, b.value? with
  | some x, some y =>
    match folded? op x y with
    | some d => if (known.limits.tooLarge? d.size).isNone then .constant d pos else otherwise
    | none => otherwise
  | _, _ => otherwise

/-- The result of a call that is known. -/
def called (name : String) (args : List Expr) (pos : Position) (otherwise : Expr) : Expr :=
  match name, args with
  | "Fn", [.constant (.string s) _] =>
    if isCallable s then .constant (.function s []) pos else otherwise
  | "type_of", [e] => (e.value?.map fun d => Expr.constant (.string d.typeName) pos).getD otherwise
  | "is_shared", [e] => (e.value?.map fun _ => Expr.constant (.bool false) pos).getD otherwise
  | _, _ => otherwise

/-- The part of what is written that a single link takes, if the others do nothing. -/
def writtenPart? (base : Expr) (link : Link) : Option Expr :=
  match base, link with
  | .array items _, .index (.constant (.int i) _) _ _ =>
    if allPure items then (position? items.length i).bind (items[·]?) else none
  | .map entries p, .index (.constant (.string name) _) _ _ => entryOf entries name p
  | .map entries p, .property name _ _ => entryOf entries name p
  | .constant (.int n) p, .index (.constant (.int i) _) _ _ =>
    (bitPosition i).toOption.map fun i => .constant (.bool (bitAt n i)) p
  | .constant (.string s) p, .index (.constant (.int i) _) _ _ =>
    (position? s.toList.length i).bind fun i => (s.toList[i]?).map fun c => .constant (.char c) p
  | e, .method "type_of" [] _ p => e.value?.map fun d => .constant (.string d.typeName) p
  | e, .method "is_shared" [] _ p => e.value?.map fun _ => .constant (.bool false) p
  | _, _ => none
where
  entryOf (entries : List (String × Expr)) (name : String) (p : Position) : Option Expr :=
    if entriesPure entries then
      some (((entries.find? (·.1 == name)).map (·.2)).getD (.constant .unit p))
    else none

/-- The entry that a link takes from a constant map. -/
def knownPart? (value : Option Datum) : Link → Option Datum
  | .property name _ _ => entryOf value name
  | .index (.constant (.string name) _) _ _ => entryOf value name
  | _ => none
where
  entryOf : Option Datum → String → Option Datum
    | some (.map entries), name => some ((Json.lookup name entries).getD .unit)
    | _, _ => none

/-- The part that links take, if there is only one and it is known. -/
def accessed (base : Expr) (links : List Link) (otherwise : Expr) : Expr :=
  match links with
  | [link] => (writtenPart? base link).getD otherwise
  | _ => otherwise

/-- A block of one expression is that expression. Operators and calls keep their block. -/
def Expr.ofBlock (body : List Stmt) (pos : Position) : Expr :=
  match body with
  | [] => .constant .unit pos
  | [.expr (.call name args isOpen p)] => .block [.expr (.call name args isOpen p)] pos
  | [.expr (.binary op a b p)] => .block [.expr (.binary op a b p)] pos
  | [.expr (.unary op a p)] => .block [.expr (.unary op a p)] pos
  | [.expr e] => e
  | body => .block body pos

/-! ### Switches -/

/-- The cases that name a value itself. -/
def exactCases (d : Datum) (cases : List Case) : List Case :=
  cases.filter fun (constants, _, _) => constants.any (·.identical d)

/-- The ranges of cases that hold a value. -/
def rangeCases (d : Datum) (cases : List Case) : List Case :=
  cases.flatMap fun (constants, guard, action) =>
    (constants.filter (·.inRange d)).map fun c => ([c], guard, action)

/-- What a case does under its condition. -/
def guardedAction (guard : Option Expr) (action : Expr) (other : Option Expr) : Stmt :=
  match guard with
  | none => .expr action
  | some g => .cond g [.expr action] (other.toList.map .expr)

/-- The statement that a switch on a known value stands for. -/
def chosen (value : Expr) (d : Datum) (cases : List Case) (other : Option Expr) : Stmt :=
  let ranges := cases.flatMap fun (constants, guard, action) =>
    (constants.filter (·.isRange)).map fun c => (([c], guard, action) : Case)
  let inRanges : Stmt :=
    if ranges.length = 1 || ranges.all (·.2.1.isNone) then
      match rangeCases d cases with
      | (_, guard, action) :: _ => guardedAction guard action other
      | [] => (other.map .expr).getD (.block [])
    else .choose value (rangeCases d cases) other
  match exactCases d cases with
  | [] => inRanges
  | [(_, guard, action)] => guardedAction guard action other
  | several =>
    match several.find? (·.2.1.isNone) with
    | some (_, _, action) => .expr action
    | none => inRanges

/-- A condition that always holds is none, and a case whose condition never holds goes. -/
def settledCases (cases : List Case) : List Case :=
  cases.filterMap fun (constants, guard, action) =>
    match guard with
    | some (.constant (.bool true) _) => some (constants, none, action)
    | some (.constant (.bool false) _) => none
    | guard => some (constants, guard, action)

/-- An operator that computes the new value of a variable from its old one assigns itself. -/
def assigned (target : Expr) (op : Option BinaryOp) (value : Expr) (otherwise : Stmt) : Stmt :=
  match target, op, value with
  | .var name p, none, .binary op (.var old _) b q =>
    if name == old && BinaryOp.assigning.contains op then .assign (.var name p) (some op) b q
    else otherwise
  | _, _, _ => otherwise

/-! ### Simpler expressions and statements -/

mutual
/-- A simpler expression of the same value. -/
def Expr.simplify (known : Known) : Expr → Expr
  | .constant d p => .constant d p
  | .var name p => ((known.value? name).map (.constant · p)).getD (.var name p)
  | .text parts p =>
    match (Expr.text parts p).value? with
    | some d => .constant d p
    | none => .text (mergeTexts (simplifyAll known parts)) p
  | .array items p =>
    match (Expr.array items p).value? with
    | some d => .constant d p
    | none => .array (simplifyAll known items) p
  | .map entries p =>
    match (Expr.map entries p).value? with
    | some d => .constant d p
    | none => .map (simplifyEntries known entries) p
  | .unary .not (.constant (.bool b) _) p => .constant (.bool !b) p
  | .unary op e p => .unary op (settled (e.simplify known)) p
  | .binary op a b p =>
    operated known op a b p (.binary op (settled (a.simplify known)) (settled (b.simplify known)) p)
  | .and a b => joinAnd a b (.and (a.simplify known) (b.simplify known))
  | .or a b => joinOr a b (.or (a.simplify known) (b.simplify known))
  | .orElse a b => joinOrElse a b (.orElse (a.simplify known) (b.simplify known))
  | .call name args isOpen p =>
    called name args p (.call name ((simplifyAll known args).map settled) isOpen p)
  | .memberCall owner name args p =>
    .memberCall owner name ((simplifyAll known args).map settled) p
  | .access (.var name p) links =>
    match links.map (knownPart? (known.value? name)) with
    | [some d] => .constant d p
    | _ => .access (.var name p) (simplifyLinks known links)
  | .access base links =>
    accessed base links (.access (base.simplify known) (simplifyLinks known links))
  | .lambda name captured p =>
    .lambda name (captured.map fun (x, d) => (x, (known.value? x).or d)) p
  | .block body p => .ofBlock (tidiedBlock true (simplifyStmts known true body)) p
  | e => e

def simplifyAll (known : Known) : List Expr → List Expr
  | [] => []
  | e :: es => e.simplify known :: simplifyAll known es

def simplifyEntries (known : Known) : List (String × Expr) → List (String × Expr)
  | [] => []
  | (k, e) :: es => (k, e.simplify known) :: simplifyEntries known es

def simplifyLinks (known : Known) : List Link → List Link
  | [] => []
  | .property name safe p :: rest => .property name safe p :: simplifyLinks known rest
  | .index e safe p :: rest => .index (e.simplify known) safe p :: simplifyLinks known rest
  | .method name args safe p :: rest =>
    .method name ((simplifyAll known args).map settled) safe p :: simplifyLinks known rest

/-- A simpler statement; `keep` holds where its value may be needed. -/
def Stmt.simplify (known : Known) (keep : Bool) : Stmt → Stmt
  | .nothing => .nothing
  | .expr (.block body _) => .ofBlock (tidiedBlock keep (simplifyStmts known keep body))
  | .expr e => .expr (e.simplify known)
  | .declare name value isConst => .declare name (value.simplify known) isConst
  | .assign (.var name q) op value p =>
    assigned (.var name q) op value (.assign (.var name q) op (value.simplify known) p)
  | .assign target op value p => .assign (target.simplify known) op (value.simplify known) p
  | .cond guard yes no =>
    match guard with
    | .constant (.bool true) _ => .ofBlock (tidiedBlock keep (simplifyStmts known keep yes))
    | .constant (.bool false) _ => .ofBlock (tidiedBlock keep (simplifyStmts known keep no))
    | guard =>
      if yes.isEmpty && no.isEmpty then
        if keep then .block [.expr (guard.simplify known), .nothing]
        else .expr (guard.simplify known)
      else
        .cond (guard.simplify known) (tidiedBlock keep (simplifyStmts known keep yes))
          (tidiedBlock keep (simplifyStmts known keep no))
  | .choose value cases other =>
    match value.value? with
    | some (.array items) => chosen value (.array items) cases other
    | some (.map entries) => chosen value (.map entries) cases other
    | _ =>
      .choose (value.simplify known) (settledCases (simplifyCases known cases))
        (simplifyOption known other)
  | .whileLoop guard body =>
    match guard with
    | some (.constant (.bool false) _) => .nothing
    | some (.constant (.bool true) _) =>
      .whileLoop none (tidiedBlock false (simplifyStmts known false body))
    | guard =>
      .whileLoop (simplifyOption known guard) (tidiedBlock false (simplifyStmts known false body))
  | .doLoop body guard goOn =>
    .doLoop (tidiedBlock false (simplifyStmts known false body)) (guard.simplify known) goOn
  | .forLoop name counter source body =>
    .forLoop name counter (source.simplify known)
      (tidiedBlock false (simplifyStmts known false body))
  | .breakLoop value => .breakLoop (simplifyOption known value)
  | .continueLoop => .continueLoop
  | .returnValue value => .returnValue (simplifyOption known value)
  | .throwValue value p => .throwValue (simplifyOption known value) p
  | .attempt body name handler =>
    if stmtsPure body then .ofBlock (tidiedBlock false (simplifyStmts known false body))
    else
      .attempt (tidiedBlock false (simplifyStmts known false body)) name
        (tidiedBlock false (simplifyStmts known false handler))
  | .block body =>
    match tidiedBlock keep (simplifyStmts known keep body) with
    | [] => .nothing
    | [s] => if s.isDeclaration then .block [s] else s
    | body => .block body

def simplifyOption (known : Known) : Option Expr → Option Expr
  | some e => some (e.simplify known)
  | none => none

/-- Simpler statements; a constant is known from its declaration on. -/
def simplifyStmts (known : Known) (keep : Bool) : List Stmt → List Stmt
  | [] => []
  | .declare name value isConst :: ss =>
    let value := value.simplify known
    .declare name value isConst ::
      simplifyStmts (known.add name (if isConst then value.value? else none)) keep ss
  | s :: ss => s.simplify known keep :: simplifyStmts known keep ss

def simplifyCases (known : Known) :
    List (List Datum × Option Expr × Expr) → List (List Datum × Option Expr × Expr)
  | [] => []
  | (constants, guard, action) :: rest =>
    (constants, simplifyOption known guard, action.simplify known) :: simplifyCases known rest
end

/-! ### Weights -/

mutual
/-- How heavy an expression is. A constant is lighter than anything it stands for. -/
def Expr.weight : Expr → Nat
  | .constant _ _ => 1
  | .text parts _ => 2 + allWeight parts
  | .array items _ => 2 + allWeight items
  | .map entries _ => 2 + entriesWeight entries
  | .unary _ e _ => 2 + e.weight
  | .binary _ a b _ => 2 + a.weight + b.weight
  | .and a b => 2 + a.weight + b.weight
  | .or a b => 2 + a.weight + b.weight
  | .orElse a b => 2 + a.weight + b.weight
  | .call _ args _ _ => 2 + allWeight args
  | .memberCall _ _ args _ => 2 + allWeight args
  | .access base links => 2 + base.weight + linksWeight links
  | .block body _ => 2 + stmtsWeight body
  | _ => 2

def allWeight : List Expr → Nat
  | [] => 0
  | e :: es => e.weight + allWeight es

def entriesWeight : List (String × Expr) → Nat
  | [] => 0
  | (_, e) :: es => e.weight + entriesWeight es

def linksWeight : List Link → Nat
  | [] => 0
  | .property _ _ _ :: rest => 1 + linksWeight rest
  | .index e _ _ :: rest => 1 + e.weight + linksWeight rest
  | .method _ args _ _ :: rest => 1 + allWeight args + linksWeight rest

def optionWeight : Option Expr → Nat
  | some e => 1 + e.weight
  | none => 0

def casesWeight : List (List Datum × Option Expr × Expr) → Nat
  | [] => 0
  | (constants, guard, action) :: rest =>
    constants.length + optionWeight guard + action.weight + casesWeight rest

/-- How heavy a statement is. -/
def Stmt.weight : Stmt → Nat
  | .nothing => 1
  | .expr e => 1 + e.weight
  | .declare _ value _ => 3 + value.weight
  | .assign target _ value _ => 3 + target.weight + value.weight
  | .cond guard yes no => 6 + guard.weight + stmtsWeight yes + stmtsWeight no
  | .choose value cases other => 10 + value.weight + casesWeight cases + optionWeight other
  | .whileLoop guard body => 3 + optionWeight guard + stmtsWeight body
  | .doLoop body guard _ => 3 + guard.weight + stmtsWeight body
  | .forLoop _ _ source body => 3 + source.weight + stmtsWeight body
  | .breakLoop value => 3 + optionWeight value
  | .continueLoop => 3
  | .returnValue value => 3 + optionWeight value
  | .throwValue value _ => 3 + optionWeight value
  | .attempt body _ handler => 4 + stmtsWeight body + stmtsWeight handler
  | .block body => 2 + stmtsWeight body

def stmtsWeight : List Stmt → Nat
  | [] => 0
  | s :: ss => s.weight + stmtsWeight ss
end

/-! ### Programs -/

/-- Simplify the body of a program or a function for as long as it becomes lighter. -/
def simplifyBody (limits : Limits) (body : List Stmt) : List Stmt :=
  let next := tidied true (·.isPure) true (simplifyStmts { limits } true body)
  if stmtsWeight next < stmtsWeight body then simplifyBody limits next else next
termination_by stmtsWeight body

/-- The program without the parts that do nothing. -/
def Program.simplify (limits : Limits) (p : Program) : Program :=
  { functions := p.functions.map fun f => { f with body := simplifyBody limits (allFlat f.body) }
    body := simplifyBody limits (allFlat p.body) }

end ReactiveTree.Snippet
