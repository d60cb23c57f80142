import ReactiveTree.Snippet.Limits
import ReactiveTree.Snippet.Purity

/-!
# Reading programs

The tokens of a source are read into a program by recursive descent, binary operators by their
precedence. Refused are constants where their type can never serve (a number as a condition),
assignments to constants, breaks outside of loops, literals with too many items, and
expressions that nest too deeply.

Key definitions: `Parse`, `parseExpr`, `parseStmt`, `Program.read?`, `Program.readData?`.
-/
namespace ReactiveTree.Snippet

/-- A variable that is in scope; constants cannot be assigned to. -/
structure Local where
  name : String
  isConst : Bool := false

structure ParseState where
  lexemes : List Lexeme
  locals : List Local := []
  /-- The variables that the function being read uses from outside, the last one first. -/
  outer : List String := []
  functions : List Function := []
  lambdas : Nat := 0

abbrev Parse := StateT ParseState Option

/-- Where a piece of source stands. -/
structure Place where
  limits : Limits
  level : Nat := 0
  inLoop : Bool := false
  inFunction : Bool := false
  /-- A bar separates constants here, and is no operator. -/
  inCase : Bool := false
  /-- The keys of maps are texts. -/
  quotedKeys : Bool := false

/-! ### Single tokens -/

def refuse {α : Type} : Parse α := fun _ => none

def peek : Parse (Option Token) := return (← get).lexemes.head?.map (·.token)

/-- Where the next token starts. -/
def here : Parse Position := return ((← get).lexemes.head?.map (·.position)).getD .start

def advance : Parse Unit := modify fun s => { s with lexemes := s.lexemes.tail }

def isSymbol (text : String) : Option Token → Bool
  | some (.symbol s) => s == text
  | _ => false

def isFixed (text : String) : Option Token → Bool
  | some (.word s) => s == text
  | _ => false

/-- The next token is this symbol. -/
def atSymbol (text : String) : Parse Bool := return isSymbol text (← peek)

/-- The next token is one of these symbols. -/
def atAny (texts : List String) : Parse Bool := do
  let t ← peek
  return texts.any (isSymbol · t)

/-- Take a symbol if it is next. -/
def takeSymbol (text : String) : Parse Bool := do
  if ← atSymbol text then advance; return true else return false

def takeWord (text : String) : Parse Bool := do
  if isFixed text (← peek) then advance; return true else return false

def expectSymbol (text : String) : Parse Unit := do
  unless ← takeSymbol text do refuse

def expectWord (text : String) : Parse Unit := do
  unless ← takeWord text do refuse

def expectName : Parse String := do
  match ← peek with
  | some (.name s) => advance; return s
  | _ => refuse

/-- One level deeper in the source. -/
def Place.deeper (p : Place) : Parse Place :=
  if within p.limits.depth (p.level + 1) then return { p with level := p.level + 1 } else refuse

/-! ### Variables -/

def declare (name : String) (isConst : Bool) : Parse Unit :=
  modify fun s => { s with locals := ⟨name, isConst⟩ :: s.locals }

/-- Use a variable. A name that only a function has is none of a variable. -/
def mention (name : String) : Parse Unit :=
  modify fun s =>
    if s.locals.any (·.name == name) || s.outer.contains name || s.functions.any (·.name == name)
    then s
    else { s with outer := name :: s.outer }

def isConstant (name : String) : Parse Bool :=
  return match (← get).locals.find? (·.name == name) with
    | some l => l.isConst
    | none => false

/-- Read a part that has variables of its own. -/
def inScope {α : Type} (read : Parse α) : Parse α := do
  let before := (← get).locals
  let a ← read
  modify fun s => { s with locals := before }
  return a

/-! ### Constants where they cannot serve -/

/-- The expression can be a condition. -/
def Expr.mayBeCondition : Expr → Bool
  | .constant (.bool _) _ => true
  | .constant _ _ => false
  | .text _ _ => false
  | .array _ _ => false
  | .map _ _ => false
  | _ => true

/-- The expression can be looped over. -/
def Expr.mayBeIterated : Expr → Bool
  | .constant d _ =>
    match d with
    | .unit | .bool _ | .int _ | .float _ | .char _ => false
    | _ => true
  | .map _ _ => false
  | _ => true

/-- An index can serve for a base, as far as their constants show. -/
def indexServes (base index : Expr) : Bool :=
  let other : Bool := match index with
    | .constant (.float _) _ | .constant (.char _) _ => false
    | .constant .unit _ | .constant (.bool _) _ => false
    | .and _ _ | .or _ _ => false
    | _ => true
  let isText : Bool := match index with
    | .constant (.string _) _ | .text _ _ => true
    | _ => false
  match base with
  | .map _ _ => other && !(match index with | .constant (.int _) _ => true | _ => false)
  | .constant (.int _) _ | .array _ _ | .constant (.string _) _ | .text _ _ => other && !isText
  | _ => true

/-- Negate a constant as it is read; other operands are negated when they run. -/
def negated (pos : Position) : Expr → Expr
  | .constant (.int n) p =>
    .constant (if Word64.inRange (-n) then .int (-n) else .float (-(Float.ofInt n))) p
  | .constant (.float x) p => .constant (.float (-x)) p
  | e => .unary .neg e pos

/-- A sign that changes nothing. -/
def plussed (pos : Position) : Expr → Expr
  | .constant (.int n) p => .constant (.int n) p
  | .constant (.float x) p => .constant (.float x) p
  | e => .unary .plus e pos

/-- The expression of an operator, which stands at a place, and its operands. A value is looked
for by asking what may contain it. -/
def Infix.combine (i : Infix) (pos : Position) (a b : Expr) : Parse Expr :=
  let contains : Expr := .call "contains" [b, a] false a.start
  match i with
  | .op .ne => return .binary .ne a b pos
  | .op o => return .binary o a b a.start
  | .and => if a.mayBeCondition && b.mayBeCondition then return .and a b else refuse
  | .or => if a.mayBeCondition && b.mayBeCondition then return .or a b else refuse
  | .orElse => return .orElse a b
  | .isIn => return contains
  | .notIn => return .unary .not contains a.start

/-- The operator that comes next. -/
def peekInfix (p : Place) : Parse (Option Infix) := do
  match (← peek).bind Infix.ofToken? with
  | some (.op .bitOr) => if p.inCase then return none else return some (.op .bitOr)
  | i => return i

/-- The fixed words that name functions. -/
def callableWords : List String :=
  ["print", "debug", "type_of", "Fn", "call", "curry", "is_shared", "is_def_var", "is_def_fn"]

/-- The fixed words that name methods. -/
def methodWords : List String := ["type_of", "call", "curry", "is_shared"]

/-- A statement after which no semicolon is needed. -/
def Stmt.endsItself : Stmt → Bool
  | .cond _ _ _ => true
  | .choose _ _ _ => true
  | .whileLoop _ _ => true
  | .forLoop _ _ _ _ => true
  | .attempt _ _ _ => true
  | .block _ => true
  | _ => false

/-- The statements that a statement stands for. -/
def Stmt.toBlock : Stmt → List Stmt
  | .block body => body
  | .nothing => []
  | s => [s]

/-- The operator of an assignment. -/
def assignOp? : Option Token → Option (Option BinaryOp)
  | some (.symbol "=") => some none
  | some (.symbol s) => (BinaryOp.assigning.find? fun o => o.symbol ++ "=" == s).map some
  | _ => none

/-- A value can be assigned to the end of these links. -/
def assignable (links : List Link) : Bool :=
  links.all fun | .method _ _ _ _ => false | _ => true

/-- The target can be assigned to. -/
def checkTarget : Expr → Parse Unit
  | .var name _ => do if ← isConstant name then refuse else return ()
  | .access (.var _ _) links => if assignable links then return () else refuse
  | .access (.this _) links => if assignable links then return () else refuse
  | .this _ => return ()
  | _ => refuse

/-- The names of a list in parentheses or between bars, up to its end. -/
def parseNames (fuel : Nat) (closing : String) (acc : List String) : Parse (List String) :=
  match fuel with
  | 0 => refuse
  | fuel + 1 => do
    if ← takeSymbol closing then return acc.reverse
    let name ← expectName
    if acc.contains name then refuse
    if ← takeSymbol "," then parseNames fuel closing (name :: acc)
    else
      expectSymbol closing
      return (name :: acc).reverse

/-- The symbols before which a range has no end. -/
def closingSymbols : List String := [")", "]", "\x7d", ",", ";", "=>"]

/-- An expression may start with this token. -/
def Token.startsExpr : Token → Bool
  | .symbol s =>
    ["(", "()", "[", "#\x7b", "\x7b", "|", "||", "-", "+", "!", "..", "..="].contains s
  | .word s => s != "in"
  | _ => true

mutual
/-- An expression. -/
def parseExpr (fuel : Nat) (p : Place) : Parse Expr :=
  match fuel with
  | 0 => refuse
  | fuel + 1 => do
    let p ← p.deeper
    let a ← parseUnary fuel p
    parseInfix fuel p 1 a

/-- The operators after an operand that bind tighter than `bound`, each one level deeper. -/
def parseInfix (fuel : Nat) (p : Place) (bound : Nat) (a : Expr) : Parse Expr :=
  match fuel with
  | 0 => refuse
  | fuel + 1 => do
    match ← peekInfix p with
    | none => return a
    | some i =>
      if i.precedence < bound || (i.precedence == bound && !i.fromRight) then return a
      else
        let pos ← here
        advance
        let b ← parseOperand fuel p i
        let b ← match ← peekInfix p with
          | some j =>
            if i.precedence < j.precedence || (i.precedence == j.precedence && i.fromRight) then
              parseInfix fuel (← p.deeper) i.precedence b
            else pure b
          | none => pure b
        parseInfix fuel (← p.deeper) bound (← i.combine pos a b)

/-- The operand after an operator. A range may have no end, and instead of a value there may be
a statement that leaves. -/
def parseOperand (fuel : Nat) (p : Place) (i : Infix) : Parse Expr :=
  match fuel with
  | 0 => refuse
  | fuel + 1 => do
    if i == .op .rangeOpen || i == .op .rangeClosed then
      if ← atAny closingSymbols then
        return .constant (.int Word64.maxInt) (← here)
      else parseUnary fuel p
    else if i == .orElse then
      match ← peek with
      | some (.word w) =>
        if ["break", "continue", "return", "throw"].contains w then
          let pos ← here
          return .block [← parseStmt fuel p] pos
        else parseUnary fuel p
      | _ => parseUnary fuel p
    else parseUnary fuel p

/-- An operand with the signs before it. A range may have no start. -/
def parseUnary (fuel : Nat) (p : Place) : Parse Expr :=
  match fuel with
  | 0 => refuse
  | fuel + 1 => do
    let pos ← here
    if (← atSymbol "..") || (← atSymbol "..=") then return .constant (.int 0) pos
    else if ← takeSymbol "-" then return negated pos (← parseUnary fuel (← p.deeper))
    else if ← takeSymbol "+" then return plussed pos (← parseUnary fuel (← p.deeper))
    else if ← takeSymbol "!" then return .unary .not (← parseUnary fuel (← p.deeper)) pos
    else
      let e ← parsePrimary fuel p
      parseLinks fuel p e []

/-- An operand without the links after it. -/
def parsePrimary (fuel : Nat) (p : Place) : Parse Expr :=
  match fuel with
  | 0 => refuse
  | fuel + 1 => do
    let pos ← here
    match ← peek with
    | some (.int n) => advance; return .constant (.int n) pos
    | some (.float x) => advance; return .constant (.float x) pos
    | some (.char c) => advance; return .constant (.char c) pos
    | some (.string s) => advance; return .constant (.string s) pos
    | some (.segment _) => return .text (← parsePieces fuel (← p.deeper) []) pos
    | some (.name name) => advance; parseNamed fuel p name pos
    | some (.word w) =>
      if w = "true" then advance; return .constant (.bool true) pos
      else if w = "false" then advance; return .constant (.bool false) pos
      else if w = "this" then
        advance
        if p.inFunction then return .this pos else refuse
      else if callableWords.contains w then
        advance
        let isOpen ← takeSymbol "!"
        return .call w (← parseArgs fuel p) isOpen pos
      else if ["if", "switch", "while", "loop", "do", "for"].contains w then
        return .block [← parseControl fuel p w] pos
      else refuse
    | some (.symbol s) =>
      if s = "()" then advance; return .constant .unit pos
      else if s = "(" then
        advance
        let e ← parseExpr fuel (← p.deeper)
        expectSymbol ")"
        return e
      else if s = "[" then advance; return .array (← parseItems fuel (← p.deeper) []) pos
      else if s = "#\x7b" then advance; return .map (← parseEntries fuel (← p.deeper) []) pos
      else if s = "\x7b" then return .block (← parseBlock fuel (← p.deeper)) pos
      else if s = "|" then
        advance
        let params ← parseNames fuel "|" []
        parseLambda fuel (← p.deeper) params pos
      else if s = "||" then advance; parseLambda fuel (← p.deeper) [] pos
      else refuse
    | none => refuse

/-- What a name stands for: a variable, a call, or a part of a module. -/
def parseNamed (fuel : Nat) (p : Place) (name : String) (pos : Position) : Parse Expr :=
  match fuel with
  | 0 => refuse
  | fuel + 1 => do
    if (← atSymbol "(") || (← atSymbol "()") then
      return .call name (← parseArgs fuel p) false pos
    else if ← takeSymbol "!" then return .call name (← parseArgs fuel p) true pos
    else if ← takeSymbol "::" then parseMember fuel p name pos
    else
      mention name
      return .var name pos

/-- A constant or a call after the name of a module. -/
def parseMember (fuel : Nat) (p : Place) (owner : String) (pos : Position) : Parse Expr :=
  match fuel with
  | 0 => refuse
  | fuel + 1 => do
    let name ← expectName
    if ← takeSymbol "::" then parseMember fuel p (owner ++ "::" ++ name) pos
    else if (← atSymbol "(") || (← atSymbol "()") then
      return .memberCall owner name (← parseArgs fuel p) pos
    else return .member owner name pos

/-- The pieces of a text with code in it. -/
def parsePieces (fuel : Nat) (p : Place) (acc : List Expr) : Parse (List Expr) :=
  match fuel with
  | 0 => refuse
  | fuel + 1 => do
    let pos ← here
    let add (s : String) : List Expr := if s = "" then acc else .constant (.string s) pos :: acc
    match ← peek with
    | some (.string s) => advance; return (add s).reverse
    | some (.segment s) =>
      advance
      let code ← here
      let body ← parseBlock fuel p
      parsePieces fuel p (.block body code :: add s)
    | _ => refuse

/-- The arguments of a call in their parentheses, one level deeper. -/
def parseArgs (fuel : Nat) (p : Place) : Parse (List Expr) :=
  match fuel with
  | 0 => refuse
  | fuel + 1 => do
    if ← takeSymbol "()" then return []
    else
      expectSymbol "("
      if ← takeSymbol ")" then return [] else parseMoreArgs fuel (← p.deeper) []

def parseMoreArgs (fuel : Nat) (p : Place) (acc : List Expr) : Parse (List Expr) :=
  match fuel with
  | 0 => refuse
  | fuel + 1 => do
    if ← takeSymbol ")" then return acc.reverse
    let e ← parseExpr fuel p
    if ← takeSymbol "," then parseMoreArgs fuel p (e :: acc)
    else
      expectSymbol ")"
      return (e :: acc).reverse

/-- The items of an array after its bracket. -/
def parseItems (fuel : Nat) (p : Place) (acc : List Expr) : Parse (List Expr) :=
  match fuel with
  | 0 => refuse
  | fuel + 1 => do
    if !within p.limits.items (acc.length + 1) then refuse
    if ← takeSymbol "]" then return acc.reverse
    let e ← parseExpr fuel (← p.deeper)
    if (← takeSymbol ",") || (← atSymbol "]") then parseItems fuel p (e :: acc) else refuse

/-- The entries of a map after its brace. -/
def parseEntries (fuel : Nat) (p : Place) (acc : List (String × Expr)) :
    Parse (List (String × Expr)) :=
  match fuel with
  | 0 => refuse
  | fuel + 1 => do
    if !within p.limits.entries acc.length then refuse
    if ← takeSymbol "\x7d" then return acc.reverse
    let key ← match ← peek with
      | some (.name s) => if p.quotedKeys then refuse else advance; pure s
      | some (.string s) => advance; pure s
      | _ => refuse
    if acc.any (·.1 == key) then refuse
    expectSymbol ":"
    let e ← parseExpr fuel (← p.deeper)
    if (← takeSymbol ",") || (← atSymbol "\x7d") then parseEntries fuel p ((key, e) :: acc)
    else refuse

/-- The body of a function without a name, after its parameters. -/
def parseLambda (fuel : Nat) (p : Place) (params : List String) (pos : Position) : Parse Expr :=
  match fuel with
  | 0 => refuse
  | fuel + 1 => do
    let before ← get
    set { before with locals := params.map (⟨·, false⟩), outer := [] }
    let s ← parseStmt fuel { p with inLoop := false, inFunction := true, inCase := false }
    let after ← get
    let captured := after.outer.reverse
    let name := lambdaStem ++ toString after.lambdas
    set { after with
      locals := before.locals
      outer := before.outer
      lambdas := after.lambdas + 1
      functions := { name, params := captured ++ params, body := s.toBlock } :: after.functions }
    for v in captured do mention v
    if captured.isEmpty then return .constant (.function name []) pos
    else return .lambda name (captured.map (·, none)) pos

/-- The links after an operand; `links` are those before, the last one first. Names are read one
level deeper for each before them. -/
def parseLinks (fuel : Nat) (p : Place) (base : Expr) (links : List Link) : Parse Expr :=
  match fuel with
  | 0 => refuse
  | fuel + 1 => do
    let done : Expr := if links.isEmpty then base else .access base links.reverse
    let pos ← here
    match ← peek with
    | some (.symbol s) =>
      if s = "[" || s = "?[" then
        advance
        let e ← parseIndex fuel (← p.deeper)
        if !indexServes done e then refuse
        parseIndices fuel p base (.index e (s = "?[") pos :: links)
      else if s = "." || s = "?." then
        advance
        let p ← p.deeper
        let safe : Bool := s = "?."
        let pos ← here
        match ← peek with
        | some (.name name) =>
          advance
          if (← atSymbol "(") || (← atSymbol "()") then
            let args ← parseArgs fuel p
            parseLinks fuel p base (.method name args safe pos :: links)
          else parseLinks fuel p base (.property name safe pos :: links)
        | some (.word w) =>
          if methodWords.contains w then
            advance
            let args ← parseArgs fuel p
            parseLinks fuel p base (.method w args safe pos :: links)
          else refuse
        | _ => refuse
      else return done
    | _ => return done

/-- An index after its bracket. -/
def parseIndex (fuel : Nat) (p : Place) : Parse Expr :=
  match fuel with
  | 0 => refuse
  | fuel + 1 => do
    let e ← parseExpr fuel (← p.deeper)
    expectSymbol "]"
    return e

/-- The indices that follow an index, each one level deeper than the one before, and the links
after them. -/
def parseIndices (fuel : Nat) (p : Place) (base : Expr) (links : List Link) : Parse Expr :=
  match fuel with
  | 0 => refuse
  | fuel + 1 => do
    let rec more (fuel : Nat) (deep : Place) (links : List Link) : Parse (List Link) :=
      match fuel with
      | 0 => refuse
      | fuel + 1 => do
        let pos ← here
        let safe ← atSymbol "?["
        if safe || (← atSymbol "[") then
          advance
          let deep ← deep.deeper
          let e ← parseIndex fuel deep
          more fuel deep (.index e safe pos :: links)
        else return links
    let links ← more fuel (← p.deeper) links
    parseLinks fuel p base links

/-- A condition: no block, and nothing that is assigned to. -/
def parseGuard (fuel : Nat) (p : Place) : Parse Expr :=
  match fuel with
  | 0 => refuse
  | fuel + 1 => do
    if ← atSymbol "\x7b" then refuse
    let e ← parseExpr fuel p
    if !e.mayBeCondition || (assignOp? (← peek)).isSome then refuse
    return e

/-- The statements of a block in its braces. -/
def parseBlock (fuel : Nat) (p : Place) : Parse (List Stmt) :=
  match fuel with
  | 0 => refuse
  | fuel + 1 => do
    let p ← p.deeper
    expectSymbol "\x7b"
    inScope (parseStmts fuel p [])

/-- The statements of a block after its brace. -/
def parseStmts (fuel : Nat) (p : Place) (acc : List Stmt) : Parse (List Stmt) :=
  match fuel with
  | 0 => refuse
  | fuel + 1 => do
    if ← takeSymbol "\x7d" then return acc.reverse
    else if ← takeSymbol ";" then parseStmts fuel p acc
    else
      let s ← parseStmt fuel p
      if s.endsItself || (← takeSymbol ";") || (← atSymbol "\x7d") then parseStmts fuel p (s :: acc)
      else refuse

/-- The condition of an `if` and what follows it. -/
def parseCond (fuel : Nat) (p : Place) : Parse Stmt :=
  match fuel with
  | 0 => refuse
  | fuel + 1 => do
    let guard ← parseGuard fuel p
    let yes ← parseBlock fuel p
    if ← takeWord "else" then
      if ← takeWord "if" then
        let p ← p.deeper
        return .cond guard yes [← parseCond fuel (← p.deeper)]
      else return .cond guard yes (← parseBlock fuel p)
    else return .cond guard yes []

/-- The constants of a case. -/
def parseCaseConstants (fuel : Nat) (p : Place) (acc : List Datum) : Parse (List Datum) :=
  match fuel with
  | 0 => refuse
  | fuel + 1 => do
    let e ← parseExpr fuel { p with inCase := true }
    match e.value? with
    | none => refuse
    | some d =>
      if ← takeSymbol "|" then parseCaseConstants fuel p (d :: acc) else return (d :: acc).reverse

/-- The cases of a switch after its brace. An integer may not come after a range. -/
def parseCases (fuel : Nat) (p : Place) (acc : List Case) (other : Option Expr) :
    Parse (List Case × Option Expr) :=
  match fuel with
  | 0 => refuse
  | fuel + 1 => do
    if ← takeSymbol "\x7d" then return (acc.reverse, other)
    if other.isSome then refuse
    let isOther ← takeSymbol "_"
    let (constants, guard) ← if isOther then pure ([], none) else do
      let constants ← parseCaseConstants fuel p []
      let known := (acc.reverse.flatMap (·.1) ++ constants).filter (!·.isEmptyRange)
      if (known.dropWhile (!·.isRange)).any fun | .int _ => true | _ => false then refuse
      if ← takeWord "if" then pure (constants, some (← parseGuard fuel p))
      else pure (constants, none)
    expectSymbol "=>"
    let pos ← here
    let s ← inScope (parseStmt fuel p)
    if !((← takeSymbol ",") || (← atSymbol "\x7d") || s.endsItself) then refuse
    let action : Expr := .block s.toBlock pos
    if isOther then parseCases fuel p acc (some action)
    else parseCases fuel p ((constants, guard, action) :: acc) other

/-- The value of a `break`, `return` or `throw`, if there is one. -/
def parseResult (fuel : Nat) (p : Place) : Parse (Option Expr) :=
  match fuel with
  | 0 => refuse
  | fuel + 1 => do
    match ← peek with
    | some t => if t.startsExpr then some <$> parseExpr fuel (← p.deeper) else return none
    | none => return none

/-- The names and the body of a `for`. -/
def parseFor (fuel : Nat) (p : Place) : Parse Stmt :=
  match fuel with
  | 0 => refuse
  | fuel + 1 => do
    let (name, counter) ← if ← takeSymbol "(" then do
        let name ← expectName
        expectSymbol ","
        let counter ← expectName
        expectSymbol ")"
        if name = counter then refuse
        pure (name, some counter)
      else do pure (← expectName, none)
    expectWord "in"
    if ← atSymbol "\x7b" then refuse
    let source ← parseExpr fuel p
    if !source.mayBeIterated then refuse
    inScope do
      if let some c := counter then declare c false
      declare name false
      return .forLoop name counter source (← parseBlock fuel { p with inLoop := true })

/-- A statement that starts with one of the words that expressions may start with too. -/
def parseControl (fuel : Nat) (p : Place) (w : String) : Parse Stmt :=
  match fuel with
  | 0 => refuse
  | fuel + 1 => do
    advance
    let p ← p.deeper
    let loop : Place := { p with inLoop := true }
    if w = "if" then parseCond fuel p
    else if w = "switch" then
      if ← atSymbol "\x7b" then refuse
      let value ← parseExpr fuel p
      expectSymbol "\x7b"
      let (cases, other) ← parseCases fuel p [] none
      return .choose value cases other
    else if w = "while" then
      let guard ← parseGuard fuel p
      return .whileLoop (some guard) (← parseBlock fuel loop)
    else if w = "loop" then return .whileLoop none (← parseBlock fuel loop)
    else if w = "do" then
      let body ← parseBlock fuel loop
      let goOn ← takeWord "while"
      if !goOn then expectWord "until"
      return .doLoop body (← parseGuard fuel p) goOn
    else parseFor fuel p

/-- A statement without the semicolon that may end it. -/
def parseStmt (fuel : Nat) (p : Place) : Parse Stmt :=
  match fuel with
  | 0 => refuse
  | fuel + 1 => do
    let p ← p.deeper
    let pos ← here
    match ← peek with
    | none => return .nothing
    | some (.symbol ";") => advance; return .nothing
    | some (.symbol "\x7b") => return .block (← parseBlock fuel (← p.deeper))
    | some (.word w) =>
      if ["if", "switch", "while", "loop", "do", "for"].contains w then parseControl fuel p w
      else if w = "continue" then
        advance
        if p.inLoop then return .continueLoop else refuse
      else if w = "break" then
        advance
        if p.inLoop then return .breakLoop (← parseResult fuel p) else refuse
      else if w = "return" then advance; return .returnValue (← parseResult fuel p)
      else if w = "throw" then advance; return .throwValue (← parseResult fuel p) pos
      else if w = "try" then
        advance
        let p ← p.deeper
        let body ← parseBlock fuel p
        expectWord "catch"
        let name ← if ← takeSymbol "(" then do
            let name ← expectName
            expectSymbol ")"
            pure (some name)
          else pure none
        inScope do
          if let some name := name then declare name false
          return .attempt body name (← parseBlock fuel p)
      else if w = "let" || w = "const" then
        advance
        let p ← p.deeper
        let name ← expectName
        let value ← if ← takeSymbol "=" then parseExpr fuel p else pure (.constant .unit pos)
        declare name (w = "const")
        return .declare name value (w = "const")
      else parseExprStmt fuel p
    | _ => parseExprStmt fuel p

/-- An expression, or an assignment to one. -/
def parseExprStmt (fuel : Nat) (p : Place) : Parse Stmt :=
  match fuel with
  | 0 => refuse
  | fuel + 1 => do
    let e ← parseExpr fuel p
    let pos ← here
    match assignOp? (← peek) with
    | none => return .expr e
    | some op =>
      checkTarget e
      advance
      return .assign e op (← parseExpr fuel (← p.deeper)) pos
end

/-! ### Programs -/

/-- The name of a type as functions give it. -/
def ownerName (s : String) : String :=
  if s = "int" then "i64" else if s = "float" then "f64" else s

/-- The type whose method a function is, and the name of the function. -/
def parseOwner : Parse (Option String × String) := do
  match ← peek with
  | some (.string s) =>
    advance
    expectSymbol "."
    return (some (ownerName s), ← expectName)
  | _ =>
    let s ← expectName
    if ← takeSymbol "." then return (some (ownerName s), ← expectName) else return (none, s)

/-- The rest of a function with a name, after its first word. -/
def parseFunction (fuel : Nat) (p : Place) (isPrivate : Bool) : Parse Unit := do
  let p ← p.deeper
  let (owner, name) ← parseOwner
  let params ← if ← takeSymbol "()" then pure [] else do
    expectSymbol "("
    parseNames fuel ")" []
  let before ← get
  set { before with locals := params.map (⟨·, false⟩), outer := [] }
  let body ← parseBlock fuel { p with inFunction := true }
  let after ← get
  let isSame (f : Function) : Bool :=
    f.name == name && f.params.length == params.length && f.owner == owner
  if after.functions.any isSame then refuse
  set { after with
    locals := before.locals
    outer := before.outer
    functions := { name, params, body, owner, isPrivate } :: after.functions }

/-- The statements of a program; functions may be defined between them. -/
def parseProgram (fuel : Nat) (p : Place) (acc : List Stmt) : Parse (List Stmt) :=
  match fuel with
  | 0 => refuse
  | fuel + 1 => do
    if (← peek).isNone then return acc.reverse
    else if ← takeSymbol ";" then parseProgram fuel p acc
    else if ← takeWord "private" then
      expectWord "fn"
      parseFunction fuel p true
      parseProgram fuel p acc
    else if ← takeWord "fn" then
      parseFunction fuel p false
      parseProgram fuel p acc
    else
      let s ← parseStmt fuel p
      if s.endsItself || (← takeSymbol ";") || (← peek).isNone then parseProgram fuel p (s :: acc)
      else refuse

/-- The program that a text writes; none if it is no program. -/
def Program.read? (limits : Limits) (text : String) : Option Program := do
  let lexemes ← Token.scan? limits.text text
  let fuel := 20 * lexemes.length + 100
  let (body, state) ← parseProgram fuel { limits } [] { lexemes }
  return ⟨state.functions.reverse, body⟩

/-! ### Data -/

/-- The token of a program that a token of a data text stands for. -/
def Token.ofData? : Token → Option Token
  | .word "null" => some (.symbol "()")
  | .symbol s =>
    if s = "\x7b" then some (.symbol "#\x7b")
    else if s = "()" || s = "#\x7b" then none
    else some (.symbol s)
  | .segment _ => none
  | t => some t

/-- The program that gives the value of a data text: one expression, in which braces hold maps
with quoted keys. -/
def Program.readData? (limits : Limits) (text : String) : Option Program := do
  let lexemes ← Token.scan? limits.text text
  let lexemes ← lexemes.mapM fun l => (Token.ofData? l.token).map fun t => { l with token := t }
  let fuel := 20 * lexemes.length + 100
  let (e, state) ← parseExpr fuel { limits, quotedKeys := true } { lexemes }
  if state.lexemes.isEmpty then return ⟨state.functions.reverse, [.expr e]⟩ else none

end ReactiveTree.Snippet
