import ReactiveTree.Snippet.Library.Callbacks
import ReactiveTree.Snippet.Parts

/-!
# Calls of functions that every program has

A function of the library computes with its arguments alone; some functions reach outside: they
write to the log, read the tree, end the snippet or look at its functions. The first argument
may be held in its place, and then changes there, unless it is fixed.

Key definitions: `Hold`, `Hooks`, `effect?`, `callNative`, `CallArgs.choices`, `firstTaken`.
-/
namespace ReactiveTree.Snippet

/-- How a function holds its first argument. -/
structure Hold where
  /-- The argument stands in its place, and is no copy. -/
  inPlace : Bool := false
  isFixed : Bool := false

/-- What functions of the library need of the machine. -/
structure Hooks where
  call : Caller
  /-- The value of a data text. -/
  readData : String → Run Datum

/-- The function of the program with a name and a number of parameters. -/
def Env.function? (env : Env) (owner : Option String) (name : String) (arity : Nat) :
    Option Function :=
  env.functions.find? fun f => f.name == name && f.params.length == arity && f.owner == owner

/-- The function that a call of a method means: one for the type of the object comes before one
for all. -/
def Env.method? (env : Env) (object : Datum) (name : String) (arity : Nat) : Option Function :=
  (env.function? (some object.typeName) name arity).or (env.function? none name arity)

/-- A name is that of a function of the program. -/
def Env.hasFunction (env : Env) (name : String) : Bool := env.functions.any (·.name == name)

/-- What a program learns of a function of its own. -/
def Function.description (f : Function) : Datum :=
  .map ([("access", .string (if f.isPrivate then "private" else "public")),
    ("is_anonymous", .bool (isLambdaName f.name)), ("name", .string f.name),
    ("params", .array (f.params.map .string))] ++
    (f.owner.map fun owner => ("this_type", .string owner)).toList)

/-- The functions of the program that arguments ask for: all, or those of a name and perhaps a
number of parameters. -/
def described (env : Env) (wanted : Function → Bool) : Run Datum :=
  return .array ((env.functions.filter wanted).map (·.description))

/-- Write a text of a value to the log. -/
def writeNote (env : Env) (make : String → Note) (depth : Nat) (text : String) : Run Datum := do
  peak env depth
  discard (sized env (.string text))
  note (make text)
  return .unit

/-- The functions that reach outside of their arguments. -/
def effect? (env : Env) (hooks : Hooks) (name : String) (args : List Datum) : Option (Run Datum) :=
  match name, args with
  | "print", [] => some (writeNote env .info 0 "")
  | "print", [d] => some (writeNote env .info (textDepth d) d.text)
  | "debug", [] => some (writeNote env .debug 0 "")
  | "debug", [.char c] => some (writeNote env .debug 0 (String.singleton c))
  | "debug", [d] => some (writeNote env .debug (textDepth d) d.debugText)
  | "log", [d] => some do note (.info d.hostText); return .unit
  | "get", [.string path] => some (return env.read path)
  | "exit", [] => some (fail (.exited .unit))
  | "exit", [d] => some (fail (.exited d))
  | "parse_json", [.string s] => some (hooks.readData s)
  | "type_of", [d] => some (return .string d.typeName)
  | "get_fn_metadata_list", [] => some (described env fun _ => true)
  | "get_fn_metadata_list", [.string f] => some (described env (·.name == f))
  | "get_fn_metadata_list", [.string f, .int n] =>
    some (described env fun g => g.name == f && (g.params.length : Int) == n)
  | _, _ => none

/-- An outcome that leaves a fixed object as it is. -/
def unlessFixed (hold : Hold) (name : String) (o : Outcome) : Run Outcome :=
  if hold.isFixed && o.object.isSome then fail (.constantObject name) else return o

/-- What a function of the library does with its arguments. -/
def runNative (env : Env) (hooks : Hooks) (hold : Hold) (name : String) (args : List Datum) :
    Run Outcome := do
  let bare := args.map Datum.bare
  match callbackFunction? hooks.call name bare with
  | some run => if hold.isFixed && changesObject name then fail (.constantObject name) else run
  | none =>
    match tagFunction? name args with
    | some r => do unlessFixed hold name (← ofResult r)
    | none =>
      match Native.find? library env.limits name bare with
      | some (f, r) => do
        let o ← unlessFixed hold name (← ofResult r)
        peak env o.depth
        match o.object, args with
        | some d, first :: _ => return { o with object := some (d.withTag first.tag) }
        | none, first :: _ => do
          if f.inPlace && hold.inPlace then discard (sized env first)
          return o
        | _, _ => return o
      | none =>
        match effect? env hooks name bare with
        | some run => return { value := ← run }
        | none => fail (notFound name args)

/-- Call a function of the library. -/
def callNative (env : Env) (hooks : Hooks) (hold : Hold) (name : String) (args : List Datum) :
    Run Outcome := do
  tick env
  let o ← runNative env hooks hold name args
  discard (sized env o.value)
  if let some d := o.object then discard (sized env d)
  return o

/-! ### Calls from the library -/

/-- Run a part one call deeper; its operations do not count afterwards. -/
def deeper {α : Type} (run : Run α) : Run α := fun m =>
  match run { m with level := m.level + 1 } with
  | .ok a n => .ok a { n with level := m.level, operations := m.operations }
  | .error e n => .error e { n with level := m.level, operations := m.operations }

/-- The ways to put the item into a call, in the order in which they are tried: the arguments,
and the object. -/
def CallArgs.choices (given : CallArgs) (bound : List Datum) : List (List Datum × Option Datum) :=
  let placed : List (List Datum × Option Datum) :=
    match given.place, given.item with
    | some i, some x =>
      let args := bound ++ given.args.take i ++ x :: given.args.drop i
      [(args, none), (args ++ given.extra, none)]
    | _, _ => []
  (bound ++ given.args, given.item) :: placed ++ [(bound ++ given.args ++ given.extra, given.item)]

/-- The first of some calls of a function whose arguments it takes. -/
def firstTaken {α : Type} (name : String) (call : Run α) : List (Run α) → Run α
  | [] => call
  | next :: calls => fun m =>
    match call m with
    | .error (.fault (.functionNotFound n detail) pos) m =>
      if n = name then firstTaken name next calls m
      else .error (.fault (.functionNotFound n detail) pos) m
    | r => r

end ReactiveTree.Snippet
