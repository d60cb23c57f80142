import ReactiveTree.Snippet.Parser
import ReactiveTree.Snippet.Run
import ReactiveTree.Snippet.Source
import ReactiveTree.Tree.Mutation

/-!
# The engine that runs snippets

A snippet is made ready once: its source is normalized, read and simplified, and kept under its
text. It runs with the variables that it is given and with the tree that the engine holds, a
copy that only sees the writes it is told of. What fails is the snippet, never the engine.

Key definitions: `SnippetError`, `Compiled`, `compile`, `Cache.compile`, `Engine`,
`Engine.read`, `Engine.root`, `Engine.eval`.
-/
namespace ReactiveTree.Snippet

/-- Why a snippet has no result. -/
inductive SnippetError where
  /-- The source is no program. -/
  | malformed
  | failed (e : RunError)
  | timedOut (ms : Nat)
  | runaway (operations : Nat)
  /-- The source has a word that reaches outside. -/
  | disallowed (word : String)
deriving Inhabited

namespace SnippetError

def message : SnippetError → String
  | malformed => "syntax error: the source is no program"
  | failed e => e.message
  | timedOut ms => "script timed out after " ++ toString ms ++ " ms"
  | runaway n => "script exceeded " ++ toString n ++ " operations"
  | disallowed w => "disallowed token '" ++ w ++ "'"

/-- The failure of a run, without the calls around it; those that come from the budget name it. -/
def ofRunError (limits : Limits) (e : RunError) : SnippetError :=
  match e.root with
  | .tooManyOperations => runaway limits.operations
  | .timedOut => timedOut limits.time
  | .malformed => malformed
  | e => failed e

end SnippetError

/-- A snippet that is ready to run. -/
structure Compiled where
  source : String
  /-- The variable `root` is wanted. -/
  readsRoot : Bool
  program : Program
deriving Inhabited

/-- Make a snippet ready to run. -/
def compile (limits : Limits) (source : String) : Except SnippetError Compiled :=
  match Source.normalize source with
  | .error word => .error (.disallowed word)
  | .ok n =>
    match Program.read? limits n.text with
    | none => .error .malformed
    | some p => .ok { source, readsRoot := n.readsRoot, program := p.simplify limits }

/-! ### Kept snippets -/

/-- Snippets that are ready, by their sources. -/
structure Cache where
  entries : List (String × Compiled) := []
deriving Inhabited

namespace Cache

def find? (c : Cache) (source : String) : Option Compiled :=
  (c.entries.find? (·.1 == source)).map (·.2)

def size (c : Cache) : Nat := c.entries.length

def isEmpty (c : Cache) : Bool := c.entries.isEmpty

def erase (c : Cache) (source : String) : Cache := ⟨c.entries.filter (·.1 != source)⟩

/-- Take a snippet from the cache, or make it ready and keep it. Failures are not kept. -/
def compile (c : Cache) (limits : Limits) (source : String) :
    Except SnippetError Compiled × Cache :=
  match c.find? source with
  | some s => (.ok s, c)
  | none =>
    match Snippet.compile limits source with
    | .ok s => (.ok s, ⟨(source, s) :: c.entries⟩)
    | .error e => (.error e, c)

end Cache

/-! ### The engine -/

/-- The variables of a run. -/
abbrev Bindings := List (String × Datum)

/-- What a variable is bound to: the value of a scalar, and `()` where there is none. -/
def Datum.ofOption (v : Option Scalar) : Datum := (v.map Datum.ofScalar).getD .unit

structure Engine where
  limits : Limits := {}
  cache : Cache := {}
  /-- The tree that snippets see. -/
  tree : Option Tree := none
  /-- The lines that snippets wrote. -/
  log : List Note := []
deriving Inhabited

namespace Engine

/-- Show a tree to snippets. -/
def load (e : Engine) (t : Tree) : Engine := { e with tree := some t }

/-- Show no tree to snippets. -/
def unload (e : Engine) : Engine := { e with tree := none }

/-- Follow a value that was written to the tree. -/
def update (e : Engine) (path : String) (v : Scalar) : Engine :=
  { e with tree := e.tree.map fun t => (t.setPrimitive path v).toOption.getD t }

/-- What a snippet reads at a path. -/
def read (e : Engine) (path : String) : Datum :=
  ((e.tree.bind (·.get? path)).map Datum.ofNode).getD .unit

/-- The whole tree as a snippet sees it. -/
def root (e : Engine) : Datum := (e.tree.map fun t => Datum.ofNode t.root).getD .unit

/-- Make a snippet ready. -/
def compile (e : Engine) (source : String) : Except SnippetError Compiled × Engine :=
  let (r, cache) := e.cache.compile e.limits source
  (r, { e with cache })

/-- The result of a snippet, and the lines that it writes. -/
def run (e : Engine) (s : Compiled) (bindings : Bindings) : Except SnippetError Datum × List Note :=
  let given := if s.readsRoot then bindings ++ [("root", e.root)] else bindings
  let result := s.program.run e.limits e.read given
  (result.1.mapError (SnippetError.ofRunError e.limits), result.2)

/-- Make a snippet ready and run it. -/
def eval (e : Engine) (source : String) (bindings : Bindings) :
    Except SnippetError Datum × Engine :=
  match e.compile source with
  | (.error err, e) => (.error err, e)
  | (.ok s, e) =>
    let result := e.run s bindings
    (result.1, { e with log := e.log ++ result.2 })

end Engine
end ReactiveTree.Snippet
