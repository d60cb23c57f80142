/-
# The words of a command line

The first word names a command; each command has one operand and options. An option is given at
most once, with its value as the next word, after an equals sign, or joined to its letter. A word
that begins with a dash and is no option is refused, unless two dashes came before.

Key definitions: `Command`, `Request`, `Command.readWords`, `Request.ofWords`.
-/
namespace ReactiveTree.CommandLine

/-- An option with a value, or a flag. -/
structure Switch where
  name : String
  letter : Option Char := none
  /-- What the value is called; a flag has none. -/
  value : Option String := none
  about : String
deriving Repr, DecidableEq

inductive Command where
  /-- Run everything over a tree. -/
  | evaluate
  /-- Make every snippet of a tree ready. -/
  | check
  /-- Show the dependencies of a tree. -/
  | graph
  /-- Make a tree of a flat map. -/
  | migrate
deriving Repr, DecidableEq

/-- What help is asked about. -/
inductive Topic where
  | program
  | command (c : Command)
  | help
deriving Repr, DecidableEq

/-- What the program is asked to do, with the names of the files. -/
inductive Request where
  | evaluate (tree : String) (settings snapshot : Option String) (write : Bool)
  | check (tree : String) (settings : Option String)
  | graph (tree : String)
  | migrate (flat : String) (output : Option String)
  | help (topic : Topic)
deriving Repr, DecidableEq

/-! ### The commands -/

namespace Command

def all : List Command := [evaluate, check, graph, migrate]

def name : Command → String
  | evaluate => "eval"
  | check => "check"
  | graph => "graph"
  | migrate => "migrate"

def about : Command → String
  | evaluate => "Run expressions, validation and watchers over a tree"
  | check => "Compile every expression, custom rule and watcher"
  | graph => "Print the expression dependency graph as JSON"
  | migrate => "Convert a legacy flat property map into a tree document"

/-- What the operand is called, and what it is. -/
def operand : Command → String × String
  | migrate => ("INPUT", "Legacy map (JSON)")
  | _ => ("TREE", "Tree document")

def settingsSwitch : Switch :=
  { name := "config", value := some "CONFIG", about := "Engine config (TOML)" }

def switches : Command → List Switch
  | evaluate =>
    [settingsSwitch,
     { name := "snapshot", value := some "SNAPSHOT"
       about := "Snapshot file read before the run and rewritten after it" },
     { name := "write", about := "Write the evaluated tree back to its file" }]
  | check => [settingsSwitch]
  | graph => []
  | migrate =>
    [{ name := "output", letter := some 'o', value := some "OUTPUT"
       about := "Output file; stdout when omitted" }]

def ofName? (name : String) : Option Command := all.find? fun c => c.name == name

end Command

/-! ### Reading words -/

/-- What the words after a command have given so far. -/
structure Given where
  operand : Option String := none
  /-- The options by name; a flag has the empty value. -/
  values : List (String × String) := []

namespace Given

/-- Take an operand. -/
def addOperand (g : Given) (word : String) : Option Given :=
  if g.operand.isSome || word == "" then none else some { g with operand := some word }

def value? (g : Given) (name : String) : Option String := g.values.lookup name

/-- Take an option with its value. -/
def addValue (g : Given) (s : Switch) (value : String) : Option Given :=
  if (g.value? s.name).isSome || value == "" then none
  else some { g with values := (s.name, value) :: g.values }

/-- Take a flag. -/
def addFlag (g : Given) (s : Switch) : Option Given :=
  if (g.value? s.name).isSome then none else some { g with values := (s.name, "") :: g.values }

end Given

/-- What a single word is, by its dashes. -/
inductive Word where
  /-- Two dashes alone: only operands follow. -/
  | rest
  /-- A name after two dashes, with the text after an equals sign. -/
  | long (name : String) (value : Option String)
  /-- A letter after one dash, with the text joined to it. -/
  | short (letter : Char) (joined : List Char)
  | operand

/-- Split a name from the text after the first equals sign. -/
def splitEquals (cs : List Char) : String × Option String :=
  match cs.span (· != '=') with
  | (name, _ :: value) => (String.ofList name, some (String.ofList value))
  | (name, []) => (String.ofList name, none)

def Word.ofText (word : String) : Word :=
  match word.toList with
  | ['-', '-'] => rest
  | '-' :: '-' :: cs =>
    let (name, value) := splitEquals cs
    long name value
  | '-' :: c :: cs => short c cs
  | _ => operand

/-- A word that can be the value of an option. -/
def Word.isOperand : Word → Bool
  | operand => true
  | _ => false

/-- What reading the words after a command comes to. -/
inductive Reading where
  /-- The words are refused. -/
  | refused
  /-- Help is asked for. -/
  | help
  | given (g : Given)

/-- Go on with the words that follow, if those before were taken. -/
def Reading.ofGiven (next : Given → Reading) : Option Given → Reading
  | some g => next g
  | none => refused

namespace Command

/-- Read the words after a command, from left to right; `plain` if only operands follow. -/
def readWords (c : Command) (plain : Bool) (g : Given) : List String → Reading
  | [] => .given g
  | word :: words =>
    let operand := Reading.ofGiven (fun g => c.readWords plain g words) (g.addOperand word)
    let joined (s : Switch) (value : String) : Reading :=
      Reading.ofGiven (fun g => c.readWords plain g words) (g.addValue s value)
    let separate (s : Switch) : Reading :=
      match words with
      | [] => .refused
      | value :: words =>
        if (Word.ofText value).isOperand then
          Reading.ofGiven (fun g => c.readWords plain g words) (g.addValue s value)
        else .refused
    if plain then operand
    else
      match Word.ofText word with
      | .operand => operand
      | .rest => c.readWords true g words
      | .long name value =>
        match c.switches.find? (·.name == name) with
        | some s =>
          match s.value, value with
          | some _, some value => joined s value
          | some _, none => separate s
          | none, some _ => .refused
          | none, none => Reading.ofGiven (fun g => c.readWords plain g words) (g.addFlag s)
        | none => if name = "help" ∧ value = none then .help else .refused
      | .short letter value =>
        match c.switches.find? (·.letter == some letter) with
        | some s =>
          match value with
          | [] => separate s
          | '=' :: value => joined s (String.ofList value)
          | value => joined s (String.ofList value)
        | none => if letter = 'h' then .help else .refused

/-- The request that a command makes of what is given; the operand must be. -/
def request? (c : Command) (g : Given) : Option Request := do
  let file ← g.operand
  match c with
  | evaluate =>
    return .evaluate file (g.value? "config") (g.value? "snapshot") (g.value? "write").isSome
  | check => return .check file (g.value? "config")
  | graph => return .graph file
  | migrate => return .migrate file (g.value? "output")

end Command

namespace Request

/-- The help that the words after `help` ask for. -/
def helpOf : List String → Option Request
  | [] => some (.help .program)
  | [name] =>
    if name = "help" then some (.help .help)
    else (Command.ofName? name).map fun c => .help (.command c)
  | _ => none

/-- The request that the words after a command make. -/
def ofCommand (c : Command) (words : List String) : Option Request :=
  match c.readWords false {} words with
  | .refused => none
  | .help => some (.help (.command c))
  | .given g => c.request? g

/-- The request that the words of a command line make; none if they are refused. -/
def ofWords : List String → Option Request
  | [] => none
  | word :: words =>
    match Word.ofText word with
    | .long "help" none => some (.help .program)
    | .short 'h' _ => some (.help .program)
    | .operand =>
      if word = "help" then helpOf words else (Command.ofName? word).bind (ofCommand · words)
    | _ => none

end Request
end ReactiveTree.CommandLine
