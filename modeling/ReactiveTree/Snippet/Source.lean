import ReactiveTree.Text.Letters

/-!
# The source of a snippet

A source is scanned once, from its first character to its last. A literal in single quotes becomes
one in double quotes, strict equalities in code become plain ones, and all else is copied: other
literals, comments and the rest of the code. Words in code that reach out of the sandbox are refused
before anything is parsed.

Key definitions: `Region`, `Source.piece`, `Source.scan`, `Source.normalize`, `Source.disallowed`.
-/
namespace ReactiveTree

/-- The parts of a source that are read by different rules. -/
inductive Region where
  | code
  | single
  | double
  | backtick
  | lineComment
  | blockComment
deriving Repr, DecidableEq, Inhabited

/-- A normalized source. -/
structure Normalized where
  text : String
  /-- The word `root` stands in code. -/
  readsRoot : Bool
deriving Repr, DecidableEq

namespace Region

/-- The quote that opens and closes a literal. -/
def quote? : Region → Option Char
  | .single => some '\''
  | .double => some '"'
  | .backtick => some (Char.ofNat 96)
  | _ => none

/-- The literal that a quote opens. -/
def ofQuote? (c : Char) : Option Region :=
  [single, double, backtick].find? fun r => r.quote? == some c

end Region

namespace Source

/-! ### Words -/

def isIdentifierChar (c : Char) : Bool := Text.isAlphanumeric c || c == '_' || c == '$'

/-- A run that starts with a digit is a number, and no word. -/
def isWord (cs : List Char) : Bool :=
  match cs with
  | [] => false
  | c :: _ => !Text.isAsciiDigit c

/-- The words that are refused. -/
def disallowed : List String :=
  ["eval", "import", "export", "Function", "constructor", "__proto__", "prototype", "globalThis",
   "window", "document", "process", "require", "fetch", "XMLHttpRequest", "Deno", "spawn"]

/-- The word that a run of the characters of identifiers is, unless it is a number. -/
def wordOf (run : List Char) : List String := if isWord run then [String.ofList run] else []

/-! ### Pieces -/

/-- A piece of a source: what is written for it, and how many characters it takes. -/
structure Piece where
  written : List Char
  length : Nat
deriving Repr

/-- A piece with some characters more in front, and what is written for them. -/
def Piece.after (written : List Char) (length : Nat) (rest : Piece) : Piece :=
  ⟨written ++ rest.written, rest.length + length⟩

/-- A literal in single quotes behind its opening quote, as it stands in double quotes. A backslash
keeps the next character from closing it. -/
def singleRest : List Char → Piece
  | [] => ⟨[], 0⟩
  | '\'' :: _ => ⟨['"'], 1⟩
  | '\\' :: c :: cs => (singleRest cs).after (if c = '\'' then [c] else ['\\', c]) 2
  | c :: cs => (singleRest cs).after (if c = '"' then ['\\', c] else [c]) 1

/-- A literal in other quotes behind its opening quote, which is copied. -/
def quotedRest (quote : Char) : List Char → Piece
  | [] => ⟨[], 0⟩
  | '\\' :: c :: cs => (quotedRest quote cs).after ['\\', c] 2
  | c :: cs => if c = quote then ⟨[c], 1⟩ else (quotedRest quote cs).after [c] 1

/-- A comment up to the end of its line. -/
def lineRest (cs : List Char) : Piece :=
  let line := cs.takeWhile (· != '\n')
  ⟨line, line.length⟩

/-- A comment up to an asterisk and a slash. -/
def blockRest : List Char → Piece
  | [] => ⟨[], 0⟩
  | '*' :: '/' :: _ => ⟨['*', '/'], 2⟩
  | c :: cs => (blockRest cs).after [c] 1

/-- The piece that starts with a character of code. What has no closing delimiter goes on to the end
of the source. -/
def piece (c : Char) (cs : List Char) : Piece :=
  match Region.ofQuote? c with
  | some .single => (singleRest cs).after ['"'] 1
  | some _ => (quotedRest c cs).after [c] 1
  | none =>
    match c, cs with
    | '/', '/' :: cs => (lineRest cs).after ['/', '/'] 2
    | '/', '*' :: cs => (blockRest cs).after ['/', '*'] 2
    | '=', '=' :: '=' :: _ => ⟨['=', '='], 3⟩
    | '!', '=' :: '=' :: _ => ⟨['!', '='], 3⟩
    | _, _ => ⟨[c], 1⟩

/-! ### Scanning -/

/-- What has been scanned of a source: what is written for it, and the words of its code. -/
structure Scanned where
  written : List Char
  words : List String
deriving Repr

/-- Scan a text from the left. `skip` characters belong to the piece before, and `run` are the
characters of an identifier that have come last. -/
def scan : Nat → List Char → List Char → Scanned
  | _, run, [] => ⟨[], wordOf run⟩
  | skip + 1, run, _ :: cs => scan skip run cs
  | 0, run, c :: cs =>
    if isIdentifierChar c then
      let rest := scan 0 (run ++ [c]) cs
      ⟨c :: rest.written, rest.words⟩
    else
      let p := piece c cs
      let rest := scan (p.length - 1) [] cs
      ⟨p.written ++ rest.written, wordOf run ++ rest.words⟩

/-- The normal form of a source, or the first word in it that is refused. -/
def normalize (source : String) : Except String Normalized :=
  let scanned := scan 0 [] source.toList
  match scanned.words.find? disallowed.contains with
  | some w => .error w
  | none =>
    .ok { text := String.ofList scanned.written
          readsRoot := scanned.words.contains "root" }

end Source
end ReactiveTree
