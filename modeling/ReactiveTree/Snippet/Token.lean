import ReactiveTree.Decimal.Reading
import ReactiveTree.Snippet.Position
import ReactiveTree.Text.Blank
import ReactiveTree.Text.CharSet
import ReactiveTree.Word64

/-!
# Tokens of snippets

The words of the snippet language: literals, names, fixed words and symbols. A text in
backticks may hold code between `$` and a block in braces; it gives one `segment` for each
piece of text that code follows, then the tokens of the block, and a `string` for the last
piece. A minus sign belongs to the numeral after it unless it stands behind a value. Blanks and
comments stand between tokens; block comments nest.

Key definitions: `Token`, `Lexeme`, `Token.scan?`.
-/
namespace ReactiveTree.Snippet

open Text (isAsciiLetter isAsciiDigit hexDigit?)

inductive Token where
  | int (n : Int)
  | float (x : Float)
  | char (c : Char)
  | string (s : String)
  /-- A piece of text that a block in braces follows. -/
  | segment (s : String)
  | name (s : String)
  /-- A fixed word of the language, or one that is kept free. -/
  | word (s : String)
  | symbol (s : String)
deriving Repr, Inhabited

/-- A token and where it starts. -/
structure Lexeme where
  token : Token
  position : Position
deriving Repr, Inhabited

namespace Token

/-! ### Numbers -/

/-- The base that the letter after a leading zero stands for. -/
def base? (c : Char) : Option Nat :=
  if c = 'x' ∨ c = 'X' then some 16
  else if c = 'o' ∨ c = 'O' then some 8
  else if c = 'b' ∨ c = 'B' then some 2
  else none

/-- The value of a digit in a base. -/
def digitIn? (base : Nat) (c : Char) : Option Nat := (hexDigit? c).filter (· < base)

/-- The characters of a numeral without its separators, and what follows; `acc` holds those
before in reverse. A point belongs to it if a digit follows, or nothing that could start a name
or another point. -/
def numeral (isDigit : Char → Bool) (acc : List Char) : List Char → List Char × List Char
  | [] => (acc.reverse, [])
  | c :: cs =>
    if c = '_' then numeral isDigit acc cs
    else if isDigit c then numeral isDigit (c :: acc) cs
    else if c = '.' then
      match cs.head? with
      | none => (('0' :: '.' :: acc).reverse, [])
      | some d =>
        if isAsciiDigit d then numeral isDigit ('.' :: acc) cs
        else if d = '_' ∨ d = '.' ∨ isAsciiLetter d then (acc.reverse, c :: cs)
        else numeral isDigit ('0' :: '.' :: acc) cs
    else if c = 'e' ∨ c = 'E' then
      if (cs.head?.map isAsciiDigit).getD false then numeral isDigit ('e' :: acc) cs
      else
        match cs with
        | '+' :: rest => numeral isDigit ('+' :: 'e' :: acc) rest
        | '-' :: rest => numeral isDigit ('-' :: 'e' :: acc) rest
        | cs => (acc.reverse, c :: cs)
    else if acc = ['0'] then
      match base? c with
      | some 16 => numeral (fun d => (hexDigit? d).isSome) (c :: acc) cs
      | some _ => numeral isAsciiDigit (c :: acc) cs
      | none => (acc.reverse, c :: cs)
    else (acc.reverse, c :: cs)

/-- The number of a numeral in a base: 64 bits, the first of them the sign. -/
def ofBased? (base : Nat) (ds : List Char) : Option Token := do
  let values ← ds.mapM (digitIn? base)
  let n := values.foldl (fun acc d => base * acc + d) 0
  if ds.isEmpty || Word64.count ≤ n then none else return .int (Word64.ofBits n)

/-- The number of a decimal numeral; a whole one beyond the integers is a float. -/
def ofDecimal? (negative : Bool) (cs : List Char) : Option Token :=
  let n : Int := Decimal.ofDigits cs
  let n := if negative then -n else n
  if cs.all isAsciiDigit && Word64.inRange n then some (.int n)
  else (Decimal.readUnsigned? cs).map fun x => .float (if negative then -x else x)

/-- The number that starts with a digit. Only decimal ones have a sign of their own. -/
def number? (negative : Bool) (cs : List Char) : Option (Token × List Char) :=
  let (written, rest) := numeral isAsciiDigit [] cs
  match written with
  | '0' :: c :: ds =>
    match base? c with
    | some base => if negative then none else (ofBased? base ds).map (·, rest)
    | none => (ofDecimal? negative written).map (·, rest)
  | _ => (ofDecimal? negative written).map (·, rest)

/-! ### Texts -/

/-- The character of an escape with hexadecimal digits. -/
def hexEscape? (digits : Nat) (cs : List Char) : Option (Char × List Char) := do
  let n ← if (cs.take digits).length = digits then Text.ofHexDigits? (cs.take digits) else none
  if n.isValidChar then return (Char.ofNat n, cs.drop digits) else none

/-- The character of an escape, after its backslash, in a text with this quote. -/
def escape? (quote : Char) : List Char → Option (Char × List Char)
  | [] => none
  | c :: cs =>
    if c = '\\' ∨ c = quote then some (c, cs)
    else if c = 't' then some ('\t', cs)
    else if c = 'n' then some ('\n', cs)
    else if c = 'r' then some ('\r', cs)
    else if c = 'x' then hexEscape? 2 cs
    else if c = 'u' then hexEscape? 4 cs
    else if c = 'U' then hexEscape? 8 cs
    else none

/-- Drop at most this many blanks, none of them a line end. -/
def dropIndent : Nat → List Char → List Char
  | n + 1, c :: cs => if Text.isBlank c && c != '\n' then dropIndent n cs else c :: cs
  | _, cs => cs

/-- A carriage return before a line end is no part of a text. -/
def skipReturn : List Char → List Char
  | '\r' :: '\n' :: cs => '\n' :: cs
  | cs => cs

/-- The text after an opening quote on one line, up to its closing quote; `acc` holds the
characters before in reverse. A quote that stands twice is one of the text. A backslash at the
end of a line drops the line end and an indent of the given size, if there is one. -/
def quoted? (quote : Char) (indent : Option Nat) (fuel : Nat) (acc : List Char) (cs : List Char) :
    Option (List Char × List Char) :=
  match fuel, skipReturn cs with
  | 0, _ => none
  | _, [] => none
  | fuel + 1, c :: rest =>
    if c = '\\' then
      match indent, skipReturn rest with
      | some n, '\n' :: more => quoted? quote indent fuel acc (dropIndent n more)
      | _, _ =>
        match escape? quote rest with
        | some (e, rest) => quoted? quote indent fuel (e :: acc) rest
        | none => none
    else if c = quote then
      match rest with
      | d :: more =>
        if d = quote then quoted? quote indent fuel (quote :: acc) more
        else some (acc.reverse, rest)
      | [] => some (acc.reverse, [])
    else if c = '\n' then none
    else quoted? quote indent fuel (c :: acc) rest

/-- The text after an opening quote that number signs stand before, up to a quote with as many
behind it; `seen` counts those behind the last quote. -/
def fenced? (signs : Nat) (seen : Option Nat) (acc : List Char) :
    List Char → Option (List Char × List Char)
  | [] => none
  | c :: cs =>
    match seen with
    | none => if c = '"' then fenced? signs (some 0) acc cs else fenced? signs none (c :: acc) cs
    | some n =>
      let held := List.replicate n '#' ++ '"' :: acc
      if c = '"' then fenced? signs (some 0) held cs
      else if c = '#' then
        if n + 1 = signs then some (acc.reverse, cs) else fenced? signs (some (n + 1)) acc cs
      else fenced? signs none (c :: held) cs

def backtick : Char := Char.ofNat 96

/-- A piece of a text in backticks, whether code follows it, and how far columns are behind after
it, where they are so far before it. A backslash before a dollar sign keeps it from opening code;
columns do not count this dollar sign. -/
def piece? (fuel : Nat) (behind : Nat) (acc : List Char) (cs : List Char) :
    Option (List Char × Bool × Nat × List Char) :=
  match fuel, skipReturn cs with
  | 0, _ => none
  | _, [] => none
  | fuel + 1, c :: rest =>
    if c = backtick then
      match rest with
      | d :: more =>
        if d = backtick then piece? fuel behind (backtick :: acc) more
        else some (acc.reverse, false, behind, rest)
      | [] => some (acc.reverse, false, behind, [])
    else
      match c, rest with
      | '$', '\x7b' :: _ => some (acc.reverse, true, behind, rest)
      | '\\', '$' :: more => piece? fuel (behind + 1) ('$' :: acc) more
      | _, _ => piece? fuel (if c = '\n' then 0 else behind) (c :: acc) rest

/-! ### Words and symbols -/

/-- The blanks between tokens. -/
def isGap (c : Char) : Bool :=
  c == ' ' || c == '\t' || c == '\n' || c == '\r' || c == Char.ofNat 12

def isNameStart (c : Char) : Bool := isAsciiLetter c || c == '_'

def isNameChar (c : Char) : Bool := isAsciiLetter c || isAsciiDigit c || c == '_'

/-- The words that are no names. -/
def fixedWords : List String :=
  ["true", "false", "let", "const", "if", "else", "switch", "do", "while", "until", "loop", "for",
   "in", "fn", "private", "continue", "break", "return", "throw", "try", "catch", "import",
   "export", "as",
   "this", "print", "debug", "type_of", "eval", "Fn", "call", "curry", "is_shared", "is_def_var",
   "is_def_fn",
   "public", "protected", "super", "new", "use", "module", "package", "var", "static", "shared",
   "with", "is", "goto", "match", "case", "default", "void", "null", "nil", "spawn", "thread", "go",
   "sync", "async", "await", "yield"]

/-- A word can be a name: it has a letter before any digit. -/
def isNameWord (w : List Char) : Bool :=
  w.all isNameChar &&
    match w.dropWhile (· == '_') with
    | c :: _ => isAsciiLetter c
    | [] => false

/-- The token of a word. -/
def ofWord? (w : List Char) : Option Token :=
  let s := String.ofList w
  if fixedWords.contains s then some (.word s)
  else if s = "_" then some (.symbol s)
  else if isNameWord w then some (.name s)
  else none

/-- The symbols of more than one character, longer ones first. Some only keep other symbols
apart and start nothing. -/
def longSymbols : List String :=
  ["===", "!==", "**=", "<<=", ">>=", "..=", "...", "::<",
   "#\x7b", "()", "+=", "++", "-=", "->", "--", "*=", "**", "*)", "/=", "..", "=>", "==", "?.",
   "??", "?[", "::", ":=", ":;", "<=", "<-", "<<", "<|", ">=", ">>", "!=", "!.", "||", "|=", "|>",
   "&&", "&=", "^=", "%=", "(*"]

def shortSymbols : List Char :=
  ['\x7b', '\x7d', '(', ')', '[', ']', '+', '-', '*', '/', ';', ',', '.', ':', '<', '>', '=', '!',
   '|', '&', '^', '%', '~', '@', '$', '#', '?']

/-- The symbol that stands here. -/
def symbol? (cs : List Char) : Option (String × List Char) :=
  match cs with
  | '!' :: 'i' :: 'n' :: rest =>
    if (rest.head?.map isNameChar).getD false then some ("!", 'i' :: 'n' :: rest)
    else some ("!in", rest)
  | c :: rest =>
    match longSymbols.find? fun s => s.toList.isPrefixOf cs with
    | some s => some (s, cs.drop s.length)
    | none => if shortSymbols.contains c then some (String.singleton c, rest) else none
  | [] => none

/-- The symbols after which a minus sign may belong to a numeral. -/
def openingSymbols : List String :=
  [";", ":", ",", "??", "..", "..=", "\x7b", "(", "[", "?[", "+", "+=", "-", "-=", "*", "*=", "/",
   "/=", "%", "%=", "**", "**=", "<<", "<<=", ">>", ">>=", "=", "==", "!=", "<", ">", "!", "<=",
   ">=", "|", "&", "&&", "&=", "||", "|=", "^", "^=", "!in"]

def openingWords : List String := ["if", "while", "until", "in", "return", "throw"]

/-- A minus sign after this token may belong to a numeral. -/
def opensSigned : Token → Bool
  | .symbol s => openingSymbols.contains s
  | .word s => openingWords.contains s
  | _ => false

/-! ### Scanning -/

/-- Drop a block comment, of which `depth` levels are open. -/
def dropComment : Nat → List Char → List Char
  | 0, cs => cs
  | _, [] => []
  | depth, '/' :: '*' :: cs => dropComment (depth + 1) cs
  | depth + 1, '*' :: '/' :: cs => dropComment depth cs
  | depth, _ :: cs => dropComment depth cs

/-- How braces stand: for each block of code inside a text, how many are open in it. -/
abbrev Braces := List Nat

/-- The token of a text within the limit on its length; zero is no limit. -/
def ofText? (limit : Nat) (make : String → Token) (cs : List Char) : Option Token :=
  let s := String.ofList cs
  if limit == 0 || s.utf8ByteSize ≤ limit then some (make s) else none

/-- How places differ from those of a plain count of characters and line ends. -/
structure Drift where
  /-- The lines that something else than a line end started. -/
  lines : Nat := 0
  /-- How far columns are behind, and on which line of the plain count. -/
  behind : Nat := 0
  line : Nat := 0

/-- How far columns are behind at a place of the plain count. -/
def Drift.behindAt (d : Drift) (p : Position) : Nat := if p.line = d.line then d.behind else 0

/-- The place that a place of the plain count stands for. -/
def Drift.apply (d : Drift) (p : Position) : Position :=
  ⟨p.line + d.lines, p.column - d.behindAt p⟩

/-- A new line starts at a place of the plain count. -/
def Drift.newLine (d : Drift) (p : Position) : Drift :=
  { lines := d.lines + 1, behind := p.column - 1, line := p.line }

/-- What scanning goes by: the limit on the length of texts and the places of a plain count. -/
structure Scanner where
  limit : Nat
  places : Array Position

/-- The place in the plain count where the text still to be scanned starts. -/
def Scanner.place (s : Scanner) (cs : List Char) : Position :=
  (s.places[s.places.size - 1 - cs.length]?).getD .start

/-- What scanning keeps in mind. -/
structure ScanState where
  braces : Braces := []
  drift : Drift := {}
  /-- A minus sign may belong to a numeral. -/
  signed : Bool := true

/-- The piece of a text in backticks that starts here. -/
def piece (s : Scanner) (st : ScanState) (cs : List Char) :
    Option (Token × ScanState × List Char) := do
  let behind := st.drift.behindAt (s.place cs)
  let (text, code, behind, rest) ← piece? (cs.length + 1) behind [] cs
  let st := { st with drift := { st.drift with behind, line := (s.place rest).line } }
  if code then return (← ofText? s.limit .segment text, { st with braces := 0 :: st.braces }, rest)
  else return (← ofText? s.limit .string text, st, rest)

/-- The first piece of a text in backticks. A line end in front is no part of it; a lone carriage
return there starts a line too. -/
def firstPiece (s : Scanner) (st : ScanState) (cs : List Char) :
    Option (Token × ScanState × List Char) :=
  match cs with
  | '\r' :: '\n' :: cs => piece s st cs
  | '\r' :: cs => piece s { st with drift := st.drift.newLine (s.place cs) } cs
  | '\n' :: cs => piece s st cs
  | cs => piece s st cs

/-- The token that starts at a character which is no blank. -/
def next? (s : Scanner) (st : ScanState) (cs : List Char) :
    Option (Token × ScanState × List Char) :=
  match cs with
  | [] => none
  | c :: rest =>
    if isAsciiDigit c then (number? false cs).map fun (t, rest) => (t, st, rest)
    else if c = '-' ∧ st.signed ∧ (rest.head?.map isAsciiDigit).getD false then
      (number? true rest).map fun (t, rest) => (t, st, rest)
    else if isNameStart c then
      (ofWord? (cs.takeWhile isNameChar)).map fun t => (t, st, cs.dropWhile isNameChar)
    else if c = '"' then do
      let column := (st.drift.apply (s.place cs)).column
      let (text, rest) ← quoted? '"' (some column) cs.length [] rest
      return (← ofText? s.limit .string text, st, rest)
    else if c = '\'' then
      if rest.head? = some '\'' then none
      else
        match quoted? '\'' none cs.length [] rest with
        | some ([ch], rest) => some (.char ch, st, rest)
        | _ => none
    else if c = backtick then firstPiece s st rest
    else if c = '#' ∧ (rest.head? = some '"' ∨ rest.head? = some '#') then
      match cs.dropWhile (· == '#') with
      | '"' :: rest => do
        let (text, rest) ← fenced? (cs.takeWhile (· == '#')).length none [] rest
        return (← ofText? s.limit .string text, st, rest)
      | _ => none
    else do
      let (text, rest) ← symbol? cs
      match st.braces with
      | [] => return (.symbol text, st, rest)
      | n :: outer =>
        let n :=
          if text = "\x7b" ∨ text = "#\x7b" then n + 1 else if text = "\x7d" then n - 1 else n
        return (.symbol text, { st with braces := n :: outer }, rest)

/-- What follows a comment up to the end of its line. A lone carriage return ends the line too. -/
def afterLine (s : Scanner) (d : Drift) (cs : List Char) : Drift × List Char :=
  match cs.dropWhile fun c => c != '\n' && c != '\r' with
  | '\r' :: '\n' :: rest => (d, rest)
  | '\r' :: rest => (d.newLine (s.place rest), rest)
  | rest => (d, rest)

/-- The tokens of a text. After the brace that closes a block inside a text, the text goes on. -/
def scanFrom? (s : Scanner) (fuel : Nat) (st : ScanState) (cs : List Char) : Option (List Lexeme) :=
  match fuel with
  | 0 => none
  | fuel + 1 =>
    let here (d : Drift) (cs : List Char) : Position := d.apply (s.place cs)
    match cs with
    | [] => some []
    | '/' :: '/' :: cs =>
      let (drift, rest) := afterLine s st.drift cs
      scanFrom? s fuel { st with drift } rest
    | '/' :: '*' :: cs => scanFrom? s fuel st (dropComment 1 cs)
    | c :: rest =>
      if isGap c then scanFrom? s fuel st rest
      else
        match next? s st cs with
        | none => none
        | some (t, st', rest) =>
          let lexeme : Lexeme := ⟨t, here st.drift cs⟩
          match t, st'.braces with
          | .symbol "\x7d", 0 :: outer =>
            match piece s { st' with braces := outer } rest with
            | none => none
            | some (text, st'', more) =>
              (scanFrom? s fuel { st'' with signed := text.opensSigned } more).map fun ts =>
                lexeme :: ⟨text, here st'.drift rest⟩ :: ts
          | _, _ => (scanFrom? s fuel { st' with signed := t.opensSigned } rest).map (lexeme :: ·)

/-- The tokens of a source; none if it is not made of tokens. -/
def scan? (limit : Nat) (text : String) : Option (List Lexeme) :=
  let cs := text.toList
  scanFrom? { limit, places := Position.table cs } (cs.length + 1) {} cs

end Token
end ReactiveTree.Snippet
