import ReactiveTree.Toml.Basic
import ReactiveTree.Decimal.Reading
import ReactiveTree.Timestamp
import ReactiveTree.Word64

/-!
# Reading TOML

A document is read line by line: an entry, a heading or a repeated heading, each with white
space around it and a comment after it. A text that breaks a rule anywhere is no document.

Key definitions: `Toml.scanValue`, `Toml.scanKey`, `Toml.read?`.
-/
namespace ReactiveTree.Toml

open Text (isAsciiDigit hexDigit? ofHexDigits?)

/-! ### White space and comments -/

def isSpace (c : Char) : Bool := c == ' ' || c == '\t'

def skipSpace (cs : List Char) : List Char := cs.dropWhile isSpace

/-- A character that may stand in a comment or a text: a tab, or one that prints. -/
def isPrintable (c : Char) : Bool := c == '\t' || (0x20 ≤ c.toNat && c.toNat != 0x7f)

/-- The text after an end of line, if one stands here. -/
def newline? : List Char → Option (List Char)
  | '\n' :: cs => some cs
  | '\r' :: '\n' :: cs => some cs
  | _ => none

/-- Skip a comment up to the end of its line. -/
def skipComment : List Char → List Char
  | '#' :: cs => cs.dropWhile isPrintable
  | cs => cs

/-- What follows a line whose text has been taken: white space and a comment may come before its
end. -/
def endLine? (cs : List Char) : Option (List Char) :=
  match skipComment (skipSpace cs) with
  | [] => some []
  | cs => newline? cs

/-- Skip white space and ends of lines. -/
def skipLines (fuel : Nat) (cs : List Char) : List Char :=
  match fuel with
  | 0 => cs
  | fuel + 1 =>
    let cs := skipSpace cs
    match newline? cs with
    | some rest => skipLines fuel rest
    | none => cs

/-- Skip white space, ends of lines and comments, as between the items of an array. -/
def skipAll (fuel : Nat) (cs : List Char) : List Char :=
  match fuel with
  | 0 => cs
  | fuel + 1 =>
    let cs := skipComment (skipSpace cs)
    match newline? cs with
    | some rest => skipAll fuel rest
    | none => cs

/-! ### Texts -/

/-- The character of an escape, whose backslash has been taken. -/
def scanEscape : List Char → Option (Char × List Char)
  | 'b' :: cs => some (Char.ofNat 8, cs)
  | 't' :: cs => some ('\t', cs)
  | 'n' :: cs => some ('\n', cs)
  | 'f' :: cs => some (Char.ofNat 12, cs)
  | 'r' :: cs => some ('\r', cs)
  | '"' :: cs => some ('"', cs)
  | '\\' :: cs => some ('\\', cs)
  | 'u' :: cs => ofCode 4 cs
  | 'U' :: cs => ofCode 8 cs
  | _ => none
where
  /-- The character whose code has so many hexadecimal digits. -/
  ofCode (width : Nat) (cs : List Char) : Option (Char × List Char) := do
    let n ← if (cs.take width).length = width then ofHexDigits? (cs.take width) else none
    if n.isValidChar then some (Char.ofNat n, cs.drop width) else none

/-- A text between quotes on one line, after its opening quote; only one between double quotes
has escapes. -/
def scanLine (quote : Char) (fuel : Nat) (acc : List Char) (cs : List Char) :
    Option (String × List Char) :=
  match fuel, cs with
  | 0, _ => none
  | _, [] => none
  | fuel + 1, c :: rest =>
    if c = quote then some (String.ofList acc.reverse, rest)
    else if c = '\\' ∧ quote = '"' then
      match scanEscape rest with
      | some (ch, rest) => scanLine quote fuel (ch :: acc) rest
      | none => none
    else if isPrintable c then scanLine quote fuel (c :: acc) rest
    else none

/-- A text between three quotes on either side, after the opening ones. One or two quotes may
stand in it anywhere, also at its end; a backslash at the end of a line takes the white space
after it away. -/
def scanBlock (quote : Char) (fuel : Nat) (acc : List Char) (cs : List Char) :
    Option (String × List Char) :=
  match fuel with
  | 0 => none
  | fuel + 1 =>
    match newline? cs with
    | some rest => scanBlock quote fuel ('\n' :: acc) rest
    | none =>
      match cs with
      | [] => none
      | c :: rest =>
        if c = quote then
          let n := (cs.takeWhile (· == quote)).length
          if n < 3 then scanBlock quote fuel (List.replicate n quote ++ acc) (cs.drop n)
          else
            let extra := min (n - 3) 2
            some (String.ofList (List.replicate extra quote ++ acc).reverse, cs.drop (extra + 3))
        else if c = '\\' ∧ quote = '"' then
          match newline? (skipSpace rest) with
          | some more => scanBlock quote fuel acc (skipLines (more.length + 1) more)
          | none =>
            match scanEscape rest with
            | some (ch, rest) => scanBlock quote fuel (ch :: acc) rest
            | none => none
        else if isPrintable c then scanBlock quote fuel (c :: acc) rest
        else none

/-- A text, whose first quote has been taken. -/
def scanText (quote : Char) (cs : List Char) : Option (String × List Char) :=
  match cs with
  | a :: b :: rest =>
    if a = quote ∧ b = quote then
      scanBlock quote (rest.length + 1) [] ((newline? rest).getD rest)
    else scanLine quote (cs.length + 1) [] cs
  | _ => scanLine quote (cs.length + 1) [] cs

/-! ### Keys -/

def isBare (c : Char) : Bool := c.isAlphanum || c == '-' || c == '_'

/-- One part of a key. -/
def scanPart : List Char → Option (String × List Char)
  | [] => none
  | c :: rest =>
    if c = '"' ∨ c = '\'' then scanLine c (rest.length + 1) [] rest
    else
      let (k, rest) := (c :: rest).span isBare
      if k.isEmpty then none else some (String.ofList k, rest)

/-- A key has fewer parts than this, and values nest less deeply. -/
def maxDepth : Nat := 80

/-- The parts of a key between points, with the white space around them. -/
def scanParts (fuel : Nat) (acc : List String) (cs : List Char) :
    Option (List String × List Char) :=
  match fuel with
  | 0 => none
  | fuel + 1 =>
    match scanPart (skipSpace cs) with
    | none => none
    | some (k, rest) =>
      match skipSpace rest with
      | '.' :: rest => scanParts fuel (k :: acc) rest
      | rest => some ((k :: acc).reverse, rest)

def scanKey (cs : List Char) : Option (List String × List Char) := scanParts (maxDepth - 1) [] cs

/-! ### Numbers -/

/-- Digits with single underscores between them. -/
def scanDigits (isDigit : Char → Bool) (cs : List Char) : Option (List Char × List Char) :=
  let (run, rest) := cs.span fun c => isDigit c || c == '_'
  let pieces := run.splitOn '_'
  if pieces.any List.isEmpty then none else some (pieces.flatten, rest)

/-- The whole part of a number: a zero, or digits that do not start with one. -/
def scanWhole : List Char → Option (List Char × List Char)
  | '0' :: cs => some (['0'], cs)
  | cs => scanDigits isAsciiDigit cs

/-- The digits after a point, which must be there if the point is. -/
def scanFraction : List Char → Option (List Char × List Char)
  | '.' :: cs => scanDigits isAsciiDigit cs
  | cs => some ([], cs)

/-- An exponent, if one stands here. -/
def scanExponent : List Char → Option (Option Int × List Char)
  | c :: cs =>
    if c = 'e' ∨ c = 'E' then
      let (negative, ds) := Decimal.takeSign cs
      (scanDigits isAsciiDigit ds).map fun (ds, rest) =>
        let n : Int := Decimal.ofDigits ds
        (some (if negative then -n else n), rest)
    else some (none, c :: cs)
  | [] => some (none, [])

/-- An integer must fit 64 bits, a fraction must not exceed all doubles. -/
def ofNumeral (negative : Bool) (whole fraction : List Char) (exponent : Option Int) :
    Option Toml :=
  match fraction, exponent with
  | [], none =>
    let n : Int := Decimal.ofDigits whole
    let n := if negative then -n else n
    if Word64.inRange n then some (.int n) else none
  | _, _ =>
    let x := Decimal.ofParts whole fraction (exponent.getD 0)
    if negative then some (.float (-x)) else if x.isInf then none else some (.float x)

/-- A number in base ten, or one of the words for what no digits write. -/
def scanDecimal (cs : List Char) : Option (Toml × List Char) :=
  match Decimal.takeSign cs with
  | (negative, 'i' :: 'n' :: 'f' :: rest) =>
    some (.float (if negative then -Decimal.infinity else Decimal.infinity), rest)
  | (_, 'n' :: 'a' :: 'n' :: rest) => some (.float (0.0 / 0.0), rest)
  | (negative, body) => do
    let (whole, rest) ← scanWhole body
    let (fraction, rest) ← scanFraction rest
    let (exponent, rest) ← scanExponent rest
    return (← ofNumeral negative whole fraction exponent, rest)

/-- An integer in another base, whose letter has been taken. -/
def scanBase (base : Nat) (cs : List Char) : Option (Toml × List Char) := do
  let isDigit (c : Char) : Bool := (hexDigit? c).any (· < base)
  let (ds, rest) ← scanDigits isDigit cs
  let n := ds.foldl (fun n c => base * n + (hexDigit? c).getD 0) 0
  if Word64.inRange n then return (.int n, rest) else none

def scanNumber : List Char → Option (Toml × List Char)
  | '0' :: 'x' :: cs => scanBase 16 cs
  | '0' :: 'o' :: cs => scanBase 8 cs
  | '0' :: 'b' :: cs => scanBase 2 cs
  | cs => scanDecimal cs

/-! ### Dates and times -/

/-- A number of so many digits. -/
def scanFixed (width : Nat) (cs : List Char) : Option (Nat × List Char) :=
  let ds := cs.take width
  if ds.length = width ∧ ds.all isAsciiDigit then some (Decimal.ofDigits ds, cs.drop width)
  else none

/-- The text after a character that must stand here. -/
def after? (c : Char) : List Char → Option (List Char)
  | c' :: cs => if c' = c then some cs else none
  | [] => none

/-- Skip a date of the calendar. -/
def skipDate? (cs : List Char) : Option (List Char) := do
  let (year, cs) ← scanFixed 4 cs
  let (month, cs) ← scanFixed 2 (← after? '-' cs)
  let (day, cs) ← scanFixed 2 (← after? '-' cs)
  if Date.isValid ⟨year, month, day⟩ then some cs else none

/-- Skip a time of the day, which may have a leap second. -/
def skipClock? (cs : List Char) : Option (List Char) := do
  let (hour, cs) ← scanFixed 2 cs
  let (minute, cs) ← scanFixed 2 (← after? ':' cs)
  let (second, cs) ← scanFixed 2 (← after? ':' cs)
  if 24 ≤ hour ∨ 60 ≤ minute ∨ 61 ≤ second then none
  else
    match cs with
    | '.' :: c :: rest => if isAsciiDigit c then some (rest.dropWhile isAsciiDigit) else none
    | '.' :: [] => none
    | _ => some cs

/-- Skip an offset from universal time, if one stands here. -/
def skipOffset? (cs : List Char) : Option (List Char) :=
  match cs with
  | c :: rest =>
    if c = 'Z' ∨ c = 'z' then some rest
    else if c = '+' ∨ c = '-' then do
      let (hour, cs) ← scanFixed 2 rest
      let (minute, cs) ← scanFixed 2 (← after? ':' cs)
      if 24 ≤ hour ∨ 60 ≤ minute then none else some cs
    else some cs
  | [] => some []

/-- Skip a date with the time after it, if there is one. -/
def skipDateTime? (cs : List Char) : Option (List Char) := do
  let rest ← skipDate? cs
  match rest with
  | c :: more =>
    if c = 'T' ∨ c = 't' ∨ c = ' ' then
      match skipClock? more with
      | some rest => skipOffset? rest
      | none => some rest
    else some rest
  | [] => some rest

/-- A date, a time of the day or both. -/
def scanTime (cs : List Char) : Option (Toml × List Char) := do
  let rest ← skipDateTime? cs <|> skipClock? cs
  return (.time (String.ofList (cs.take (cs.length - rest.length))), rest)

/-! ### Values -/

/-- A value that holds no other. -/
def scanPlain : List Char → Option (Toml × List Char)
  | [] => none
  | '"' :: cs => (scanText '"' cs).map fun (s, rest) => (.text s, rest)
  | '\'' :: cs => (scanText '\'' cs).map fun (s, rest) => (.text s, rest)
  | 't' :: 'r' :: 'u' :: 'e' :: cs => some (.bool true, cs)
  | 'f' :: 'a' :: 'l' :: 's' :: 'e' :: cs => some (.bool false, cs)
  | cs => scanTime cs <|> scanNumber cs

mutual
/-- Read a value inside `level` arrays and tables. -/
def scanValue (fuel level : Nat) (cs : List Char) : Option (Toml × List Char) :=
  match fuel with
  | 0 => none
  | fuel + 1 =>
    match cs with
    | '[' :: rest => if maxDepth ≤ level + 1 then none else scanItems fuel (level + 1) [] rest
    | '\x7b' :: rest =>
      if maxDepth ≤ level + 1 then none
      else
        match skipSpace rest with
        | '\x7d' :: rest => some (.table .inline [], rest)
        | rest => scanMembers fuel (level + 1) [] rest
    | cs => scanPlain cs

/-- Read the items of an array up to its closing bracket; `acc` has those before, in reverse. -/
def scanItems (fuel level : Nat) (acc : List Toml) (cs : List Char) : Option (Toml × List Char) :=
  match fuel with
  | 0 => none
  | fuel + 1 =>
    match skipAll (cs.length + 1) cs with
    | ']' :: rest => some (.array acc.reverse, rest)
    | cs => do
      let (v, rest) ← scanValue fuel level cs
      match skipAll (rest.length + 1) rest with
      | ',' :: rest => scanItems fuel level (v :: acc) rest
      | ']' :: rest => some (.array (v :: acc).reverse, rest)
      | _ => none

/-- Read the entries of a table in braces up to the closing one. -/
def scanMembers (fuel level : Nat) (ms : Members) (cs : List Char) : Option (Toml × List Char) :=
  match fuel with
  | 0 => none
  | fuel + 1 => do
    let (key, rest) ← scanKey cs
    let (v, rest) ← scanValue fuel level (skipSpace (← after? '=' rest))
    let ms ← addEntry key v .inline ms
    match skipSpace rest with
    | ',' :: rest => scanMembers fuel level ms rest
    | '\x7d' :: rest => some (.table .inline ms, rest)
    | _ => none
end

/-! ### Documents -/

/-- A document as far as it has been read: its entries, and the heading that new ones come
under. -/
structure Draft where
  document : Members := []
  heading : List String := []

/-- Read a heading, whose first bracket has been taken. -/
def Draft.scanHeading (d : Draft) (cs : List Char) : Option (Draft × List Char) := do
  match cs with
  | '[' :: cs =>
    let (key, rest) ← scanKey cs
    let rest ← after? ']' (← after? ']' rest)
    return ({ document := ← addRepeated key d.document, heading := key }, rest)
  | cs =>
    let (key, rest) ← scanKey cs
    let rest ← after? ']' rest
    return ({ document := ← addSection key d.document, heading := key }, rest)

/-- Read a key and its value. -/
def Draft.scanEntry (d : Draft) (cs : List Char) : Option (Draft × List Char) := do
  let (key, rest) ← scanKey cs
  let (v, rest) ← scanValue (cs.length + 1) 0 (skipSpace (← after? '=' rest))
  return ({ d with document := ← addUnder d.heading key v d.document }, rest)

/-- Read lines up to the end of the text. -/
def Draft.scanLines (fuel : Nat) (d : Draft) (cs : List Char) : Option Members :=
  match fuel with
  | 0 => none
  | fuel + 1 =>
    match skipSpace cs with
    | [] => some d.document
    | cs => do
      let (d, rest) ←
        match cs with
        | '[' :: rest => d.scanHeading rest
        | '#' :: _ | '\n' :: _ | '\r' :: _ => some (d, cs)
        | cs => d.scanEntry cs
      Draft.scanLines fuel d (← endLine? rest)

/-- Read a document; a mark of the byte order may stand in front. -/
def read? (text : String) : Option Members :=
  let cs := match text.toList with
    | '\ufeff' :: cs => cs
    | cs => cs
  Draft.scanLines (cs.length + 1) {} cs

end ReactiveTree.Toml
