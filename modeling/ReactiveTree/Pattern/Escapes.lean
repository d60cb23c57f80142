import ReactiveTree.Pattern.Basic
import ReactiveTree.Pattern.Classes
import ReactiveTree.Pattern.ReadState

/-!
# Escapes

What a backslash introduces: a character by its code or by a letter, a class, or an anchor.
Where classes are limited to ASCII, nothing may match a part of a character, so that a class
beyond ASCII and the complement of a class are refused there.

Key definitions: `closed`, `negated`, `Escape`, `readEscape`.
-/
namespace ReactiveTree.Pattern

open Text (CharSet isBlank isAsciiDigit isAsciiLetter)
open Read

/-- Close a set under case where case does not count. -/
def closed (s : CharSet) : Read CharSet := do
  let f := (← get).flags
  if !f.ignoreCase then return s
  else return if f.wide then withCaseVariants s else withAsciiVariants s

/-- Everything but a set. -/
def negated (s : CharSet) : Read CharSet := do
  require (← get).flags.wide
  return s.compl

/-- A character that may stand after a backslash for itself. -/
def isEscapable (c : Char) : Bool :=
  Text.isAscii c && !isAsciiLetter c && !isAsciiDigit c && c != '<' && c != '>'

/-- The character of a code in hexadecimal digits. -/
def charOf? (digits : List Char) : Option Char := do
  let n ← Text.ofHexDigits? digits
  if n.isValidChar then some (Char.ofNat n) else none

/-- So many hexadecimal digits, with what does not count after each. -/
def readDigits : Nat → Read (List Char)
  | 0 => return []
  | n + 1 => do
    match ← peek with
    | some c =>
      require (Text.hexDigit? c).isSome
      advance
      skipIgnored
      return c :: (← readDigits n)
    | none => refuse

/-- The character of a hexadecimal escape, after its letter. Where classes are limited to ASCII,
two digits stand for a byte, and a byte beyond ASCII is only a part of a character. -/
def readHex (digits : Nat) : Read Char := do
  skipIgnored
  let inBraces ← take '\x7b'
  let ds ← if inBraces then do
      skipIgnored
      let ds ← takeCounting (· != '\x7d')
      expect '\x7d'
      pure ds
    else readDigits digits
  match charOf? ds with
  | some c =>
    let isByte : Bool := !inBraces && digits == 2 && !(← get).flags.wide
    require (!isByte || Text.isAscii c)
    return c
  | none => refuse

/-- The class of a name, after the letter before it. -/
def readNamed : Read CharSet := do
  require (← get).flags.wide
  skipIgnored
  let name ← if ← take '\x7b' then do
      skipIgnored
      let name ← takeCounting (· != '\x7d')
      expect '\x7d'
      pure (namedClass? name)
    else
      match ← peek with
      | some c => advance; pure (if c = '\\' then none else bareClass? (plainName [c]))
      | none => refuse
  match name with
  | some s => return s
  | none => refuse

/-- What an escape stands for. -/
inductive Escape where
  | char (c : Char)
  | set (s : CharSet)
  | anchor (a : Anchor)

/-- The letters that stand for a control character. -/
def controlOf? (c : Char) : Option Char :=
  if c = 'a' then some '\x07'
  else if c = 'f' then some '\x0c'
  else if c = 't' then some '\t'
  else if c = 'n' then some '\n'
  else if c = 'r' then some '\r'
  else if c = 'v' then some '\x0b'
  else none

/-- The kind of a word boundary that stands in braces, if one does. Braces that hold no name are
left: they are the bounds of a repetition. -/
def readBoundary (ascii : Bool) : Read Anchor := do
  let before ← get
  if !(← take '\x7b') then return .wordBoundary ascii
  skipIgnored
  let isNameChar (c : Char) : Bool := isAsciiLetter c || c == '-'
  match ← peek with
  | none => refuse
  | some c =>
    if !isNameChar c then
      set before
      return .wordBoundary ascii
    let name ← takeCounting isNameChar
    expect '\x7d'
    match String.ofList name with
    | "start" => return .wordStart ascii
    | "end" => return .wordEnd ascii
    | "start-half" => return .wordStartHalf ascii
    | "end-half" => return .wordEndHalf ascii
    | _ => refuse

/-- An escape, after its backslash. -/
def readEscape : Read Escape := do
  let ascii : Bool := !(← get).flags.wide
  match ← peek with
  | none => refuse
  | some c =>
    advance
    if isAsciiDigit c then refuse
    else if c = 'x' then return .char (← readHex 2)
    else if c = 'u' then return .char (← readHex 4)
    else if c = 'U' then return .char (← readHex 8)
    else if c = 'p' then return .set (← closed (← readNamed))
    else if c = 'P' then return .set (← negated (← closed (← readNamed)))
    else if c = 'A' then return .anchor .textStart
    else if c = 'z' then return .anchor .textEnd
    else if c = 'b' then return .anchor (← readBoundary ascii)
    else if c = 'B' then return .anchor (.noWordBoundary ascii)
    else if c = '<' then return .anchor (.wordStart ascii)
    else if c = '>' then return .anchor (.wordEnd ascii)
    else
      match letterClass? ascii c, letterClass? ascii c.toLower, controlOf? c with
      | some s, _, _ => return .set s
      | none, some s, _ => return .set (← negated s)
      | none, none, some d => return .char d
      | none, none, none => if isEscapable c then return .char c else refuse

end ReactiveTree.Pattern
