import ReactiveTree.Pattern.Sets
import ReactiveTree.Pattern.Size

/-!
# Reading patterns

The usual notation: sets in brackets with operators between them, groups with flags, repetitions
that may be lazy, anchors and escapes. Looking ahead or behind and references to groups are no
patterns. How greedy a repetition is does not matter for whether a text matches. Patterns that
nest too deeply are refused, and so are those that are too large.

Key definitions: `readRepetition`, `readOpening`, `readAlternatives`, `Pattern.read?`,
`Pattern.Fault`, `Pattern.ofText`.
-/
namespace ReactiveTree.Pattern

open Text (CharSet isBlank isAsciiDigit)
open Read

/-! ### Repetitions and groups -/

/-- A number with blanks around it. -/
def readCount : Read Nat := do
  let _ ← takeWhile isBlank
  let ds ← takeCounting isAsciiDigit
  let _ ← takeCounting isBlank
  let n := ds.foldl (fun n c => 10 * n + (c.toNat - 48)) 0
  require (!ds.isEmpty && n < 0x100000000)
  return n

/-- The bounds of a repetition, after its brace. -/
def readBounds : Read (Nat × Option Nat) := do
  skipIgnored
  let least ← readCount
  let most ← if ← take ',' then do
      skipIgnored
      if (← peek) == some '\x7d' then pure none else some <$> readCount
    else pure (some least)
  expect '\x7d'
  require (least ≤ most.getD least)
  return (least, most)

/-- The bounds of the repetition that stands here, if one does. A question mark that makes it lazy
belongs to it. -/
def readRepetition : Read (Option (Nat × Option Nat)) := do
  skipIgnored
  match ← peek with
  | some '*' => advance; discard (take '?'); return some (0, none)
  | some '+' => advance; discard (take '?'); return some (1, none)
  | some '?' => advance; discard (take '?'); return some (0, some 1)
  | some '\x7b' =>
    advance
    let bounds ← readBounds
    skipIgnored
    discard (take '?')
    return some bounds
  | _ => return none

/-- The repetitions of a part. -/
def readRepetitions (fuel : Nat) (p : Nested Pattern) : Read (Nested Pattern) :=
  match fuel with
  | 0 => refuse
  | fuel + 1 => do
    match ← readRepetition with
    | some (least, most) =>
      let q : Nested Pattern := { p with value := .repeated p.value least most }
      readRepetitions fuel q.deeper
    | none => return p

/-- Set a flag by its letter. -/
def Flags.set? (f : Flags) (on : Bool) (c : Char) : Option Flags :=
  if c = 'i' then some { f with ignoreCase := on }
  else if c = 'm' then some { f with multiLine := on }
  else if c = 's' then some { f with dotAll := on }
  else if c = 'U' then some f
  else if c = 'u' then some { f with wide := on }
  else if c = 'x' then some { f with verbose := on }
  else if c = 'R' then some { f with anyLine := on }
  else none

/-- The flags of a group, up to the colon or the parenthesis; true if a colon ends them. -/
def readFlags (fuel : Nat) (f : Flags) (on : Bool) (seen : List Char) : Read (Flags × Bool) :=
  match fuel with
  | 0 => refuse
  | fuel + 1 => do
    match ← peek with
    | none => refuse
    | some c =>
      advance
      if c = ':' || c = ')' then
        if seen.head? == some '-' then refuse
        else if c = ')' && seen.isEmpty then refuse
        else return (f, c = ':')
      else if seen.contains c then refuse
      else if c = '-' then readFlags fuel f false (c :: seen)
      else
        match f.set? on c with
        | some f => readFlags fuel f on (c :: seen)
        | none => refuse

/-- The name of a group up to its closing bracket; every name stands once. -/
def readName : Read Unit := do
  let name ← takeWhile (· != '>')
  expect '>'
  let start (c : Char) : Bool := c == '_' || Text.isAlphabetic c
  let other (c : Char) : Bool := start c || Text.isNumeric c || c == '.' || c == '[' || c == ']'
  let valid : Bool := match name with
    | c :: cs => start c && cs.all other
    | [] => false
  let s ← get
  require (valid && !s.names.contains name)
  set { s with names := name :: s.names }

/-- What stands at the opening of a group. -/
inductive Opening where
  /-- A group and whether its match could be asked for. -/
  | group (f : Flags) (marked : Bool)
  /-- Flags for what follows in the group around. -/
  | flags (f : Flags)

/-- The opening of a group, after its parenthesis. -/
def readOpening : Read Opening := do
  skipIgnored
  let s ← get
  match s.rest with
  | '?' :: 'P' :: '<' :: rest =>
    set { s with rest }
    readName
    return .group s.flags true
  | '?' :: '<' :: rest =>
    set { s with rest }
    readName
    return .group s.flags true
  | '?' :: rest =>
    set { s with rest }
    let (f, isGroup) ← readFlags (rest.length + 1) s.flags true []
    return if isGroup then .group f false else .flags f
  | _ => return .group s.flags true

/-- Every character that a dot stands for. -/
def dotSet : Read CharSet := do
  let f := (← get).flags
  require f.wide
  if f.dotAll then return .full
  else if f.anyLine then return (CharSet.ofRanges [(10, 10), (13, 13)]).compl
  else return (CharSet.singleton '\n').compl

/-! ### Sequences and alternatives -/

/-- The parts of an alternative that were read. -/
structure SequenceState where
  value : Pattern := .empty
  count : Nat := 0
  /-- The levels that the deepest part nests. -/
  depth : Nat := 0

/-- A further part; flags count as one too. -/
def SequenceState.add (s : SequenceState) (p : Nested Pattern) : SequenceState :=
  { value := .seq s.value p.value, count := s.count + 1, depth := max s.depth p.depth }

/-- The parts as one; several nest by a level. -/
def SequenceState.whole (s : SequenceState) : Nested Pattern :=
  { value := s.value, depth := if s.count < 2 then s.depth else s.depth + 1 }

/-- The greatest number of levels that a pattern may nest. -/
def maxDepth : Nat := 250

mutual
/-- Alternatives, up to the end of a group or of the pattern; several nest by a level. -/
def readAlternatives (fuel : Nat) : Read (Nested Pattern) :=
  match fuel with
  | 0 => refuse
  | fuel + 1 => do
    let p ← readSequence fuel {}
    match ← peek with
    | some '|' =>
      let q ← readFurther fuel
      return { value := .either p.value q.value, depth := max p.depth q.depth + 1 }
    | _ => return p

/-- The alternatives after a bar. -/
def readFurther (fuel : Nat) : Read (Nested Pattern) :=
  match fuel with
  | 0 => refuse
  | fuel + 1 => do
    expect '|'
    let p ← readSequence fuel {}
    match ← peek with
    | some '|' =>
      let q ← readFurther fuel
      return { value := .either p.value q.value, depth := max p.depth q.depth }
    | _ => return p

/-- The parts of an alternative after those that were read. -/
def readSequence (fuel : Nat) (before : SequenceState) : Read (Nested Pattern) :=
  match fuel with
  | 0 => refuse
  | fuel + 1 => do
    skipIgnored
    match ← peek with
    | none => return before.whole
    | some '|' => return before.whole
    | some ')' => return before.whole
    | some '(' =>
      advance
      match ← readOpening with
      | .flags f =>
        modify fun s => { s with flags := f }
        require (← readRepetition).isNone
        readSequence fuel (before.add { value := .empty })
      | .group f marked =>
        let outer := (← get).flags
        modify fun s => { s with flags := f }
        let p ← readAlternatives fuel
        expect ')'
        modify fun s => { s with flags := outer }
        let p : Nested Pattern := { p with value := if marked then .group p.value else p.value }
        readSequence fuel (before.add (← readRepetitions fuel p.deeper))
    | some _ =>
      let p ← readPart fuel
      readSequence fuel (before.add (← readRepetitions fuel p))

/-- A part without repetitions that is no group. -/
def readPart (fuel : Nat) : Read (Nested Pattern) :=
  match fuel with
  | 0 => refuse
  | fuel + 1 => do
    let f := (← get).flags
    match ← peek with
    | none => refuse
    | some c =>
      require (c != '*' && c != '+' && c != '?' && c != '\x7b')
      advance
      if c = '\\' then
        match ← readEscape with
        | .char c => return { value := .chars (← closed (.singleton c)) }
        | .set s => return { value := .chars s }
        | .anchor a => return { value := .anchor a }
      else if c = '[' then
        let s ← readSet fuel
        return { value := .chars s.value, depth := s.depth }
      else if c = '.' then return { value := .chars (← dotSet) }
      else if c = '^' then
        return { value := .anchor <|
          if !f.multiLine then .textStart else if f.anyLine then .anyLineStart else .lineStart }
      else if c = '$' then
        return { value := .anchor <|
          if !f.multiLine then .textEnd else if f.anyLine then .anyLineEnd else .lineEnd }
      else return { value := .chars (← closed (.singleton c)) }
end

/-- The pattern that a text writes; none if it writes none. -/
def read? (text : String) : Option Pattern := do
  let cs := text.toList
  let (p, s) ← readAlternatives (4 * cs.length + 8) { rest := cs }
  if s.rest.isEmpty && p.depth ≤ maxDepth then some p.value else none

/-- Why a text is no pattern that can be used. -/
inductive Fault where
  | malformed
  | tooLarge
deriving Repr, DecidableEq

/-- The greatest size of a pattern in bytes. -/
def maxSize : Nat := 10485760

def Fault.message : Fault → String
  | malformed => "regex parse error"
  | tooLarge => s!"Compiled regex exceeds size limit of {maxSize} bytes."

/-- The pattern that a text writes, unless it is too large. -/
def ofText (text : String) : Except Fault Pattern :=
  match read? text with
  | none => .error .malformed
  | some p => if p.size ≤ maxSize then .ok p else .error .tooLarge

end ReactiveTree.Pattern
