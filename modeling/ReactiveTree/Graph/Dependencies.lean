import ReactiveTree.Text.Blank
import ReactiveTree.Text.Words

/-!
# Paths that a source reads

The literal reads of a source are found in its text alone: the word `get`, a parenthesis, one
literal in single or double quotes without escapes, and the closing parenthesis, with blanks
between. Branches that never run count too.

Key definitions: `readHere?`, `readsFrom`, `dependencies`.
-/
namespace ReactiveTree.Graph

open Text (isBlank isWordChar)

/-- The body of a literal that a quote has opened, and the text after its closing quote. -/
def plainLiteral? (quote : Char) (cs : List Char) : Option (List Char × List Char) :=
  match cs.span fun c => c != quote && c != '\\' with
  | (body, c :: rest) => if c = quote then some (body, rest) else none
  | (_, []) => none

/-- The path of the read that starts here, and the text after it. -/
def readHere? : List Char → Option (List Char × List Char)
  | 'g' :: 'e' :: 't' :: cs =>
    match cs.dropWhile isBlank with
    | '(' :: cs =>
      match cs.dropWhile isBlank with
      | c :: cs =>
        if c = '\'' ∨ c = '"' then
          match plainLiteral? c cs with
          | some (path, cs) =>
            match cs.dropWhile isBlank with
            | ')' :: cs => some (path, cs)
            | _ => none
          | none => none
        else none
      | [] => none
    | _ => none
  | _ => none

/-- The paths of all reads from the left, none inside another. `skip` characters belong to the
read before, and `inWord` holds after a character of a word. -/
def readsFrom : Nat → Bool → List Char → List String
  | _, _, [] => []
  | skip + 1, _, _ :: cs => readsFrom skip false cs
  | 0, inWord, c :: cs =>
    match if inWord then none else readHere? (c :: cs) with
    | some (path, rest) => String.ofList path :: readsFrom (cs.length - rest.length) false cs
    | none => readsFrom 0 (isWordChar c) cs

/-- Keep the first of equal texts. -/
def distinct (seen : List String) : List String → List String
  | [] => []
  | x :: xs => if seen.contains x then distinct seen xs else x :: distinct (x :: seen) xs

/-- The paths that a source reads, in the order in which they first appear. -/
def dependencies (source : String) : List String :=
  distinct [] ((readsFrom 0 false source.toList).filter (· != ""))

end ReactiveTree.Graph
