/-
# Templates of snippets

A template is the body of a snippet with placeholders: names in double braces. Rendering
replaces the placeholders of the parameters one after another; values are neither quoted nor
escaped, and a placeholder without a parameter stays.

Key definitions: `Template`, `Template.render`, `Template.catalogue`, `Template.build?`.
-/
namespace ReactiveTree

structure Template where
  key : String
  label : String
  params : List String
  body : String
deriving Repr, DecidableEq

/-- What the snippet of a template is for. -/
inductive Purpose where
  | expression
  | watcher
  | validation
deriving Repr, DecidableEq

namespace Template

/-- Replace every occurrence of a text that is not empty, from the left; `skip` characters
belong to the occurrence before. -/
def replaceFrom (old new : List Char) : Nat → List Char → List Char
  | _, [] => []
  | skip + 1, _ :: cs => replaceFrom old new skip cs
  | 0, c :: cs =>
    if old.isPrefixOf (c :: cs) then new ++ replaceFrom old new (old.length - 1) cs
    else c :: replaceFrom old new 0 cs

/-- The placeholder of a parameter. -/
def placeholder (name : String) : List Char :=
  '\x7b' :: '\x7b' :: name.toList ++ ['\x7d', '\x7d']

/-- The body with the values of parameters. -/
def render (t : Template) (params : List (String × String)) : String :=
  String.ofList (params.foldl
    (fun body (name, value) => replaceFrom (placeholder name) value.toList 0 body) t.body.toList)

def expressions : List Template :=
  [⟨"sum", "Sum", ["a", "b"], "get('\x7b\x7ba\x7d\x7d') + get('\x7b\x7bb\x7d\x7d')"⟩,
   ⟨"difference", "Difference", ["a", "b"], "get('\x7b\x7ba\x7d\x7d') - get('\x7b\x7bb\x7d\x7d')"⟩,
   ⟨"product", "Product", ["a", "b"], "get('\x7b\x7ba\x7d\x7d') * get('\x7b\x7bb\x7d\x7d')"⟩,
   ⟨"ratio", "Ratio", ["a", "b"],
    "if number(get('\x7b\x7bb\x7d\x7d')) == 0.0 \x7b 0.0 \x7d else \x7b " ++
    "number(get('\x7b\x7ba\x7d\x7d')) / number(get('\x7b\x7bb\x7d\x7d')) \x7d"⟩,
   ⟨"concat", "Join Text", ["a", "b", "separator"],
    "text(get('\x7b\x7ba\x7d\x7d')) + '\x7b\x7bseparator\x7d\x7d' + " ++
    "text(get('\x7b\x7bb\x7d\x7d'))"⟩,
   ⟨"conditional", "If / Else", ["condition", "then", "otherwise"],
    "if get('\x7b\x7bcondition\x7d\x7d') \x7b \x7b\x7bthen\x7d\x7d \x7d else " ++
    "\x7b \x7b\x7botherwise\x7d\x7d \x7d"⟩,
   ⟨"percentage", "Percentage", ["part", "total"],
    "if number(get('\x7b\x7btotal\x7d\x7d')) == 0.0 \x7b 0.0 \x7d else \x7b " ++
    "number(get('\x7b\x7bpart\x7d\x7d')) * 100.0 / number(get('\x7b\x7btotal\x7d\x7d')) \x7d"⟩,
   ⟨"clamp", "Clamp", ["source", "min", "max"],
    "clamp(get('\x7b\x7bsource\x7d\x7d'), \x7b\x7bmin\x7d\x7d, \x7b\x7bmax\x7d\x7d)"⟩]

def watchers : List Template :=
  [⟨"log_change", "Log Change", [],
    "log(\x60$\x7bpath\x7d: $\x7bprevious\x7d -> $\x7bvalue\x7d\x60)"⟩,
   ⟨"log_threshold", "Log Above Threshold", ["threshold"],
    "if number(value) > \x7b\x7bthreshold\x7d\x7d \x7b " ++
    "log(\x60$\x7bpath\x7d is above \x7b\x7bthreshold\x7d\x7d: $\x7bvalue\x7d\x60) \x7d"⟩,
   ⟨"notify", "Notify", ["message"], "print('\x7b\x7bmessage\x7d\x7d')"⟩]

def validations : List Template :=
  [⟨"in_range", "In Range", ["min", "max"],
    "if number(value) < \x7b\x7bmin\x7d\x7d || number(value) > \x7b\x7bmax\x7d\x7d \x7b " ++
    "'Must be between \x7b\x7bmin\x7d\x7d and \x7b\x7bmax\x7d\x7d' \x7d else \x7b true \x7d"⟩,
   ⟨"max_length", "Max Length", ["length"],
    "if text(value).len() > \x7b\x7blength\x7d\x7d \x7b " ++
    "'At most \x7b\x7blength\x7d\x7d characters' \x7d else \x7b true \x7d"⟩,
   ⟨"multiple_of", "Multiple Of", ["step"], "number(value) % \x7b\x7bstep\x7d\x7d == 0.0"⟩,
   ⟨"differs_from", "Differs From", ["other"],
    "if value == get('\x7b\x7bother\x7d\x7d') \x7b " ++
    "'Must differ from \x7b\x7bother\x7d\x7d' \x7d else \x7b true \x7d"⟩]

/-- The templates of a purpose. -/
def catalogue : Purpose → List Template
  | .expression => expressions
  | .watcher => watchers
  | .validation => validations

/-- Render the template of a key. -/
def build? (p : Purpose) (key : String) (params : List (String × String)) : Option String :=
  ((catalogue p).find? (·.key == key)).map (·.render params)

end Template
end ReactiveTree
