import ReactiveTree.CommandLine.Request

/-!
# Help texts

The help of the program lists its commands, the help of a command its operand and its options,
each with its description in a second column.

Key definitions: `Topic.text`.
-/
namespace ReactiveTree.CommandLine

def programName : String := "user-props"

def programAbout : String := "Evaluate reactive user-property trees"

def helpAbout : String := "Print this message or the help of the given subcommand(s)"

/-- A text with blanks after it. -/
def padTo (width : Nat) (s : String) : String :=
  s ++ String.ofList (List.replicate (width - s.length) ' ')

/-- A heading, and rows in two columns. -/
def listing (heading : String) (rows : List (String × String)) : String :=
  let width := (rows.map (·.1.length)).foldl max 0
  heading ++ ":\n" ++
    String.join (rows.map fun (a, b) => "  " ++ padTo width a ++ "  " ++ b ++ "\n")

def Switch.row (s : Switch) : String × String :=
  let letter := match s.letter with
    | some l => String.ofList ['-', l, ',', ' ']
    | none => "    "
  let value := match s.value with
    | some v => " <" ++ v ++ ">"
    | none => ""
  (letter ++ "--" ++ s.name ++ value, s.about)

def helpSwitch : Switch := { name := "help", letter := some 'h', about := "Print help" }

def usage (parts : List String) : String :=
  "Usage: " ++ " ".intercalate (programName :: parts) ++ "\n"

def Command.text (c : Command) : String :=
  let options := if c.switches.isEmpty then [] else ["[OPTIONS]"]
  let operand := "<" ++ c.operand.1 ++ ">"
  "\n".intercalate
    [c.about ++ "\n", usage (c.name :: options ++ [operand]),
      listing "Arguments" [(operand, c.operand.2)],
      listing "Options" ((c.switches ++ [helpSwitch]).map Switch.row)]

namespace Topic

/-- The help on a topic. -/
def text : Topic → String
  | command c => c.text
  | program =>
    "\n".intercalate
      [programAbout ++ "\n", usage ["<COMMAND>"],
        listing "Commands" (Command.all.map (fun c => (c.name, c.about)) ++ [("help", helpAbout)]),
        listing "Options" [helpSwitch.row]]
  | help =>
    "\n".intercalate
      [helpAbout ++ "\n", usage ["help", "[COMMAND]..."],
        listing "Arguments" [("[COMMAND]...", "Print help for the subcommand(s)")]]

end Topic
end ReactiveTree.CommandLine
