import ReactiveTree.CommandLine.Help
import ReactiveTree.Reaction.Pipeline
import ReactiveTree.Settings.Document
import ReactiveTree.Tree.Export
import ReactiveTree.Tree.FlatMap

/-!
# Answering a command line

A command reads files, writes files and prints one text. The first thing that goes wrong ends it:
what was written before stays, and nothing is printed but the failure with its causes.

Key definitions: `Host`, `Response`, `respond`.
-/
namespace ReactiveTree.CommandLine

open Reaction (Pipeline)
open Snippet (Note)

/-- What the commands ask of the world around them; a failure of it comes with its cause. -/
structure Host (m : Type → Type) where
  read : String → m (Except String String)
  write : String → String → m (Except String Unit)
  /-- There is something at a file name. -/
  contains : String → m Bool
  time : m Timestamp

/-- How the program ends. -/
structure Response where
  code : Nat := 0
  output : String := ""
  /-- The failure, and what caused it. -/
  failure : List String := []
  /-- The lines that snippets wrote. -/
  log : List Note := []
deriving Inhabited

variable {m : Type → Type} [Monad m] (h : Host m)

/-- A command: what it prints and what its snippets wrote, or a failure with its causes. -/
abbrev Action (m : Type → Type) (α : Type) := ExceptT (List String) m α

/-- What failed, with the name of the file. -/
def about (task file : String) : String := task ++ " " ++ Text.quoteName file

/-- Read a file. -/
def load (task file : String) : Action m String := do
  match ← (h.read file : m _) with
  | .ok text => return text
  | .error cause => throw [about task file, cause]

/-- Write a file. -/
def save (task file text : String) : Action m Unit := do
  match ← (h.write file text : m _) with
  | .ok () => return ()
  | .error cause => throw [about task file, cause]

/-- Read a tree, from a document with a version or a tree by itself. -/
def loadTree (file : String) : Action m Tree := do
  let text ← load h "Failed to read tree file" file
  match Tree.importDocument text with
  | .ok t => return t
  | .error .unversioned =>
    match Tree.ofText text with
    | .ok t => return t
    | .error fault => throw [about "Failed to parse tree" file, fault.word]
  | .error e => throw (about "Failed to import tree" file :: e.chain)

/-- Read the settings; those of no file are the defaults. -/
def loadSettings : Option String → Action m Settings
  | none => return {}
  | some file => do
    match ← (h.read file : m _) with
    | .error cause => throw [(SettingsError.unreadable file cause).message]
    | .ok text =>
      match Settings.ofText text with
      | .ok s => return s
      | .error e => throw [e.message]

/-- Read the snapshot of the last run, if there is one. -/
def loadSnapshot : Option String → Action m (Option Snapshot)
  | none => return none
  | some file => do
    if ← (h.contains file : m _) then
      let text ← load h "Failed to read snapshot" file
      match Snapshot.ofText text with
      | .ok s => return some s
      | .error fault => throw [about "Invalid snapshot" file, fault.word]
    else return none

/-- React to a tree, and keep the snapshot and the tree where that is asked for. -/
def evaluate (tree : String) (settings snapshot : Option String) (write : Bool) :
    Action m (String × List Note) := do
  let settings ← loadSettings h settings
  let t ← loadTree h tree
  let previous ← loadSnapshot h snapshot
  let start ← (h.time : m _)
  let (outcome, t, p) := (Pipeline.ofSettings settings).react t previous
  let stop ← (h.time : m _)
  if let some file := snapshot then
    save h "Failed to write snapshot" file outcome.snapshot.toWire.pretty
  if write then save h "Failed to write tree" tree (t.exportDocument stop.text)
  return ((outcome.toWire (stop.since start)).pretty ++ "\n", p.engine.log)

/-- Count the snippets of a tree, which must all be ready to run. -/
def check (tree : String) (settings : Option String) : Action m String := do
  let t ← loadTree h tree
  let settings ← loadSettings h settings
  match ((Pipeline.ofSettings settings).checkSnippets t).1 with
  | .ok n => return toString n ++ " snippets compile\n"
  | .error fault => throw fault.chain

/-- Show which expressions read which nodes. -/
def graph (tree : String) : Action m String := do
  let t ← loadTree h tree
  return (Graph.DependencyGraph.ofTree t).toWire.pretty ++ "\n"

/-- Make a tree document of a flat map. -/
def migrate (flat : String) (output : Option String) : Action m String := do
  let text ← load h "Failed to read legacy map" flat
  match FlatMap.ofText text with
  | .error fault => throw [about "Invalid legacy map" flat, fault.word]
  | .ok map =>
    let document := map.migrate.exportDocument (← (h.time : m _)).text
    match output with
    | none => return document ++ "\n"
    | some file =>
      save h "Failed to write tree" file document
      return ""

/-- Do what is asked for. -/
def Request.run : Request → Action m (String × List Note)
  | .evaluate tree settings snapshot write => CommandLine.evaluate h tree settings snapshot write
  | .check tree settings => return (← CommandLine.check h tree settings, [])
  | .graph tree => return (← CommandLine.graph h tree, [])
  | .migrate flat output => return (← CommandLine.migrate h flat output, [])
  | .help topic => return (topic.text, [])

/-- Answer the words of a command line. Words that make no request end the program with code 2, a
failure ends it with code 1. -/
def respond (words : List String) : m Response := do
  match Request.ofWords words with
  | none => return { code := 2 }
  | some request =>
    match ← (request.run h).run with
    | .ok (output, log) => return { output, log }
    | .error failure => return { code := 1, failure }

end ReactiveTree.CommandLine
