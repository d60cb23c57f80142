import ReactiveTree.Snippet.Limits
import ReactiveTree.Text.Quoted

/-!
# Settings

The limits of snippets and the number of passes over the expressions. Values that would stop
every evaluation are refused.

Key definitions: `Settings`, `Settings.check`.
-/
namespace ReactiveTree

structure Settings where
  limits : Snippet.Limits := {}
  /-- Full passes over the expressions before giving up. -/
  maxPasses : Nat := 16
deriving Repr, DecidableEq, Inhabited

/-- Why settings cannot be used. -/
inductive SettingsError where
  /-- The text is no settings document. -/
  | malformed
  /-- The file cannot be read. -/
  | unreadable (file cause : String)
  /-- The setting must not be zero. -/
  | zero (name : String)
deriving Repr, DecidableEq, Inhabited

namespace SettingsError

/-- The text of a failure. -/
def message (e : SettingsError) : String :=
  "Configuration error: " ++ match e with
    | malformed => "Failed to parse config: the text is no settings document"
    | unreadable file cause => "Failed to read config file " ++ Text.quoteName file ++ ": " ++ cause
    | zero name => name ++ " must be greater than 0"

end SettingsError

/-- Refuse settings under which nothing runs. -/
def Settings.check (s : Settings) : Except SettingsError Unit :=
  if s.limits.operations = 0 then .error (.zero "scripting.max_operations")
  else if s.limits.time = 0 then .error (.zero "scripting.timeout_ms")
  else if s.maxPasses = 0 then .error (.zero "evaluation.max_passes")
  else .ok ()

end ReactiveTree
