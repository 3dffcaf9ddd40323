import RouteLint.Path

/-!
# Log entries

What is worth telling while the program works, apart from its results.

## Main definitions

* `Event` — the things that are told.
* `Event.level`, `Event.message` — how severe they are, and their wording.
-/

namespace RouteLint

/-- How severe an entry of the log is. -/
inductive Level where
  | info
  | warning
  | error
  deriving DecidableEq, Repr, Inhabited

/-- The name of a level. -/
def Level.name : Level → String
  | .info => "INFO"
  | .warning => "WARNING"
  | .error => "ERROR"

/-- Something told in the log. -/
inductive Event where
  /-- Some of a source file could not be read. -/
  | malformed (path : Path)
  /-- The parameters of a handler were repaired. -/
  | fixed (handler : String) (path : Path)
  /-- A file was written. -/
  | saved (path : Path)
  /-- A configuration could not be used. -/
  | configUnusable (path : String) (reason : String)
  /-- The setting of a rule makes no sense. -/
  | ruleIgnored (rule reason : String)
  /-- A rule is configured that nobody knows. -/
  | ruleUnknown (rule : String)
  /-- A rule broke down. -/
  | ruleFailed (rule : String)
  /-- A directory is being watched. -/
  | watching (directory : Path)
  /-- A directory is no longer watched. -/
  | stoppedWatching (directory : Path)
  /-- What follows a change broke down. -/
  | recheckFailed
  deriving DecidableEq, Repr

namespace Event

/-- How severe an event is. -/
def level : Event → Level
  | .malformed _ => .warning
  | .fixed _ _ => .info
  | .saved _ => .info
  | .configUnusable _ _ => .warning
  | .ruleIgnored _ _ => .warning
  | .ruleUnknown _ => .warning
  | .ruleFailed _ => .error
  | .watching _ => .info
  | .stoppedWatching _ => .info
  | .recheckFailed => .error

/-- The wording of an event. -/
def message : Event → String
  | .malformed p => "Syntax error in " ++ p.text ++ "; analysis continues on the recovered tree"
  | .fixed handler p => "Fixed " ++ handler ++ " params in " ++ p.text
  | .saved p => "Saved " ++ p.text
  | .configUnusable p reason => "Failed to load config from " ++ p ++ ": " ++ reason
  | .ruleIgnored rule reason => "Ignoring rule " ++ rule ++ ": " ++ reason
  | .ruleUnknown rule => "Unknown rule: " ++ rule
  | .ruleFailed rule => "Error running " ++ rule
  | .watching p => "Watching " ++ p.text
  | .stoppedWatching p => "Stopped watching " ++ p.text
  | .recheckFailed => "Re-check after file change failed"

end Event

end RouteLint
