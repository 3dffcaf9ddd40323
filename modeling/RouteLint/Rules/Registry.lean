import RouteLint.Rules.Setting

/-!
# The registry of rules

The rules that are described, the presets that turn them on, and the handlers that check them.

## Main definitions

* `RuleMeta`, `registry`, `presets` — descriptions and presets.
* `RuleContext`, `RuleHandler` — what a rule is checked with, and how.
* `standardHandlers` — the handlers there are.
* `hasRule`, `availableRules` — the rules that are known.
-/

namespace RouteLint

/-- The description of a rule. -/
structure RuleMeta where
  /-- What it is about. -/
  description : String
  /-- The category it belongs to. -/
  category : Option String
  /-- Whether violations can be repaired. -/
  fixable : Bool
  /-- More about it. -/
  docs : Option String
  deriving DecidableEq, Repr, Inhabited

/-- The rule that the parameters of routes are promises. -/
def routeRule : String := "@gftdcojp/nextjs-require-promise-params"

/-- The described rules. -/
def registry : Table String RuleMeta :=
  [(routeRule,
    { description := "Route handler params must be typed as Promise<...> (Next.js 15+)"
      category := some "correctness"
      fixable := true
      docs := some
        ("Checks the second argument of exported GET/POST/PUT/DELETE/PATCH/HEAD/OPTIONS handlers. " ++
          "Options: pattern (glob of route files, default **/app/api/**/route.ts).") })]

/-- The settings of every preset. -/
def presets : Table String Validation.Entries :=
  ["recommended", "strict", "all"].map fun name =>
    (name, [(.ofString routeRule, .ofString "error")])

/-- The settings of a preset; none if there is no such preset. -/
def preset (name : String) : Validation.Entries := (presets.get? name).getD []

/-- What a rule is checked with. -/
structure RuleContext where
  /-- The working directory. -/
  directory : Path
  /-- The type configuration, if one is named. -/
  config : Option String
  /-- The rule's options. -/
  options : RuleOptions
  /-- Whether to repair. -/
  fix : Bool
  deriving Inhabited

/-- Whether to repair, by the options or anyway. -/
def RuleContext.fixEnabled (c : RuleContext) : Bool := c.fix || c.options.fix

/-- The check of a rule: a result, or the message of a failure. -/
abbrev RuleHandler := RuleContext → StateM Workspace (Except String RunResult)

/-- The handler of the rule about routes. -/
def routeHandler : RuleHandler := fun c =>
  .ok <$> checkRoutes Syntax.Module.parse
    { directory := c.directory
      config := c.config
      pattern := c.options.pattern.shown
      fix := c.fixEnabled }

/-- Handlers of rules by name. -/
abbrev Handlers := Table String RuleHandler

/-- The handlers there are. -/
def standardHandlers : Handlers := [(routeRule, routeHandler)]

/-- Whether a rule is described or has a handler. -/
def hasRule (handlers : Handlers) (name : String) : Bool :=
  registry.contains name || handlers.contains name

/-- Put a name into an ordered list, once. -/
def insertName (name : String) : List String → List String
  | [] => [name]
  | n :: ns =>
    if name = n then n :: ns
    else if name < n then name :: n :: ns
    else n :: insertName name ns

/-- The names of all rules that are described or have a handler, in order. -/
def availableRules (handlers : Handlers) : List String :=
  (registry.keys ++ handlers.keys).foldr insertName []

end RouteLint
