import RouteLint.Command.Options

/-!
# What is asked for

Without a command, the configured rules are checked once.  The command `rules` lists the rules, and
the command `watch` checks again whenever a file changes.  An option that is not given may be set in
the environment instead; there an empty value counts as none.

## Main definitions

* `CheckOptions` — what rules are checked, and how.
* `Request` — what is asked for.
* `Request.read` — what a command line asks for.
-/

namespace RouteLint.Command

/-- What rules are checked, and how. -/
structure CheckOptions where
  /-- The configuration. -/
  config : String := "biome.json"
  /-- The type configuration. -/
  typeConfig : Option String := none
  /-- The working directory. -/
  directory : Option String := none
  /-- Whether to repair. -/
  fix : Bool := false
  /-- The preset. -/
  preset : Option String := none
  deriving DecidableEq, Repr, Inhabited

/-- What is asked for. -/
inductive Request where
  /-- An explanation. -/
  | help
  /-- A check. -/
  | check (options : CheckOptions) (verbose : Bool)
  /-- A list of the rules. -/
  | rules
  /-- A check whenever a file changes. -/
  | watch (options : CheckOptions) (verbose : Bool)
  deriving DecidableEq, Repr, Inhabited

/-- The environment: the values of variables. -/
abbrev Environment := String → Option String

/-- The value of a variable that is set and not empty. -/
def inEnvironment? (env : Environment) (name : String) : Option String :=
  (env name).filter fun v => v ≠ ""

/-- The long options that ask for an explanation. -/
def helpLong : Table String OptionName := [("--help", .help)]

/-- The short options that ask for an explanation. -/
def helpShort : Table Char OptionName := [('h', .help)]

/-- The long options of a check, whether done once or again and again. -/
def checkLong : Table String OptionName :=
  [("--config", .config), ("--tsconfig", .typeConfig), ("--cwd", .directory),
    ("--preset", .preset)] ++ helpLong

/-- The short options of a check, whether done once or again and again. -/
def checkShort : Table Char OptionName := [('c', .config), ('t', .typeConfig)] ++ helpShort

/-- The options without a command, or in front of one. -/
def mainGrammar : OptionGrammar where
  long := checkLong ++ [("--fix", .fix), ("--verbose", .verbose)]
  short := checkShort ++ [('v', .verbose)]
  interspersed := false

/-- The options of `rules`. -/
def rulesGrammar : OptionGrammar := ⟨helpLong, helpShort, true⟩

/-- The options of `watch`. -/
def watchGrammar : OptionGrammar := ⟨checkLong, checkShort, true⟩

namespace Request

/-- The options of a check. -/
def checkOptions (env : Environment) (p : Parsed) : CheckOptions where
  config := ((p.value? .config) <|> inEnvironment? env "BIOME_RULES_CONFIG").getD "biome.json"
  typeConfig := (p.value? .typeConfig) <|> inEnvironment? env "BIOME_RULES_TSCONFIG"
  directory := p.value? .directory
  fix := p.has .fix
  preset := p.value? .preset

/-- What the arguments of a command ask for: an explanation comes first, and arguments that the
command does not take come next. -/
def ofCommand (g : OptionGrammar) (arguments : List String) (request : Parsed → Request) :
    Except UsageError Request :=
  match g.parse arguments with
  | .error e => .error e
  | .ok p =>
    if p.has .help then .ok .help
    else if p.arguments.isEmpty then .ok (request p)
    else .error (.extraArguments p.arguments)

/-- What a command line asks for. -/
def read (env : Environment) (arguments : List String) : Except UsageError Request :=
  match mainGrammar.parse arguments with
  | .error e => .error e
  | .ok p =>
    if p.has .help then .ok .help
    else
      match p.arguments with
      | [] => .ok (.check (checkOptions env p) (p.has .verbose))
      | name :: rest =>
        if name = "rules" then ofCommand rulesGrammar rest fun _ => .rules
        else if name = "watch" then
          ofCommand watchGrammar rest fun q => .watch (checkOptions env q) (p.has .verbose)
        else .error (.unknownCommand name)

end Request

end RouteLint.Command
