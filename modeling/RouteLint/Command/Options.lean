import RouteLint.Data.Table

/-!
# Options on a command line

Options start with a dash.  A long option starts with two, and its value follows an equals sign or
is the next argument, whatever that looks like.  Short options have one letter and can be run
together; the value of a short option is the rest of its argument, or the next one if there is no
rest.  Two dashes alone end the options, and one dash alone is no option.

## Main definitions

* `OptionName`, `OptionGrammar` — options, and how they are written.
* `Parsed` — what a command line says.
* `UsageError` — why it says nothing.
* `OptionGrammar.parse` — reading a command line.
-/

namespace RouteLint.Command

/-- The options there are. -/
inductive OptionName where
  /-- The configuration. -/
  | config
  /-- The type configuration. -/
  | typeConfig
  /-- The working directory. -/
  | directory
  /-- Whether to repair. -/
  | fix
  /-- The preset. -/
  | preset
  /-- Whether to tell more. -/
  | verbose
  /-- Whether to explain the command. -/
  | help
  deriving DecidableEq, Repr, Inhabited

/-- Whether an option has a value. -/
def OptionName.takesValue : OptionName → Bool
  | .config | .typeConfig | .directory | .preset => true
  | .fix | .verbose | .help => false

/-- How options are written. -/
structure OptionGrammar where
  /-- The long options, with their dashes. -/
  long : Table String OptionName
  /-- The short options, without their dash. -/
  short : Table Char OptionName
  /-- Whether options may follow other arguments. -/
  interspersed : Bool

/-- Why a command line makes no sense. -/
inductive UsageError where
  /-- There is no such option. -/
  | unknownOption (option : String)
  /-- An option lacks its value. -/
  | missingValue (option : String)
  /-- An option has a value and should have none. -/
  | unexpectedValue (option : String)
  /-- There is no such command. -/
  | unknownCommand (name : String)
  /-- There are arguments that the command does not take. -/
  | extraArguments (arguments : List String)
  deriving DecidableEq, Repr

/-- The wording of an error. -/
def UsageError.message : UsageError → String
  | .unknownOption o => "No such option: " ++ o
  | .missingValue o => "Option '" ++ o ++ "' requires an argument."
  | .unexpectedValue o => "Option '" ++ o ++ "' does not take a value."
  | .unknownCommand n => "No such command '" ++ n ++ "'."
  | .extraArguments as => "Got unexpected extra arguments (" ++ " ".intercalate as ++ ")"

/-- What a command line says: options in the order they are given, and other arguments. -/
structure Parsed where
  /-- The options given, each with its value if it has one. -/
  options : List (OptionName × Option String) := []
  /-- The other arguments. -/
  arguments : List String := []
  deriving DecidableEq, Repr, Inhabited

namespace Parsed

/-- Whether an option is given. -/
def has (p : Parsed) (name : OptionName) : Bool := p.options.any fun o => o.1 = name

/-- The value of an option; the last one counts. -/
def value? (p : Parsed) (name : OptionName) : Option String :=
  (p.options.reverse.find? fun o => o.1 = name).bind (·.2)

/-- Put options in front. -/
def withOptions (options : List (OptionName × Option String)) (p : Parsed) : Parsed :=
  { p with options := options ++ p.options }

/-- Put an argument in front. -/
def withArgument (argument : String) (p : Parsed) : Parsed :=
  { p with arguments := argument :: p.arguments }

end Parsed

/-- What one argument says. -/
inductive Reading where
  /-- It is no option. -/
  | argument
  /-- It gives options, the last of which may wait for its value. -/
  | options (given : List (OptionName × Option String)) (waiting : Option OptionName)
  deriving DecidableEq, Repr

namespace OptionGrammar

/-- Read a long option. -/
def readLong (g : OptionGrammar) (cs : List Char) : Except UsageError Reading :=
  let name := String.ofList (cs.takeWhile (· ≠ '='))
  match g.long.get? name, cs.dropWhile (· ≠ '=') with
  | none, _ => .error (.unknownOption name)
  | some o, [] => .ok (if o.takesValue then .options [] (some o) else .options [(o, none)] none)
  | some o, _ :: v =>
    if o.takesValue then .ok (.options [(o, some (String.ofList v))] none)
    else .error (.unexpectedValue name)

/-- Read short options that are run together, after some others. -/
def readShort (g : OptionGrammar) (before : List (OptionName × Option String)) :
    List Char → Except UsageError Reading
  | [] => .ok (.options before none)
  | c :: cs =>
    match g.short.get? c with
    | none => .error (.unknownOption (String.ofList ['-', c]))
    | some o =>
      if !o.takesValue then g.readShort (before ++ [(o, none)]) cs
      else if cs.isEmpty then .ok (.options before (some o))
      else .ok (.options (before ++ [(o, some (String.ofList cs))]) none)

/-- Read an argument. -/
def read (g : OptionGrammar) (argument : String) : Except UsageError Reading :=
  match argument.toList with
  | '-' :: '-' :: cs => g.readLong ('-' :: '-' :: cs)
  | '-' :: c :: cs => g.readShort [] (c :: cs)
  | _ => .ok .argument

/-- Read a command line. -/
def parse (g : OptionGrammar) : List String → Except UsageError Parsed
  | [] => .ok {}
  | a :: rest =>
    if a = "--" then .ok { arguments := rest }
    else
      match g.read a with
      | .error e => .error e
      | .ok .argument =>
        if g.interspersed then (g.parse rest).map (Parsed.withArgument a)
        else .ok { arguments := a :: rest }
      | .ok (.options given none) => (g.parse rest).map (Parsed.withOptions given)
      | .ok (.options given (some o)) =>
        match rest with
        | [] => .error (.missingValue a)
        | v :: rest => (g.parse rest).map (Parsed.withOptions (given ++ [(o, some v)]))

end OptionGrammar

end RouteLint.Command
