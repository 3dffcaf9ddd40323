import RouteLint.Path
import RouteLint.Text.Blank
import RouteLint.Text.Case

/-!
# Languages

A file's language follows from the suffix of its name.  Two of the languages are TypeScript, with
and without embedded markup, and only files in those are analysed; JSON files can be loaded but
declare nothing.

## Main definitions

* `Language`, `Language.name` — the languages and their names.
* `Language.normalize` — the language a name or short name means.
* `Language.ofPath` — the language of a file.
* `Language.isSource` — whether a file can be analysed.
* `Language.moduleSuffixes`, `Language.indexFiles` — what an import may leave out.
-/

namespace RouteLint

/-- The languages files can be loaded in. -/
inductive Language where
  /-- JSON, with or without comments. -/
  | json
  /-- TypeScript with embedded markup. -/
  | tsx
  /-- TypeScript. -/
  | typescript
  deriving DecidableEq, Repr, Inhabited

namespace Language

/-- The name of a language. -/
def name : Language → String
  | .json => "json"
  | .tsx => "tsx"
  | .typescript => "typescript"

/-- Names and short names of languages. -/
def aliases : List (String × Language) :=
  [("json", .json), ("jsonc", .json), ("ts", .typescript), ("tsx", .tsx),
    ("typescript", .typescript)]

/-- The languages of file suffixes. -/
def suffixes : List (String × Language) :=
  [(".cts", .typescript), (".json", .json), (".jsonc", .json), (".mts", .typescript),
    (".ts", .typescript), (".tsx", .tsx)]

/-- Why no language is known. -/
inductive Unsupported where
  /-- A name that no language has. -/
  | language (name : String)
  /-- A suffix, in lower case, that belongs to no language. -/
  | extension (suffix : String)
  deriving DecidableEq, Repr

/-- The wording of an error. -/
def Unsupported.message : Unsupported → String
  | .language name => s!"Unsupported language '{name}'. Supported: ['json', 'tsx', 'typescript']"
  | .extension suffix => s!"Unsupported file extension: {suffix}"

/-- The language a name means, blanks around it and its case ignored. -/
def normalize (name : String) : Except Unsupported Language :=
  match aliases.lookup (Text.toLower (Text.strip name)) with
  | some l => .ok l
  | none => .error (.language name)

/-- The language of a file. -/
def ofPath (p : Path) : Except Unsupported Language :=
  let suffix := Text.toLower p.suffix
  match suffixes.lookup suffix with
  | some l => .ok l
  | none => .error (.extension suffix)

/-- Whether modules are written in the language. -/
def hasModules : Language → Bool
  | .json => false
  | .tsx | .typescript => true

/-- Whether a file can be analysed. -/
def isSource (p : Path) : Bool :=
  match ofPath p with
  | .ok l => l.hasModules
  | .error _ => false

/-- Suffixes tried in order when an import leaves its suffix out. -/
def moduleSuffixes : List String := [".ts", ".tsx", ".d.ts"]

/-- Files tried in order when an import names a directory. -/
def indexFiles : List String := ["index.ts", "index.tsx", "index.d.ts"]

end Language

end RouteLint
