import RouteLint.Syntax.Declarations

/-!
# Reading statements

The statements of a module and of a block.  A statement in a block is read like one at the top of
a module; what it declares is of no account there.

## Main definitions

* `importStatement`, `exportStatement` — imports and exports.
* `statementRule` — any statement.
* `blockRule` — statements in braces.
* `moduleRule` — all statements of a module, passing over what cannot be read.
-/

namespace RouteLint.Syntax

variable (r : Rules)

/-! ### Imports and exports -/

/-- A name in an import or export list. -/
def moduleName : Scan ModuleName :=
  (do return .identifier (← anyWord)) <|> (do
    let (quote, contents) ← quotedText
    return .quoted quote contents)

/-- The end of an item of an import or export list. -/
def itemEnd : Scan Unit := do
  let next := (← ahead).head?
  require (next == some ',' || next == some '\x7d')

/-- A name in a list, and the name that follows the word `as`. -/
def renamedItem : Scan (ModuleName × Option ModuleName) := do
  let name ← moduleName
  let renamed ← optionally (do
    word "as"
    moduleName)
  itemEnd
  return (name, renamed)

/-- An item of an import or export list, which may be marked as a type. -/
def moduleItem : Scan (ModuleName × Option ModuleName) :=
  renamedItem <|> (do
    word "type" <|> word "typeof"
    renamedItem)

/-- An import or export list. -/
def moduleItems : Scan (List (ModuleName × Option ModuleName)) := do
  symbol "\x7b"
  let items ← list "," moduleItem
  symbol "\x7d"
  return items

/-- The attributes of an import. -/
def importAttributes : Scan Unit :=
  discard <| optionally (do
    word "with" <|> word "assert"
    group '\x7b')

/-- The module a statement refers to. -/
def fromModule : Scan String := do
  word "from"
  let (_, specifier) ← quotedText
  importAttributes
  return specifier

/-- The names of an import list. -/
def namedImports : Scan (List ImportedName) := do
  let items ← moduleItems
  return items.map fun (name, renamed) => ⟨(renamed.getD name).written, name⟩

/-- All of a module under one name, which no type is looked up by. -/
def namespaceImport : Scan (List ImportedName) := do
  symbol "*"
  word "as"
  discard identifier
  return []

/-- What an import makes known. -/
def importClause : Scan (List ImportedName) :=
  anyOf
    [ namedImports,
      namespaceImport,
      do
        let name ← identifier
        let others ← optionally (do
          symbol ","
          namedImports <|> namespaceImport)
        return ⟨name, .identifier "default"⟩ :: others.getD [] ]

/-- An import with a clause. -/
def clauseImport : Scan Statement := do
  let names ← importClause
  let specifier ← fromModule
  return .imports specifier names

/-- An import. -/
def importStatement : Scan Statement :=
  (do
    word "import"
    let s ← anyOf
      [ do
          let (_, specifier) ← quotedText
          importAttributes
          return .imports specifier [],
        do
          word "type" <|> word "typeof"
          clauseImport,
        clauseImport ]
    statementEnd
    return s) <|> (do
    importAlias r
    return .other)

/-- What follows the word `export`. -/
def exported : Scan Statement :=
  anyOf
    [ do
        word "default"
        (do return .declares .default (← declarations r)) <|> (do
          discard r.expression
          statementEnd
          return .other),
      do
        discard <| optionally (word "type")
        symbol "*"
        let named ← optionally (do
          word "as"
          moduleName)
        let specifier ← fromModule
        statementEnd
        return if named.isSome then .other else .exportsAll specifier,
      do
        discard <| optionally (word "type" <|> word "typeof")
        let items ← moduleItems
        let specifier ← optionally fromModule
        statementEnd
        return .exports (items.map fun (name, renamed) => ⟨name, renamed⟩) specifier,
      do
        symbol "="
        discard r.expression
        statementEnd
        return .other,
      do
        word "as"
        word "namespace"
        discard identifier
        statementEnd
        return .other,
      do return .declares .named (← declarations r) ]

/-- An export. -/
def exportStatement : Scan Statement := do
  discard <| many (decorator r)
  word "export"
  exported r

/-! ### Control -/

/-- A condition in parentheses. -/
def condition : Scan Unit := do
  symbol "("
  discard <| list "," r.expression
  symbol ")"

/-- Expressions separated by commas, up to the end of the statement. -/
def expressionStatement : Scan Unit := do
  let es ← list "," r.expression
  require !es.isEmpty
  statementEnd

/-- A statement that goes on elsewhere: at the end of a function, a loop or with a failure. -/
def jumpStatement : Scan Unit := do
  let w ← anyWord
  require (["break", "continue", "debugger", "return", "throw"].contains w)
  if ← succeeds statementEnd then return
  expressionStatement r

/-- A conditional statement. -/
def ifStatement : Scan Unit := do
  word "if"
  condition r
  discard r.statement
  discard <| optionally (do
    word "else"
    r.statement)

/-- A loop that tests before it runs. -/
def loopStatement : Scan Unit := do
  (do
    word "for"
    discard <| optionally (word "await")
    group '(') <|> (do
    word "while" <|> word "with"
    condition r)
  discard r.statement

/-- A loop that tests after it ran. -/
def doStatement : Scan Unit := do
  word "do"
  discard r.statement
  word "while"
  condition r
  discard <| optionally (symbol ";")

/-- A choice between cases. -/
def switchStatement : Scan Unit := do
  word "switch"
  condition r
  symbol "\x7b"
  discard <| many (anyOf
    [ do
        word "case"
        discard <| list "," r.expression
        symbol ":",
      do
        word "default"
        symbol ":",
      discard r.statement ])
  symbol "\x7d"

/-- A block with what is to be done if it fails, and in any case. -/
def tryStatement : Scan Unit := do
  word "try"
  r.block
  discard <| optionally (do
    word "catch"
    discard <| optionally (group '(')
    r.block)
  discard <| optionally (do
    word "finally"
    r.block)

/-- A statement that declares nothing. -/
def plainStatement : Scan Unit :=
  anyOf
    [ symbol ";",
      do
        require ((← ahead).head? == some '\x7b')
        r.block,
      ifStatement r,
      loopStatement r,
      doStatement r,
      switchStatement r,
      tryStatement r,
      jumpStatement r,
      do
        discard identifier
        symbol ":"
        discard r.statement,
      expressionStatement r ]

/-- Any statement. -/
def statementRule : Scan Statement :=
  anyOf
    [ importStatement r,
      exportStatement r,
      do
        let ds ← declarations r
        return .declares .none ds,
      do
        plainStatement r
        return .other ]

/-- Statements in braces; if some of them cannot be read, the braces are passed over. -/
def blockRule : Scan Unit :=
  (do
    symbol "\x7b"
    discard <| many r.statement
    symbol "\x7d") <|> (do
    group '\x7b'
    markBroken)

/-! ### Modules -/

/-- Pass over a token that belongs to no statement. -/
def unreadable : Scan Statement := do
  discard anyWord <|> (do
    trivia
    discard <| characterIf fun _ => true)
  markBroken
  return .other

/-- The statements of a module. -/
def moduleRule : Scan (List Statement) := do
  discard <| optionally (do
    exactly "#!"
    discard <| many (characterIf (· ≠ '\n')))
  many (r.statement <|> unreadable)

end RouteLint.Syntax
