import RouteLint.Syntax.Markup

/-!
# Reading declarations

Functions, types, classes, enumerations and variables.  A declaration starts at its first word or
decorator.  What stands in a namespace, or is only announced by the word `declare`, is read but
declares nothing for the module.

## Main definitions

* `parameters` — the parameters of a function.
* `declarations` — what one declaring statement declares.
-/

namespace RouteLint.Syntax

variable (r : Rules)

/-- The end of a statement: a semicolon, the end of the line, of the block or of the text. -/
def statementEnd : Scan Unit := do
  if ← succeeds (symbol ";") then return
  let line ← endsLine
  let next ← ahead
  require (line || next.isEmpty || next.head? == some '\x7d')

/-! ### Parameters -/

/-- A word that qualifies a parameter. -/
def parameterModifier : Scan Unit := do
  let w ← anyWord
  require (["override", "private", "protected", "public", "readonly"].contains w)
  require ((← ahead).head?.any isWordStart)

/-- What a parameter or a variable is bound to: a name, or a pattern of names. -/
def binding : Scan (Option String) :=
  anyOf
    [ do return some (← identifier),
      do
        group '\x7b'
        return none,
      do
        group '['
        return none ]

/-- A parameter. -/
def parameter : Scan Parameter := do
  let a ← mark
  discard <| many (decorator r)
  discard <| many parameterModifier
  discard <| optionally (symbol "...")
  (discard binding) <|> word "this"
  discard <| optionally (symbol "!")
  let optional ← succeeds (symbol "?")
  let type ← optionally (do
    symbol ":"
    r.type)
  let value ← optionally (do
    symbol "="
    r.expression)
  return ⟨a.extentTo (← get), optional, type, value⟩

/-- Parameters in parentheses. -/
def parameters : Scan (List Parameter) := do
  symbol "("
  let ps ← list "," (parameter r)
  symbol ")"
  return ps

/-! ### Declarations -/

/-- A function, with or without a body. -/
def functionDeclaration : Scan Declaration := do
  let a ← mark
  discard <| optionally (do
    word "async"
    require !(← endsLine))
  word "function"
  let generator ← succeeds (symbol "*")
  let name ← identifier
  discard <| optionally (typeParameters r)
  let ps ← parameters r
  discard <| optionally (do
    symbol ":"
    resultType r)
  (do
    r.block
    return .function ⟨a.extentTo (← get), name, generator, ps⟩) <|> (do
    statementEnd
    return .value ⟨a.extentTo (← get), name, .functionSignature⟩)

/-- A class with a name. -/
def classDeclaration : Scan Declaration := do
  let a ← mark
  discard <| many (decorator r)
  let isAbstract ← succeeds (word "abstract")
  word "class"
  match ← classTail r with
  | some name =>
    return .value ⟨a.extentTo (← get), name, if isAbstract then .abstractClass else .plainClass⟩
  | none => failure

/-- An enumeration. -/
def enumDeclaration : Scan Declaration := do
  let a ← mark
  discard <| optionally (word "const")
  word "enum"
  let name ← identifier
  group '\x7b'
  return .value ⟨a.extentTo (← get), name, .enumeration⟩

/-- An interface. -/
def interfaceDeclaration : Scan Declaration := do
  let a ← mark
  word "interface"
  let name ← identifier
  let ps ← optionally (typeParameters r)
  let bases ← optionally (do
    word "extends"
    list "," (namedType r))
  let ms ← members r
  return .type (.interface ⟨a.extentTo (← get), name, ps.getD [], bases.getD [], ms⟩)

/-- A name for a type. -/
def aliasDeclaration : Scan Declaration := do
  let a ← mark
  word "type"
  let name ← identifier
  let ps ← optionally (typeParameters r)
  symbol "="
  let value ← r.type
  statementEnd
  return .type (.alias ⟨a.extentTo (← get), name, ps.getD [], value⟩)

/-- One variable; nothing if it is bound to a pattern. -/
def variableDeclarator : Scan (Option Declaration) := do
  let a ← mark
  let name ← binding
  discard <| optionally (symbol "!")
  discard <| optionally (do
    symbol ":"
    r.type)
  discard <| optionally (do
    symbol "="
    r.expression)
  let here ← get
  return name.map fun name => .value ⟨a.extentTo here, name, .variable⟩

/-- Variables. -/
def variableDeclaration : Scan (List Declaration) := do
  let w ← anyWord
  require (["const", "let", "var"].contains w)
  let first ← variableDeclarator r
  let others ← many (do
    symbol ","
    variableDeclarator r)
  statementEnd
  return (first :: others).filterMap id

/-- A namespace, which declares nothing for the module. -/
def namespaceDeclaration : Scan Unit := do
  word "namespace" <|> word "module"
  require !(← endsLine)
  discard quotedText <|> (do
    discard identifier
    discard <| many (do
      symbol "."
      anyWord))
  r.block <|> statementEnd

/-- Another name for something in a namespace. -/
def importAlias : Scan Unit := do
  word "import"
  discard <| optionally (do
    word "type"
    require ((← ahead).head?.any isWordStart))
  discard identifier
  symbol "="
  discard r.expression
  statementEnd

/-- What one declaring statement declares, without the word `declare`. -/
def plainDeclarations : Scan (List Declaration) :=
  anyOf
    [ do return [← functionDeclaration r],
      do return [← classDeclaration r],
      do return [← enumDeclaration],
      do return [← interfaceDeclaration r],
      do return [← aliasDeclaration r],
      variableDeclaration r,
      do
        namespaceDeclaration r
        return [],
      do
        importAlias r
        return [] ]

/-- What one declaring statement declares. -/
def declarations : Scan (List Declaration) :=
  (do
    word "declare"
    require !(← endsLine)
    (discard <| plainDeclarations r) <|> (do
      word "global"
      r.block)
    return []) <|> plainDeclarations r

end RouteLint.Syntax
