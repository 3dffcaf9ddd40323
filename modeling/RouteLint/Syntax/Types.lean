import RouteLint.Syntax.Lexeme

/-!
# Reading types

The grammar of types.  An intersection binds tighter than a union, both group to the left, and a
leading sign makes a union or an intersection of one part.  Function types and conditional types
reach as far right as they can.  Brackets after a type belong to it only on the same line.

The rules that refer to each other do so through a record of rules, so that each is a definition
of its own; `Rules` is closed in `RouteLint.Syntax.Parse`.

## Main definitions

* `Rules` — the rules that other rules refer to.
* `typeRule`, `unionRule`, `singleTypeRule` — types, by how tightly they bind.
* `members` — the members of object types and interfaces.
* `typeParameters`, `typeArguments` — parameters and arguments of generics.
-/

namespace RouteLint.Syntax

/-- The rules that other rules refer to. -/
structure Rules where
  /-- Whether expressions may be markup. -/
  markup : Bool
  /-- Any type. -/
  type : Scan TypeExpr
  /-- Any type but a conditional one. -/
  union : Scan TypeExpr
  /-- A type that is no union, intersection or conditional. -/
  single : Scan TypeExpr
  /-- An expression without commas. -/
  expression : Scan Expr
  /-- An expression without binary operators. -/
  operand : Scan Expr
  /-- An expression without operators, calls and properties. -/
  primary : Scan Expr
  /-- A markup element. -/
  element : Scan Unit
  /-- Statements in braces. -/
  block : Scan Unit
  /-- A statement. -/
  statement : Scan Statement

variable (r : Rules)

/-! ### Generics -/

/-- Type arguments in angle brackets. -/
def typeArguments : Scan (List TypeExpr) := do
  symbol "<"
  let arguments ← list "," r.type
  symbol ">"
  return arguments

/-- A word that qualifies a type parameter. -/
def variance : Scan Unit := do
  let w ← anyWord
  require (w == "const" || w == "in" || w == "out")
  require (← wouldSucceed identifier)

/-- A parameter of a generic. -/
def typeParameter : Scan TypeParameter := do
  discard <| many variance
  let name ← identifier
  discard <| optionally (do
    word "extends"
    r.type)
  let fallback ← optionally (do
    symbol "="
    r.type)
  return ⟨name, fallback⟩

/-- Type parameters in angle brackets. -/
def typeParameters : Scan (List TypeParameter) := do
  symbol "<"
  let parameters ← list "," (typeParameter r)
  symbol ">"
  return parameters

/-- The result type of a function, which may also say what is known after a call. -/
def resultType : Scan Unit :=
  anyOf
    [ do
        word "asserts"
        require !(← endsLine)
        discard anyWord
        discard <| optionally (do
          word "is"
          r.type),
      do
        discard anyWord
        require !(← endsLine)
        word "is"
        discard r.type,
      discard r.type ]

/-- The parameters and the result type of a signature. -/
def signature : Scan Unit := do
  discard <| optionally (typeParameters r)
  group '('
  discard <| optionally (do
    symbol ":"
    resultType r)

/-! ### Members -/

/-- Words that qualify a member. -/
def memberModifiers : List String :=
  ["abstract", "accessor", "async", "declare", "get", "override", "private", "protected", "public",
    "readonly", "set", "static"]

/-- A word that qualifies the member after it, on the same line. -/
def memberModifier : Scan Unit := do
  let w ← anyWord
  require (memberModifiers.contains w)
  require !(← endsLine)
  match ← ahead with
  | c :: _ => require (isWordChar c || c == '"' || c == '\'' || c == '[' || c == '#' || c == '*')
  | [] => failure

/-- An index signature or a mapping, without its type. -/
def indexSignature : Scan Unit := do
  discard <| optionally (do
    symbolOf ["+", "-"]
    word "readonly")
  require (← wouldSucceed (do
    symbol "["
    discard identifier
    symbol ":" <|> word "in"))
  group '['
  discard <| optionally (symbolOf ["+?", "-?", "?"])

/-- A member with a name. -/
def namedMember : Scan Member := do
  let a ← mark
  discard <| many memberModifier
  discard <| optionally (symbol "*")
  let name ← propertyName
  discard <| optionally (symbol "?")
  let next := (← ahead).head?
  let method := next == some '(' || next == some '<'
  if method && !(← endsLine) then do
    signature r
    return .method name (a.pieceTo (← get))
  else do
    let type ← optionally (do
      symbol ":"
      r.type)
    return .property name type

/-- A member of an object type, with the sign after it. -/
def member : Scan Member := do
  let m ← anyOf
    [ do
        signature r
        return .signature,
      do
        discard <| optionally (word "abstract")
        word "new"
        signature r
        return .signature,
      do
        discard <| many memberModifier
        indexSignature
        discard <| optionally (do
          symbol ":"
          r.type)
        return .signature,
      namedMember r ]
  discard <| optionally (symbolOf [",", ";"])
  return m

/-- Members in braces. -/
def members : Scan (List Member) := do
  symbol "\x7b"
  let ms ← many (member r)
  symbol "\x7d"
  return ms

/-! ### Types that stand alone -/

/-- A type of a kind that is not looked into. -/
def plainType {α : Type} (kind : TypeKind) (s : Scan α) : Scan TypeExpr := do
  let (_, p) ← piece s
  return .other p kind

/-- The names of predefined types. -/
def predefined : List String :=
  ["any", "boolean", "never", "number", "object", "string", "symbol", "unknown", "void"]

/-- Words that are literals. -/
def literalWords : List String := ["false", "null", "true", "undefined"]

/-- A name, perhaps with dots and type arguments. -/
def namedType : Scan TypeExpr := do
  let a ← mark
  let first ← identifier
  let others ← many (do
    symbol "."
    anyWord)
  let name := a.pieceTo (← get)
  let arguments ← optionally (typeArguments r)
  match arguments with
  | some ts => return .generic (a.pieceTo (← get)) ⟨name.text, others.isEmpty⟩ ts
  | none =>
    if !others.isEmpty then return .other name .qualified
    else if predefined.contains first then return .other name .predefined
    else if literalWords.contains first then return .literal name none
    else return .name name

/-- A word of the language that is a type. -/
def keywordType : Scan TypeExpr :=
  anyOf
    [ plainType .predefined (do
        word "unique"
        require !(← endsLine)
        word "symbol"),
      plainType .predefined (word "void"),
      plainType .this (word "this"),
      do
        let (w, p) ← piece anyWord
        require (literalWords.contains w)
        return .literal p none ]

/-- The type of a value. -/
def queryType : Scan Unit := do
  word "typeof"
  (do
    word "import"
    group '(') <|> discard anyWord
  discard <| many (do
    symbol "."
    discard (anyWord <|> do
      symbol "#"
      anyWord))
  discard <| optionally (typeArguments r)

/-- A type out of another module. -/
def importType : Scan TypeExpr := do
  let a ← mark
  word "import"
  group '('
  let names ← many (do
    symbol "."
    discard anyWord)
  return .other (a.pieceTo (← get)) (if names.isEmpty then .call else .member)

/-- A literal as a type. -/
def literalType : Scan TypeExpr :=
  anyOf
    [ do
        let ((_, contents), p) ← piece quotedText
        return .literal p (some contents),
      do
        let (_, p) ← piece (do
          discard <| optionally (symbolOf ["-", "+"])
          number)
        return .literal p none ]

/-- A type that stands alone, without brackets after it. -/
def atomType : Scan TypeExpr := do
  match ← ahead with
  | '(' :: _ =>
    let (inner, p) ← piece (do
      symbol "("
      let inner ← r.type
      symbol ")"
      return inner)
    return .parenthesized p inner
  | '\x7b' :: _ =>
    let (ms, p) ← piece (members r)
    return .object p ms
  | '[' :: _ => plainType .tuple (group '[')
  | '`' :: _ => plainType .template (template (discard r.type))
  | _ => anyOf [literalType, plainType .query (queryType r), importType, keywordType, namedType r]

/-- Brackets after a type: an array of it, or one of its members. -/
def bracketsAfter (a : Cursor) (_ : TypeExpr) : Scan TypeExpr := do
  require !(← endsLine)
  symbol "["
  let inner ← optionally r.type
  symbol "]"
  return .other (a.pieceTo (← get)) (if inner.isSome then .lookup else .array)

/-- A type that stands alone, with the brackets after it. -/
def bracketedType : Scan TypeExpr := do
  let a ← mark
  let t ← atomType r
  extend (bracketsAfter r a) t

/-- A function type. -/
def functionType : Scan Unit := do
  discard <| optionally (typeParameters r)
  group '('
  symbol "=>"
  resultType r

/-- The type of a constructor. -/
def constructorType : Scan Unit := do
  discard <| optionally (word "abstract")
  word "new"
  discard <| optionally (typeParameters r)
  group '('
  symbol "=>"
  discard r.single

/-- A type variable to be found. -/
def inferType : Scan Unit := do
  word "infer"
  discard identifier
  discard <| optionally (do
    word "extends"
    r.union)

/-- A type that is no union, intersection or conditional. -/
def singleTypeRule : Scan TypeExpr :=
  anyOf
    [ plainType .function (functionType r),
      plainType .constructor (constructorType r),
      plainType .readonly (do
        word "readonly"
        r.type),
      plainType .infer (inferType r),
      plainType .indexQuery (do
        word "keyof"
        r.single),
      bracketedType r ]

/-! ### Types with operators -/

/-- A comment as a part of a type. -/
def comment : Scan TypeExpr := do
  discard <| many (characterIf isGap)
  let a ← get
  anyOf
    [ do
        exactly "//"
        discard <| many (characterIf fun c => !isLineEnd c),
      do
        exactly "/*"
        discard <| many (do
          require (!("*/".toList.isPrefixOf (← get).rest))
          discard <| characterIf fun _ => true)
        exactly "*/" ]
  return .comment (a.pieceTo (← get))

/-- The comments before the next token. -/
def comments : Scan (List TypeExpr) := do
  let cs ← many comment
  trivia
  return cs

/-- Types joined by a sign, grouped to the left. -/
def joined (sign : String) (join : Piece → List TypeExpr → TypeExpr) (part : Scan TypeExpr) :
    Scan TypeExpr := do
  let a ← mark
  let first ← (do
    exactly sign
    let between ← comments
    let t ← part
    return join (a.pieceTo (← get)) (between ++ [t])) <|> part
  extend (fun left => do
    let before ← comments
    exactly sign
    let after ← comments
    let right ← part
    return join (a.pieceTo (← get)) (left :: before ++ after ++ [right])) first

/-- Any type but a conditional one. -/
def unionRule : Scan TypeExpr := joined "|" .union (joined "&" .intersection r.single)

/-- Any type. -/
def typeRule : Scan TypeExpr := do
  let a ← mark
  let t ← r.union
  (do
    word "extends"
    discard r.union
    symbol "?"
    discard r.type
    symbol ":"
    discard r.type
    return .other (a.pieceTo (← get)) .conditional) <|> pure t

end RouteLint.Syntax
