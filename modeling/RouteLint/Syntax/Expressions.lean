import RouteLint.Syntax.Types

/-!
# Reading expressions

The grammar of expressions, as far as it is needed to tell where an expression ends and which of
the forms of `Expr` it has.  Which binary operator binds tighter is of no account, since every
expression with one is read as `Expr.other`.

## Main definitions

* `expressionRule` — an expression without commas.
* `operandRule` — an expression without binary operators.
* `primaryRule` — an expression without operators, calls and properties.
* `classTail`, `functionTail` — what follows the words `class` and `function`.
-/

namespace RouteLint.Syntax

variable (r : Rules)

/-! ### Functions -/

/-- The body of an arrow function. -/
def arrowBody : Scan Unit := do
  require !(← endsLine)
  symbol "=>"
  match ← ahead with
  | '\x7b' :: _ => r.block
  | _ => discard r.expression

/-- An arrow function with parameters in parentheses. -/
def arrowFunction : Scan Unit := do
  signature r
  arrowBody r

/-- What follows the name of a function expression. -/
def functionTail : Scan Unit := do
  signature r
  r.block

/-- A function expression, from the word `function` on. -/
def functionExpression : Scan Unit := do
  word "function"
  discard <| optionally (symbol "*")
  discard <| optionally identifier
  functionTail r

/-- An asynchronous function. -/
def asyncExpression : Scan Unit := do
  word "async"
  require !(← endsLine)
  anyOf
    [ functionExpression r,
      arrowFunction r,
      do
        discard identifier
        arrowBody r ]

/-! ### Arguments, arrays and objects -/

/-- An expression that may be spread. -/
def spreadable : Scan Expr :=
  (do
    symbol "..."
    discard r.expression
    return .other) <|> r.expression

/-- Arguments of a call; the first of them. -/
def callArguments : Scan (Option Expr) := do
  symbol "("
  let arguments ← list "," (spreadable r)
  symbol ")"
  return arguments.head?

/-- An array. -/
def arrayExpression : Scan Unit := do
  symbol "["
  discard <| many (discard (spreadable r) <|> symbol ",")
  symbol "]"

/-- What stands between the braces of an object; nothing unless it names a property with a
value. -/
def objectEntry : Scan (Option Entry) :=
  anyOf
    [ do
        let name ← propertyName
        symbol ":"
        return some (.pair name (← r.expression)),
      do
        discard <| many memberModifier
        discard <| optionally (symbol "*")
        discard propertyName
        functionTail r
        return none,
      do
        symbol "..."
        discard r.expression
        return none,
      do
        let name ← identifier
        discard <| optionally (do
          symbol "="
          r.expression)
        return some (.shorthand name) ]

/-- An object. -/
def objectExpression : Scan Expr := do
  symbol "\x7b"
  let entries ← list "," (objectEntry r)
  symbol "\x7d"
  return .object (entries.filterMap id)

/-! ### Classes -/

/-- A decorator. -/
def decorator : Scan Unit := do
  symbol "@"
  (group '(') <|> (do
    discard anyWord
    discard <| many (do
      symbol "."
      anyWord)
    discard <| optionally (typeArguments r)
    discard <| optionally (do
      require !(← endsLine)
      callArguments r))

/-- A member of a class. -/
def classMember : Scan Unit :=
  anyOf
    [ symbol ";",
      do
        word "static"
        r.block,
      do
        discard <| many (decorator r)
        discard <| many memberModifier
        indexSignature
        discard <| optionally (do
          symbol ":"
          r.type),
      do
        discard <| many (decorator r)
        discard <| many memberModifier
        discard <| optionally (symbol "*")
        discard propertyName
        discard <| optionally (symbolOf ["?", "!"])
        (do
          signature r
          discard <| optionally r.block) <|> (do
          discard <| optionally (do
            symbol ":"
            r.type)
          discard <| optionally (do
            symbol "="
            r.expression)) ]

/-- The text was passed over without being read. -/
def markBroken : Scan Unit := modify fun c => { c with broken := true }

/-- The body of a class. -/
def classBody : Scan Unit :=
  (do
    symbol "\x7b"
    discard <| many (classMember r)
    symbol "\x7d") <|> (do
    group '\x7b'
    markBroken)

/-- What a class extends and implements. -/
def heritage : Scan Unit := do
  discard <| optionally (do
    word "extends"
    discard r.operand
    discard <| optionally (typeArguments r))
  discard <| optionally (do
    word "implements"
    list "," r.type)

/-- What follows the word `class`: the name of the class, if it has one, and the rest. -/
def classTail : Scan (Option String) := do
  let name ← optionally (do
    let name ← identifier
    require (name != "implements")
    return name)
  discard <| optionally (typeParameters r)
  heritage r
  classBody r
  return name

/-! ### Primary expressions -/

/-- A constructed object. -/
def constructExpression : Scan Expr := do
  word "new"
  (do
    symbol "."
    discard anyWord
    return .other) <|> (do
    let a ← mark
    discard r.primary
    discard <| many (anyOf
      [ do
          symbol "."
          discard (anyWord <|> do
            symbol "#"
            anyWord),
        do
          symbol "["
          discard <| list "," r.expression
          symbol "]" ])
    let target := a.textTo (← get)
    discard <| optionally (typeArguments r)
    discard <| optionally (callArguments r)
    return .construct target)

/-- An expression in parentheses. -/
def parenthesizedExpression : Scan Expr := do
  symbol "("
  let items ← list "," r.expression
  symbol ")"
  match items with
  | [e] => return .parenthesized e
  | [] => failure
  | _ => return .parenthesized .other

/-- The value of a word that stands for itself. -/
def constantOf? : String → Option Expr
  | "true" => some .truth
  | "false" => some .truth
  | "null" => some .null
  | "undefined" => some .undefined
  | "this" => some .other
  | "super" => some .other
  | "import" => some .other
  | _ => none

/-- An expression that starts with a word. -/
def wordExpression : Scan Expr :=
  anyOf
    [ do
        asyncExpression r
        return .other,
      do
        functionExpression r
        return .other,
      do
        word "class"
        discard <| classTail r
        return .other,
      constructExpression r,
      do
        discard identifier
        arrowBody r
        return .other,
      do
        let w ← anyWord
        match constantOf? w with
        | some e => return e
        | none => do
          require (!reserved.contains w)
          return .other ]

/-- An expression that starts with an angle bracket: a generic function, markup or a type put
before an expression. -/
def angleExpression : Scan Unit :=
  anyOf
    [ arrowFunction r,
      if r.markup then r.element
      else do
        discard <| typeArguments r
        discard r.operand ]

/-- An expression without operators, calls and properties. -/
def primaryRule : Scan Expr := do
  match ← ahead with
  | '(' :: _ =>
    (do
      arrowFunction r
      return .other) <|> parenthesizedExpression r
  | '[' :: _ => do
    arrayExpression r
    return .other
  | '\x7b' :: _ => objectExpression r
  | '<' :: _ => do
    angleExpression r
    return .other
  | '/' :: _ => do
    regularExpression
    return .other
  | '`' :: _ => do
    discard <| template (discard <| list "," r.expression)
    return .text
  | '@' :: _ => do
    discard <| many (decorator r)
    word "class"
    discard <| classTail r
    return .other
  | '#' :: _ => do
    discard propertyName
    return .other
  | _ =>
    anyOf
      [ do
          discard quotedText
          return .text,
        do
          number
          return .number,
        wordExpression r ]

/-! ### Operands -/

/-- The property a dot leads to. -/
def dotted : Scan String := do
  (do
    symbol "?."
    require !((← get).rest.head?.any Char.isDigit)) <|> symbol "."
  anyWord <|> do
    let (_, p) ← piece (do
      symbol "#"
      anyWord)
    return p.text

/-- The call of an expression. -/
def called (callee : Expr) (first : Option Expr) : Expr :=
  match callee with
  | .member object method => .call object method first
  | _ => .other

/-- Whether an operand could start with the next token. -/
def couldStartOperand : Scan Bool := do
  match ← ahead with
  | [] => return false
  | c :: cs =>
    if isWordStart c then
      let w := String.ofList (c :: cs.takeWhile isWordChar)
      return !(← endsLine) && (operandStarts.contains w || !noOperands.contains w)
    else return c.isDigit || "\"'`([\x7b+-~/#@<".toList.contains c || (c = '!' && cs.head? != some '=')
where
  operandStarts : List String :=
    ["class", "delete", "false", "function", "import", "new", "null", "super", "this", "true",
      "typeof", "void"]
  noOperands : List String := reserved ++ ["as", "of", "satisfies"]

/-- Type arguments after which the expression ends. -/
def instantiation : Scan Expr := do
  discard <| typeArguments r
  let next := (← get).rest.head?
  require (next != some '>' && next != some '=')
  require !(← couldStartOperand)
  return .other

/-- What may follow an expression that starts at `a`: a property, an index, a call, a template or
a mark. -/
def afterOperand (a : Cursor) (e : Expr) : Scan Expr := do
  let stop ← get
  anyOf
    [ do return .member (a.textTo stop) (← dotted),
      do
        discard <| optionally (symbol "?.")
        symbol "["
        discard <| list "," r.expression
        symbol "]"
        return .other,
      do
        discard <| optionally (symbol "?.")
        discard <| optionally (typeArguments r)
        return called e (← callArguments r),
      do
        discard <| optionally (typeArguments r)
        let filled ← template (discard <| list "," r.expression)
        return called e (if filled then some .other else none),
      do
        require !(← endsLine)
        symbolOf ["++", "--"]
        return .other,
      do
        require !(← endsLine)
        symbol "!"
        require ((← get).rest.head? != some '=')
        return .other,
      instantiation r ]

/-- A sign or word before an operand. -/
def operatorBefore : Scan Unit :=
  symbolOf ["++", "--", "!", "~", "+", "-"] <|> do
    let w ← anyWord
    require (["await", "delete", "typeof", "void"].contains w)

/-- An expression without binary operators. -/
def operandRule : Scan Expr :=
  anyOf
    [ do
        operatorBefore
        discard r.operand
        return .other,
      do
        word "yield"
        discard <| optionally (symbol "*")
        discard <| optionally r.expression
        return .other,
      do
        let a ← mark
        let e ← primaryRule r
        extend (afterOperand r a) e ]

/-! ### Binary operators -/

/-- Signs of assignment. -/
def assignments : List String :=
  [">>>=", "<<=", ">>=", "**=", "&&=", "||=", "??=", "+=", "-=", "*=", "/=", "%=", "&=", "|=",
    "^="]

/-- Signs between two operands. -/
def operators : List String :=
  ["===", "!==", ">>>", "==", "!=", "<=", ">=", "&&", "||", "??", "<<", ">>", "**", "+", "-", "*",
    "/", "%", "<", ">", "&", "|", "^"]

/-- A sign or word between two operands. -/
def operatorBetween : Scan Unit := do
  let next ← ahead
  require !("++".toList.isPrefixOf next || "--".toList.isPrefixOf next ||
    "=>".toList.isPrefixOf next)
  symbolOf operators <|> word "in" <|> word "instanceof"

/-- What may follow an operand: an operator with another, or a type. -/
def afterExpression (e : Expr) : Scan Expr :=
  anyOf
    [ do
        word "as"
        (do
          word "const"
          return .asConst e) <|> (do
          return .asType e (← r.type)),
      do
        word "satisfies"
        discard r.type
        return .satisfies e,
      do
        symbolOf assignments
        discard r.expression
        return .other,
      do
        operatorBetween
        discard r.operand
        return .other,
      do
        require !("=>".toList.isPrefixOf (← ahead))
        symbol "="
        discard r.expression
        return .other,
      do
        symbol "?"
        discard r.expression
        symbol ":"
        discard r.expression
        return .other ]

/-- An expression without commas. -/
def expressionRule : Scan Expr := do
  let e ← r.operand
  extend (afterExpression r) e

end RouteLint.Syntax
