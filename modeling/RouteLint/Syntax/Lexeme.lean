import RouteLint.Syntax.Cursor

/-!
# Literals and bracketed groups

The tokens that have an inside: string literals, numbers, regular expressions, templates, and the
groups that brackets form.  A group is passed over as a whole when nothing in it matters; strings,
templates, comments and regular expressions are recognised on the way, so that a bracket in one of
them does not count.

## Main definitions

* `quotedText`, `number`, `regularExpression`, `template` — literals.
* `group` — a bracketed group.
* `propertyName` — the name of a property.
-/

namespace RouteLint.Syntax

/-! ### Literals -/

/-- One character of a string literal, escapes counting as two. -/
def quotedPart (quote : Char) : Scan Unit := do
  let c ← characterIf fun c => c ≠ quote && c ≠ '\n' && c ≠ '\r'
  if c = '\\' then discard <| characterIf fun _ => true

/-- A string literal: its quotation mark and its contents as written. -/
def quotedText : Scan (Char × String) := do
  trivia
  let quote ← characterIf fun c => c = '"' || c = '\''
  let a ← get
  discard <| many (quotedPart quote)
  let contents := a.textTo (← get)
  discard <| characterIf (· = quote)
  return (quote, contents)

/-- Digits of any base, with the marks between them. -/
def digits : Scan Unit := discard <| many (characterIf fun c => c.isAlphanum || c = '_')

/-- Decimal digits, with the marks between them. -/
def decimals : Scan Unit := discard <| many (characterIf fun c => c.isDigit || c = '_')

/-- The fraction and exponent of a number. -/
def numberTail : Scan Unit := do
  discard <| optionally (do
    exactly "."
    decimals)
  discard <| optionally (do
    discard <| characterIf fun c => c = 'e' || c = 'E'
    discard <| optionally (characterIf fun c => c = '+' || c = '-')
    discard <| characterIf Char.isDigit
    decimals)
  discard <| optionally (exactly "n")

/-- A number. -/
def number : Scan Unit := do
  trivia
  anyOf
    [ do
        exactly "0"
        discard <| characterIf fun c => "xXoObB".toList.contains c
        digits,
      do
        discard <| characterIf Char.isDigit
        decimals
        numberTail,
      do
        exactly "."
        discard <| characterIf Char.isDigit
        decimals
        numberTail ]

/-- A character of a regular expression outside a class. -/
def patternPart : Scan Unit := do
  let c ← characterIf fun c => c ≠ '/' && c ≠ '\n'
  if c = '\\' then discard <| characterIf (· ≠ '\n')
  else if c = '[' then do
    discard <| many (do
      let c ← characterIf fun c => c ≠ ']' && c ≠ '\n'
      if c = '\\' then discard <| characterIf (· ≠ '\n'))
    exactly "]"

/-- A regular expression with its flags. -/
def regularExpression : Scan Unit := do
  symbol "/"
  patternPart
  discard <| many patternPart
  exactly "/"
  discard <| many (characterIf Char.isAlpha)

/-- The text of a template up to its end or its next hole; whether it is the end. -/
def templateText : Scan Bool := do
  discard <| many (do
    let rest := (← get).rest
    require (!("$\x7b".toList.isPrefixOf rest))
    let c ← characterIf (· ≠ '`')
    if c = '\\' then discard <| characterIf fun _ => true)
  (do
    exactly "`"
    return true) <|> (do
    exactly "$\x7b"
    return false)

/-- A template with the given contents of holes; whether it has any content. -/
def template (hole : Scan Unit) : Scan Bool := do
  symbol "`"
  let a ← get
  discard <| many (do
    let closed ← templateText
    require (!closed)
    hole
    symbol "\x7d")
  let closed ← templateText
  require closed
  return (← get).index != a.index + 1

/-! ### Groups -/

/-- What has been opened and not yet closed. -/
inductive Opened where
  /-- A bracket, by the bracket that closes it. -/
  | bracket (closing : Char)
  /-- A hole in a template. -/
  | hole
  deriving DecidableEq

/-- How far a group has been passed over. -/
structure Skim where
  /-- What is open, the innermost first. -/
  opened : List Opened
  /-- Whether an operand stands right before, so that a slash would divide. -/
  afterOperand : Bool

/-- Words after which an operand follows. -/
def operandWords : List String :=
  ["await", "case", "delete", "do", "else", "in", "instanceof", "new", "of", "return", "throw",
    "typeof", "void", "yield"]

/-- The bracket that closes an opening one. -/
def closingOf? : Char → Option Char
  | '(' => some ')'
  | '[' => some ']'
  | '\x7b' => some '\x7d'
  | _ => none

/-- Go on with the text of a template inside a group. -/
def skimTemplate (opened : List Opened) : Scan Skim := do
  let closed ← templateText
  return if closed then ⟨opened, true⟩ else ⟨.hole :: opened, false⟩

/-- A closing bracket. -/
def skimClosing (s : Skim) : Scan Skim := do
  match s.opened with
  | .bracket c :: opened =>
    exactly c.toString
    return ⟨opened, c ≠ '\x7d'⟩
  | .hole :: opened =>
    exactly "\x7d"
    skimTemplate opened
  | [] => failure

/-- Pass over one token of a group; fail when the group is closed. -/
def skim (s : Skim) : Scan Skim := do
  require (!s.opened.isEmpty)
  trivia
  anyOf
    [ do
        discard quotedText
        return { s with afterOperand := true },
      do
        exactly "`"
        skimTemplate s.opened,
      do
        let c ← characterIf fun c => (closingOf? c).isSome
        return ⟨.bracket ((closingOf? c).getD c) :: s.opened, false⟩,
      skimClosing s,
      do
        require (!s.afterOperand)
        regularExpression
        return { s with afterOperand := true },
      do
        let w ← anyWord
        return { s with afterOperand := !operandWords.contains w },
      do
        let c ← characterIf fun c => !")]\x7d".toList.contains c
        return { s with afterOperand := c.isDigit } ]

/-- A bracketed group that starts with the given bracket. -/
def group (opening : Char) : Scan Unit := do
  trivia
  discard <| characterIf (· = opening)
  let s ← extend skim ⟨[.bracket ((closingOf? opening).getD opening)], false⟩
  require s.opened.isEmpty

/-! ### Names of properties -/

/-- The name of a property. -/
def propertyName : Scan PropertyName :=
  anyOf
    [ do return .identifier (← anyWord),
      do return .quoted (← quotedText).2,
      do
        let (_, p) ← piece number
        return .identifier p.text,
      do
        let (_, p) ← piece (do
          symbol "#"
          discard anyWord)
        return .identifier p.text,
      do
        group '['
        return .computed ]

end RouteLint.Syntax
