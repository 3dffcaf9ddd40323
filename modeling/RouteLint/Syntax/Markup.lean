import RouteLint.Syntax.Expressions

/-!
# Reading markup

Elements written with tags, as expressions may hold them.  An element is read only to find its
end.

## Main definitions

* `elementRule` — an element or a fragment.
-/

namespace RouteLint.Syntax

variable (r : Rules)

/-- The name of an element or an attribute. -/
def markupName : Scan Unit := do
  trivia
  discard <| characterIf isWordStart
  discard <| many (characterIf fun c => isWordChar c || c == '-' || c == ':' || c == '.')

/-- An expression in braces, which may be empty or spread. -/
def markupHole : Scan Unit := do
  symbol "\x7b"
  discard <| list "," (spreadable r)
  symbol "\x7d"

/-- A string in an attribute, which may run over lines. -/
def markupString : Scan Unit := do
  trivia
  let quote ← characterIf fun c => c = '"' || c = '\''
  discard <| many (characterIf (· ≠ quote))
  discard <| characterIf (· = quote)

/-- An attribute. -/
def markupAttribute : Scan Unit :=
  markupHole r <|> do
    markupName
    discard <| optionally (do
      symbol "="
      anyOf [markupString, markupHole r, r.element])

/-- What may stand between two tags. -/
def markupChild : Scan Unit :=
  anyOf
    [ do
        discard <| characterIf fun c => c ≠ '<' && c ≠ '\x7b' && c ≠ '>' && c ≠ '\x7d',
      markupHole r,
      r.element ]

/-- The children of an element and its closing tag. -/
def markupRest : Scan Unit := do
  discard <| many (markupChild r)
  symbol "<"
  symbol "/"
  discard <| optionally markupName
  symbol ">"

/-- An element or a fragment. -/
def elementRule : Scan Unit := do
  symbol "<"
  (do
    symbol ">"
    markupRest r) <|> (do
    markupName
    discard <| optionally (typeArguments r)
    discard <| many (markupAttribute r)
    (do
      symbol "/"
      symbol ">") <|> (do
      symbol ">"
      markupRest r))

end RouteLint.Syntax
