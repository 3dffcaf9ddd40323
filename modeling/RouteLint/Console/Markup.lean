import RouteLint.Console.Emoji

/-!
# Marked-up text

Text for a console may be marked up with tags in brackets, as in `[green]done[/green]`.  A tag
starts with a small letter or one of `#`, `/` and `@`; other brackets are just text.  Backslashes
before a tag come in pairs that stand for one each, and one more keeps the tag from being a tag.
Before any other bracket a single backslash is dropped.

Tags say how a text looks and not what it says, so a plain console shows the text without them.  A
tag that closes must close one that is open.

## Main definitions

* `Markup.Token` — a character, or something in brackets that may be a tag.
* `Markup.escape` — a text as markup that shows it.
* `Markup.plain` — what is shown of marked-up text.
* `Markup.isBalanced` — whether every closing tag closes something.
-/

namespace RouteLint.Console.Markup

/-- A piece of marked-up text. -/
inductive Token where
  /-- A character that belongs to no tag. -/
  | char (c : Char)
  /-- Backslashes and what follows them in brackets. -/
  | mark (slashes : Nat) (body : List Char)
  deriving DecidableEq, Repr

/-- Whether a character can be the first of a tag. -/
def isTagStart (c : Char) : Bool :=
  ('a' ≤ c && c ≤ 'z') || c == '#' || c == '/' || c == '@'

/-- Whether a character can stand inside a tag. -/
def isTagChar (c : Char) : Bool := c ≠ ']' && c ≠ '['

/-- The text between brackets at the front, if it can be a tag, and what follows it. -/
def tag? : List Char → Option (List Char × List Char)
  | '[' :: c :: cs =>
    if isTagStart c then
      match cs.dropWhile isTagChar with
      | ']' :: rest => some (c :: cs.takeWhile isTagChar, rest)
      | _ => none
    else none
  | _ => none

/-- The token at the front, if it is one with brackets, and what follows it. -/
def mark? (cs : List Char) : Option (Token × List Char) :=
  let slashes := cs.takeWhile (· = '\\')
  (tag? (cs.drop slashes.length)).map fun (body, rest) => (.mark slashes.length body, rest)

/-- The tokens of a text; at most `fuel` of them are read. -/
def tokensFrom : Nat → List Char → List Token
  | 0, _ => []
  | _, [] => []
  | fuel + 1, c :: cs =>
    match mark? (c :: cs) with
    | some (mark, rest) => mark :: tokensFrom fuel rest
    | none => .char c :: tokensFrom fuel cs

/-- The tokens of a text.  A text has no more tokens than characters. -/
def tokens (cs : List Char) : List Token := tokensFrom cs.length cs

/-! ### Escaping -/

/-- Some backslashes. -/
def slashes (n : Nat) : List Char := List.replicate n '\\'

/-- Brackets around a text. -/
def bracketed (body : List Char) : List Char := '[' :: body ++ [']']

/-- A token as markup that shows it. -/
def Token.escape : Token → List Char
  | .char c => [c]
  | .mark n body => slashes (2 * n + 1) ++ bracketed body

/-- Write a single backslash at the end of a text twice, so that it does not act on what follows. -/
def closeSlash (cs : List Char) : List Char :=
  match cs.reverse with
  | '\\' :: '\\' :: _ => cs
  | '\\' :: _ => cs ++ ['\\']
  | _ => cs

/-- A text as markup that shows it. -/
def escape (cs : List Char) : List Char := closeSlash ((tokens cs).flatMap Token.escape)

/-! ### Showing -/

/-- A piece of text that is shown as one, or a tag. -/
inductive Piece where
  /-- Text that is shown. -/
  | text (cs : List Char)
  /-- A tag, which is not. -/
  | tag (body : List Char)
  deriving DecidableEq, Repr

/-- Text as a piece, unless there is none. -/
def textPiece (cs : List Char) : List Piece := if cs.isEmpty then [] else [.text cs]

/-- The pieces of a text in brackets. -/
def markPieces (n : Nat) (body : List Char) : List Piece :=
  textPiece (slashes (n / 2)) ++ if n % 2 = 1 then [.text (bracketed body)] else [.tag body]

/-- Put a token in front of a run of characters and the pieces after it. -/
def prependToken (t : Token) (after : List Char × List Piece) : List Char × List Piece :=
  match t with
  | .char c => (c :: after.1, after.2)
  | .mark n body => ([], markPieces n body ++ (textPiece after.1 ++ after.2))

/-- The pieces of marked-up text: characters between tags make up one piece. -/
def pieces (cs : List Char) : List Piece :=
  let (run, rest) := (tokens cs).foldr prependToken ([], [])
  textPiece run ++ rest

/-- A text without the backslash in front of a bracket. -/
def freeBrackets : List Char → List Char
  | '\\' :: '[' :: cs => '[' :: freeBrackets cs
  | c :: cs => c :: freeBrackets cs
  | [] => []

/-- What is shown of a piece. -/
def Piece.shown : Piece → List Char
  | .text cs => withEmoji (freeBrackets cs)
  | .tag _ => []

/-- What is shown of marked-up text. -/
def plain (cs : List Char) : List Char := (pieces cs).flatMap Piece.shown

/-! ### Closing tags -/

/-- The name of a tag: what stands in front of an equals sign. -/
def tagName (body : List Char) : List Char := body.takeWhile (· ≠ '=')

/-- Tag names are compared without outer blanks and without regard to case. -/
def normalName (name : List Char) : String := Text.toLower (Text.strip (String.ofList name))

/-- Close a tag: the open tags, the innermost first, without the one that is closed.  A closing tag
without a name closes the innermost one. -/
def close? (opened : List String) (name : List Char) : Option (List String) :=
  let name := normalName name
  if name = "" then
    match opened with
    | [] => none
    | _ :: rest => some rest
  else if opened.contains name then some (opened.erase name)
  else none

/-- Whether every closing tag among the pieces closes something, with some tags open before. -/
def closes (opened : List String) : List Piece → Bool
  | [] => true
  | .text _ :: ps => closes opened ps
  | .tag body :: ps =>
    match tagName body with
    | '/' :: name =>
      match close? opened name with
      | some rest => closes rest ps
      | none => false
    | name => closes (normalName name :: opened) ps

/-- Whether every closing tag of marked-up text closes something. -/
def isBalanced (cs : List Char) : Bool := closes [] (pieces cs)

end RouteLint.Console.Markup
