import RouteLint.Syntax.Tree

/-!
# Reading text

A cursor is a place in a text with what follows it.  A scan looks at a cursor and either fails or
gives a result and a later cursor; a scan that fails leaves no trace, so alternatives can be tried
one after the other.

Blanks and comments may stand between any two tokens.  Every scan of a token passes over them
first, so that a construct starts at its first token and ends right after its last one.

## Main definitions

* `Cursor`, `Scan` — places and scans.
* `trivia`, `mark` — passing over blanks and comments.
* `symbol`, `word`, `identifier` — single tokens.
* `many`, `extend`, `list`, `optionally`, `anyOf` — repetition and choice.
* `piece` — the text a scan passes over, with its place.
-/

namespace RouteLint.Syntax

/-- A place in a text. -/
structure Cursor where
  /-- The characters from here on. -/
  rest : List Char
  /-- How many characters lie before. -/
  index : Nat
  /-- How many bytes lie before. -/
  offset : Nat
  /-- How many line breaks lie before. -/
  row : Nat
  /-- How many bytes lie between the last line break and here. -/
  column : Nat
  /-- Whether text was passed over that could not be read. -/
  broken : Bool
  deriving Repr, Inhabited

namespace Cursor

/-- The start of a text. -/
def start (text : List Char) : Cursor := ⟨text, 0, 0, 0, 0, false⟩

/-- The place after one character. -/
def past (c : Cursor) (x : Char) (rest : List Char) : Cursor :=
  { c with
    rest
    index := c.index + 1
    offset := c.offset + x.utf8Size
    row := if x = '\n' then c.row + 1 else c.row
    column := if x = '\n' then 0 else c.column + x.utf8Size }

/-- The place after `n` characters, or the end of the text. -/
def advance : Nat → Cursor → Cursor
  | 0, c => c
  | n + 1, c =>
    match c.rest with
    | [] => c
    | x :: xs => advance n (c.past x xs)

/-- The text between two places. -/
def textTo (a b : Cursor) : String := String.ofList (a.rest.take (b.index - a.index))

/-- The extent between two places. -/
def extentTo (a b : Cursor) : Extent := ⟨a.offset, b.offset, a.row, a.column⟩

/-- The extent between two places with its text. -/
def pieceTo (a b : Cursor) : Piece := ⟨a.extentTo b, a.textTo b⟩

end Cursor

/-- A scan: it fails, or gives a result and the place after what it read. -/
abbrev Scan := StateT Cursor Option

/-! ### Characters -/

/-- Blanks between tokens. -/
def isGap (c : Char) : Bool :=
  let n := c.toNat
  (9 ≤ n && n ≤ 13) || n == 0x20 || n == 0xA0 || n == 0x1680 || (0x2000 ≤ n && n ≤ 0x200B) ||
    n == 0x2028 || n == 0x2029 || n == 0x202F || n == 0x205F || n == 0x2060 || n == 0x3000 ||
    n == 0xFEFF

/-- Characters with a meaning of their own. -/
def punctuation : List Char := ":;`\"'@#.,|^&<=>+-*/\\%?!~()[]\x7b\x7d".toList

/-- Characters words are made of. -/
def isWordChar (c : Char) : Bool := 0x20 < c.toNat && !isGap c && !punctuation.contains c

/-- Characters a word can start with. -/
def isWordStart (c : Char) : Bool := isWordChar c && !c.isDigit

/-! ### Blanks and comments -/

/-- Characters a comment that ends with its line stops before. -/
def isLineEnd (c : Char) : Bool :=
  c = '\n' || c = '\r' || c.toNat == 0x2028 || c.toNat == 0x2029

/-- Where the passing over of blanks and comments stands. -/
inductive Passing where
  /-- Between comments. -/
  | gap
  /-- In a comment that ends with its line. -/
  | line
  /-- In a comment with an end mark. -/
  | block

/-- How many characters of blanks and comments a text starts with.  `taken` characters lie
before, and `kept` of them if the comment now being read has no end. -/
def triviaFrom : Passing → (taken kept : Nat) → List Char → Nat
  | .block, _, kept, [] => kept
  | .line, taken, _, [] => taken
  | .gap, taken, _, [] => taken
  | .block, taken, kept, '*' :: '/' :: cs =>
    triviaFrom .gap (taken + 2) kept cs
  | .block, taken, kept, _ :: cs => triviaFrom .block (taken + 1) kept cs
  | .line, taken, kept, c :: cs =>
    if isLineEnd c then triviaFrom .gap (taken + 1) kept cs
    else triviaFrom .line (taken + 1) kept cs
  | .gap, taken, _, '/' :: '/' :: cs => triviaFrom .line (taken + 2) taken cs
  | .gap, taken, _, '/' :: '*' :: cs => triviaFrom .block (taken + 2) taken cs
  | .gap, taken, _, c :: cs => if isGap c then triviaFrom .gap (taken + 1) taken cs else taken

/-- The place after blanks and comments. -/
def Cursor.token (c : Cursor) : Cursor := c.advance (triviaFrom .gap 0 0 c.rest)

/-- Pass over blanks and comments. -/
def trivia : Scan Unit := modify Cursor.token

/-- Pass over blanks and comments, and give the place after them. -/
def mark : Scan Cursor := do
  trivia
  get

/-- Whether a line ends before the next token. -/
def endsLine : Scan Bool := do
  let c ← get
  return c.token.row != c.row

/-- What the next token starts with. -/
def ahead : Scan (List Char) := return (← get).token.rest

/-- Fail unless a condition holds. -/
def require (b : Bool) : Scan Unit := if b then pure () else failure

/-! ### Choice and repetition -/

/-- The result of a scan if it succeeds. -/
def optionally {α : Type} (s : Scan α) : Scan (Option α) := (some <$> s) <|> pure none

/-- Whether a scan succeeds. -/
def succeeds {α : Type} (s : Scan α) : Scan Bool := (do discard s; return true) <|> pure false

/-- Whether a scan would succeed here. -/
def wouldSucceed {α : Type} (s : Scan α) : Scan Bool := do
  let c ← get
  let found ← succeeds s
  set c
  return found

/-- The first of several scans that succeeds. -/
def anyOf {α : Type} : List (Scan α) → Scan α
  | [] => failure
  | s :: ss => s <|> anyOf ss

/-- Repeat a scan as long as it succeeds, at most once for each entry of a list. -/
def manyFrom {α : Type} (s : Scan α) : List Char → Scan (List α)
  | [] => pure []
  | _ :: fuel => (do
      let a ← s
      let as ← manyFrom s fuel
      return a :: as) <|> pure []

/-- Repeat a scan as long as it succeeds; each success reads at least one character. -/
def many {α : Type} (s : Scan α) : Scan (List α) := do manyFrom s (← get).rest

/-- Apply scans to a value as long as one succeeds, at most once for each entry of a list. -/
def extendFrom {α : Type} (s : α → Scan α) : List Char → α → Scan α
  | [], a => pure a
  | _ :: fuel, a => (do
      let b ← s a
      extendFrom s fuel b) <|> pure a

/-- Extend a value as long as the scan for it succeeds; each success reads at least one
character. -/
def extend {α : Type} (s : α → Scan α) (a : α) : Scan α := do extendFrom s (← get).rest a

/-! ### Tokens -/

/-- One character that satisfies a test, without passing over blanks. -/
def characterIf (test : Char → Bool) : Scan Char := do
  let c ← get
  match c.rest with
  | x :: xs => if test x then do set (c.past x xs); return x else failure
  | [] => failure

/-- A given text, without passing over blanks. -/
def exactly (s : String) : Scan Unit := do
  let c ← get
  if s.toList.isPrefixOf c.rest then set (c.advance s.length) else failure

/-- A given sign. -/
def symbol (s : String) : Scan Unit := do
  trivia
  exactly s

/-- One of several signs. -/
def symbolOf (signs : List String) : Scan Unit := anyOf (signs.map symbol)

/-- A character or an escape with a code point, as words may hold them. -/
def wordPart (test : Char → Bool) : Scan Char :=
  characterIf test <|> do
    exactly "\\u"
    (do
      exactly "\x7b"
      discard <| many (characterIf fun c => c.isAlphanum)
      exactly "\x7d") <|> (do
      for _ in [0, 1, 2, 3] do
        discard <| characterIf fun c => c.isAlphanum)
    return '_'

/-- Any word. -/
def anyWord : Scan String := do
  let a ← mark
  discard <| wordPart isWordStart
  discard <| many (wordPart isWordChar)
  return a.textTo (← get)

/-- A given word. -/
def word (s : String) : Scan Unit := do
  let w ← anyWord
  require (w == s)

/-- Words that cannot name anything. -/
def reserved : List String :=
  ["break", "case", "catch", "class", "const", "continue", "debugger", "default", "delete", "do",
    "else", "enum", "export", "extends", "false", "finally", "for", "function", "if", "import",
    "in", "instanceof", "new", "null", "return", "super", "switch", "this", "throw", "true", "try",
    "typeof", "var", "void", "while", "with"]

/-- A word that can name something. -/
def identifier : Scan String := do
  let w ← anyWord
  require (!reserved.contains w)
  return w

/-- The text a scan passes over, from its first token on. -/
def piece {α : Type} (s : Scan α) : Scan (α × Piece) := do
  let a ← mark
  let x ← s
  return (x, a.pieceTo (← get))

/-- Items with a sign between them and perhaps one after the last; there may be none. -/
def list {α : Type} (separator : String) (item : Scan α) : Scan (List α) := do
  match ← optionally item with
  | none => return []
  | some a =>
    let as ← many (do
      symbol separator
      item)
    discard <| optionally (symbol separator)
    return a :: as

/-- The end of the text. -/
def atEnd : Scan Unit := do
  let c ← mark
  require c.rest.isEmpty

end RouteLint.Syntax
