import RouteLint.Console.Screen

/-!
# Grids

Rows of cells below a row of headings, with lines drawn around them.  Every column is as wide as its
widest cell, with a space on either side; a cell may have several lines.

## Main definitions

* `Grid` — headings and rows.
* `Grid.draw` — the lines of a grid.
-/

namespace RouteLint.Console

/-- Rows of cells below headings.  Every row has as many cells as there are headings. -/
structure Grid where
  /-- The headings. -/
  headings : List (List Char)
  /-- The rows. -/
  rows : List (List (List Char))
  deriving Repr, Inhabited

/-- The characters of a line drawn across a grid: its ends, its crossings and the line itself. -/
structure Ruling where
  /-- The left end. -/
  left : Char
  /-- The line. -/
  line : Char
  /-- Where it crosses the line between two columns. -/
  cross : Char
  /-- The right end. -/
  right : Char

/-- The lines of a cell. -/
def cellLines : List Char → List (List Char)
  | [] => [[]]
  | c :: cs =>
    if c = '\n' then [] :: cellLines cs
    else
      match cellLines cs with
      | [] => [[c]]
      | l :: ls => (c :: l) :: ls

/-- The width of a cell. -/
def cellWidth (cs : List Char) : Nat := ((cellLines cs).map Text.width).foldl max 0

/-- A text filled up with spaces. -/
def padded (n : Nat) (cs : List Char) : List Char := cs ++ List.replicate (n - Text.width cs) ' '

namespace Grid

/-- The widths of the columns. -/
def widths (g : Grid) : List Nat :=
  g.rows.foldl (fun ws row => List.zipWith max ws (row.map cellWidth)) (g.headings.map cellWidth)

/-- A line across columns. -/
def ruler (r : Ruling) (widths : List Nat) : List Char :=
  r.left :: List.intercalate [r.cross] (widths.map fun w => List.replicate (w + 2) r.line) ++
    [r.right]

/-- A line of text across columns. -/
def textRow (bar : Char) (widths : List Nat) (cells : List (List Char)) : List Char :=
  let filled := List.zipWith (fun w c => ' ' :: padded w c ++ [' ']) widths cells
  bar :: List.intercalate [bar] filled ++ [bar]

/-- The lines of a row, as many as its highest cell has. -/
def rowLines (bar : Char) (widths : List Nat) (cells : List (List Char)) : List (List Char) :=
  let columns := cells.map cellLines
  let height := (columns.map List.length).foldl max 0
  (List.range height).map fun i => textRow bar widths (columns.map fun lines => lines[i]?.getD [])

/-- The line above the headings. -/
def topRule : Ruling := ⟨'┏', '━', '┳', '┓'⟩

/-- The line below the headings. -/
def headRule : Ruling := ⟨'┡', '━', '╇', '┩'⟩

/-- The line below the rows. -/
def bottomRule : Ruling := ⟨'└', '─', '┴', '┘'⟩

/-- The lines of a grid. -/
def draw (g : Grid) : List (List Char) :=
  let ws := g.widths
  [ruler topRule ws] ++ rowLines '┃' ws g.headings ++ [ruler headRule ws] ++
    g.rows.flatMap (rowLines '│' ws) ++ [ruler bottomRule ws]

end Grid

end RouteLint.Console
