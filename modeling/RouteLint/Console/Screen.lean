import RouteLint.Console.Markup
import RouteLint.Text.Width

/-!
# Lines on a screen

Text is shown without the control characters that would move the cursor about, and with tabulators
filled up with spaces.  What belongs to the job goes to the output, and what is wrong to the errors.

## Main definitions

* `settle` — a text as it is shown.
* `Screen` — what has been shown.
* `Screen.print`, `Screen.complain` — show a line.
-/

namespace RouteLint.Console

/-- Control characters that are not shown: bell, backspace, vertical tabulator, form feed and
carriage return. -/
def isSilent (c : Char) : Bool :=
  let n := c.toNat
  n == 7 || n == 8 || n == 11 || n == 12 || n == 13

/-- The distance between two stops of the tabulator. -/
def tabSize : Nat := 8

/-- Fill tabulators up with spaces, `column` cells into a line. -/
def expandTabs (column : Nat) : List Char → List Char
  | [] => []
  | c :: cs =>
    if c = '\t' then
      let spaces := tabSize - column % tabSize
      List.replicate spaces ' ' ++ expandTabs (column + spaces) cs
    else if c = '\n' then c :: expandTabs 0 cs
    else c :: expandTabs (column + Text.cells c) cs

/-- A text as it is shown. -/
def settle (cs : List Char) : List Char := expandTabs 0 (cs.filter fun c => !isSilent c)

/-- A line that shows a text as it is, but for the names of emoji. -/
def textLine (s : String) : String := String.ofList (settle (withEmoji s.toList)) ++ "\n"

/-- A line that shows marked-up text. -/
def markupLine (cs : List Char) : String := String.ofList (settle (Markup.plain cs)) ++ "\n"

/-- A text inside marked-up text, shown as it is. -/
def literal (s : String) : String := String.ofList (Markup.escape s.toList)

/-- What has been shown. -/
structure Screen where
  /-- The output. -/
  out : String := ""
  /-- The errors. -/
  err : String := ""
  deriving DecidableEq, Repr, Inhabited

namespace Screen

/-- Show marked-up text on the output. -/
def print (s : Screen) (markup : String) : Screen :=
  { s with out := s.out ++ markupLine markup.toList }

/-- Show marked-up text among the errors. -/
def complain (s : Screen) (markup : String) : Screen :=
  { s with err := s.err ++ markupLine markup.toList }

/-- Show a text among the errors as it is. -/
def complainText (s : Screen) (text : String) : Screen :=
  { s with err := s.err ++ textLine text }

end Screen

end RouteLint.Console
