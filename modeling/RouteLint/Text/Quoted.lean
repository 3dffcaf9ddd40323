import RouteLint.Text.CodePoints
import RouteLint.Text.Printable

/-!
# Quoted texts in messages

Messages show a text between single quotes, or between double quotes when it holds a single quote
and no double one.  The quote in use and the backslash are written after a backslash, tabulator
and line ends as `\t`, `\n` and `\r`, and every other character that does not print as its code
point in hexadecimal.

## Main definitions

* `quote`, `quoteString` — a text as messages show it.
-/

namespace RouteLint.Text

/-- A number in hexadecimal, with at least `width` digits. -/
def hex (width n : Nat) : String :=
  let digits := Nat.toDigits 16 n
  String.ofList (List.replicate (width - digits.length) '0' ++ digits)

/-- One code point of a quoted text. -/
def quotePoint (mark : Char) (n : Nat) : String :=
  if n = mark.toNat || n = 0x5C then String.ofList ['\\', Char.ofNat n]
  else if n = 0x09 then "\\t"
  else if n = 0x0A then "\\n"
  else if n = 0x0D then "\\r"
  else if isPrintable n then String.ofList [Char.ofNat n]
  else if n < 0x100 then "\\x" ++ hex 2 n
  else if n < 0x10000 then "\\u" ++ hex 4 n
  else "\\U" ++ hex 8 n

/-- A text as messages show it. -/
def quote (t : CodePoints) : String :=
  let mark := if t.points.contains 0x27 && !t.points.contains 0x22 then '"' else '\''
  let body := t.points.foldl (fun s n => s ++ quotePoint mark n) ""
  mark.toString ++ body ++ mark.toString

/-- A string as messages show it. -/
def quoteString (s : String) : String := quote (CodePoints.ofString s)

end RouteLint.Text
