import RouteLint.Json.Reader
import RouteLint.Text.Blank
import RouteLint.Validation.Basic

/-!
# Checking single values

Texts must be texts.  Truth values may also be written as words or as the numbers zero and one, and
integers also as texts, as whole floating point numbers and as truth values.

## Main definitions

* `text`, `truth`, `integer`, `entries`, `listOf`, `nullable` — checks of values.
-/

namespace RouteLint.Validation

/-- A text. -/
def text : Json.Value → Checked CodePoints
  | .text t => .valid t
  | _ => .fault .stringType

/-- A text as a string. -/
def string (v : Json.Value) : Checked String := CodePoints.shown <$> text v

/-- An object with any entries. -/
def entries : Json.Value → Checked Entries
  | .object es => .valid es
  | _ => .fault .dictType

/-- A value that may be null. -/
def nullable {α : Type} (check : Json.Value → Checked α) : Json.Value → Checked (Option α)
  | .null => .valid none
  | v => some <$> check v

/-- Check items one after the other, the first of them with the given index. -/
def itemsFrom {α : Type} (check : Json.Value → Checked α) :
    Nat → List Json.Value → Checked (List α)
  | _, [] => .valid []
  | n, v :: vs => List.cons <$> (check v).under (toString n) <*> itemsFrom check (n + 1) vs

/-- An array of items. -/
def listOf {α : Type} (check : Json.Value → Checked α) : Json.Value → Checked (List α)
  | .array vs => itemsFrom check 0 vs
  | _ => .fault .listType

/-! ### Truth values -/

/-- The character in lower case if it is an ASCII letter. -/
def lowerAscii (n : Nat) : Nat := if 65 ≤ n && n ≤ 90 then n + 32 else n

/-- Words for true. -/
def trueWords : List String := ["1", "on", "t", "true", "y", "yes"]

/-- Words for false. -/
def falseWords : List String := ["0", "off", "f", "false", "n", "no"]

/-- The truth value a word means, whatever the case of its ASCII letters. -/
def truthOfWord (t : CodePoints) : Checked Bool :=
  let word : CodePoints := ⟨t.points.map lowerAscii⟩
  if (trueWords.map CodePoints.ofString).contains word then .valid true
  else if (falseWords.map CodePoints.ofString).contains word then .valid false
  else .fault .boolParsing

/-- One more than the greatest integer of 64 bits with a sign. -/
def wordBound : Int := 9223372036854775808

/-- Whether an integer fits into 64 bits with a sign. -/
def fitsWord (n : Int) : Bool := -wordBound ≤ n && n < wordBound

/-- Whether a floating point number of an integer's value is safely within 64 bits. -/
def withinWord (n : Int) : Bool := -wordBound < n && n < wordBound

/-- The truth value a number means. -/
def truthOfNumber (n : Int) : Checked Bool :=
  if n = 0 then .valid false else if n = 1 then .valid true else .fault .boolParsing

/-- A truth value. -/
def truth : Json.Value → Checked Bool
  | .bool b => .valid b
  | .text t => truthOfWord t
  | .int n => if fitsWord n then truthOfNumber n else .fault .boolType
  | .float x =>
    match x.toInt? with
    | some n => if withinWord n then truthOfNumber n else .fault .boolType
    | none => .fault .boolType
  | _ => .fault .boolType

/-! ### Integers -/

/-- Blanks that may stand around a number in a text. -/
def isMargin (c : Char) : Bool := Text.isBlank c && !(28 ≤ c.toNat && c.toNat ≤ 31)

/-- Drop the marks that stand singly between digits; nothing if one stands elsewhere. -/
def withoutMarks : List Char → Option (List Char)
  | [] => none
  | [c] => if c.isDigit then some [c] else none
  | c :: '_' :: d :: cs =>
    if c.isDigit then (withoutMarks (d :: cs)).map (c :: ·) else none
  | c :: cs => if c.isDigit then (withoutMarks cs).map (c :: ·) else none

/-- A number without the sign before it, and whether that is a minus. -/
def unsigned : List Char → Bool × List Char
  | '-' :: cs => (true, cs)
  | '+' :: cs => (false, cs)
  | cs => (false, cs)

/-- The integer a text writes: blanks around it, one sign, and zeros after a point do not
matter. -/
def integerOfText (cs : List Char) : Option Int := do
  let trimmed := ((cs.dropWhile isMargin).reverse.dropWhile isMargin).reverse
  let (negative, body) := unsigned trimmed
  let (whole, fraction) := body.span (· ≠ '.')
  if !(fraction.drop 1).all (· = '0') then none
  let ds ← withoutMarks whole
  let n := Int.ofNat (Json.natOf ds)
  return if negative then -n else n

/-- The longest text that is read as an integer. -/
def longestInteger : Nat := 4300

/-- An integer. -/
def integer : Json.Value → Checked Int
  | .int n => .valid n
  | .bool b => .valid (if b then 1 else 0)
  | .float x =>
    if !x.isFinite then .fault .finiteNumber
    else
      match x.toInt? with
      | some n => if withinWord n then .valid n else .fault .intParsingSize
      | none => .fault .intFromFloat
  | .text t =>
    let s := t.shown.toList
    if longestInteger < s.length then .fault .intParsingSize
    else
      match integerOfText s with
      | some n => .valid n
      | none => .fault .intParsing
  | _ => .fault .intType

end RouteLint.Validation
