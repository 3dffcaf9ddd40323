/-!
# Blanks and words

The blanks are the characters that separate words of a text: the controls from tabulator to
carriage return, the four information separators, the space, and the Unicode spaces and line
separators.  Zero-width characters are not blanks.

`collapse` writes the words of a text with one space between them.  It is how a type that runs
over several lines is shown on one.

## Main definitions

* `isBlank` — the class of characters.
* `words` — the maximal runs of characters that are not blank.
* `collapse`, `strip` — the words joined by single spaces; the text without outer blanks.
-/

namespace RouteLint.Text

/-- The characters that separate words. -/
def isBlank (c : Char) : Bool :=
  let n := c.toNat
  (9 ≤ n && n ≤ 13) || (28 ≤ n && n ≤ 32) || n == 0x85 || n == 0xA0 || n == 0x1680 ||
    (0x2000 ≤ n && n ≤ 0x200A) || n == 0x2028 || n == 0x2029 || n == 0x202F || n == 0x205F ||
    n == 0x3000

/-- The words of a text: its maximal runs of characters that are not blank. -/
def words : List Char → List (List Char)
  | [] => []
  | c :: cs =>
    if isBlank c then words cs
    else
      match cs with
      | [] => [[c]]
      | d :: _ =>
        if isBlank d then [c] :: words cs
        else
          match words cs with
          | [] => [[c]]
          | w :: ws => (c :: w) :: ws

/-- The words with one space between them, on characters. -/
def collapseChars (cs : List Char) : List Char :=
  List.intercalate [' '] (words cs)

/-- The words of a text with one space between them. -/
def collapse (s : String) : String :=
  String.ofList (collapseChars s.toList)

/-- A text without the blanks at its two ends. -/
def strip (s : String) : String :=
  String.ofList ((s.toList.dropWhile isBlank).reverse.dropWhile isBlank).reverse

@[simp] theorem words_nil : words [] = [] := rfl

variable {c d : Char} {cs : List Char}

@[simp] theorem words_cons_blank (h : isBlank c = true) : words (c :: cs) = words cs :=
  if_pos h

theorem words_singleton (hc : isBlank c = false) : words [c] = [[c]] :=
  if_neg (Bool.eq_false_iff.1 hc)

/-- A word ends where a blank follows. -/
theorem words_cons_of_blank (hc : isBlank c = false) (hd : isBlank d = true) :
    words (c :: d :: cs) = [c] :: words (d :: cs) :=
  (if_neg (Bool.eq_false_iff.1 hc)).trans (if_pos hd)

/-- A word goes on where none follows. -/
theorem words_cons_of_solid (hc : isBlank c = false) (hd : isBlank d = false) {w : List Char}
    {ws : List (List Char)} (h : words (d :: cs) = w :: ws) :
    words (c :: d :: cs) = (c :: w) :: ws := by
  have hwords : words (c :: d :: cs) = match words (d :: cs) with
      | [] => [[c]]
      | w :: ws => (c :: w) :: ws :=
    (if_neg (Bool.eq_false_iff.1 hc)).trans (if_neg (Bool.eq_false_iff.1 hd))
  rw [hwords, h]

end RouteLint.Text
