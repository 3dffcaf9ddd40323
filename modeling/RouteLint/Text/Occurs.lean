/-!
# Occurrences

Whether a word occurs somewhere in a text.

## Main definitions

* `occurs` — the test, on characters.
* `mentions` — the test, on texts.
-/

namespace RouteLint.Text

/-- Whether `w` stands somewhere in a list of characters. -/
def occurs (w : List Char) : List Char → Bool
  | [] => w.isEmpty
  | c :: cs => w.isPrefixOf (c :: cs) || occurs w cs

/-- Whether the text `t` holds the text `w`. -/
def mentions (t w : String) : Bool := occurs w.toList t.toList

theorem occurs_iff_infix (w t : List Char) : occurs w t = true ↔ w <:+: t := by
  induction t with
  | nil => simp [occurs]
  | cons c cs ih => simp [occurs, ih, List.infix_cons_iff]

end RouteLint.Text
