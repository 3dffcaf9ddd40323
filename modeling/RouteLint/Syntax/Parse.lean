import RouteLint.Json.Reader
import RouteLint.Language
import RouteLint.Syntax.Statements
import RouteLint.Text.Utf8

/-!
# Reading modules

The rules of the grammar refer to each other through `Rules`.  Here they are tied together: the
rules of one level refer to those of the level below, and there are more levels than any text of
the given length can need.

## Main definitions

* `rules` — the rules, level by level.
* `Module.ofChars` — the module a text writes.
* `Module.parse` — the module the bytes of a file write.
-/

namespace RouteLint.Syntax

/-- The rules of a level; below the lowest level nothing can be read. -/
def rules (markup : Bool) : Nat → Rules
  | 0 => ⟨markup, failure, failure, failure, failure, failure, failure, failure, failure, failure⟩
  | n + 1 =>
    { markup
      type := fun c => typeRule (rules markup n) c
      union := fun c => unionRule (rules markup n) c
      single := fun c => singleTypeRule (rules markup n) c
      expression := fun c => expressionRule (rules markup n) c
      operand := fun c => operandRule (rules markup n) c
      primary := fun c => primaryRule (rules markup n) c
      element := fun c => elementRule (rules markup n) c
      block := fun c => blockRule (rules markup n) c
      statement := fun c => statementRule (rules markup n) c }

/-- How many levels a text of a given length needs at most: no rule refers to others more than
four times without reading a character. -/
def levels (length : Nat) : Nat := 4 * length + 16

/-- The module a text writes. -/
def Module.ofChars (markup : Bool) (text : List Char) : Module :=
  match moduleRule (rules markup (levels text.length)) (Cursor.start text) with
  | some (statements, c) => ⟨statements, c.broken || !c.token.rest.isEmpty⟩
  | none => ⟨[], true⟩

/-- The module the bytes of a file write.  A JSON file declares nothing. -/
def Module.parse (language : Language) (bytes : Bytes) : Module :=
  let text := Utf8.decodeLossy bytes
  match language with
  | .json => ⟨[], !Json.isWellFormed text⟩
  | .tsx => .ofChars true text
  | .typescript => .ofChars false text

end RouteLint.Syntax
