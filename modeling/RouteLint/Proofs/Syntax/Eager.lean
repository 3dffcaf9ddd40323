import RouteLint.Source

/-!
# Parsing characters that are known

A parse is decided by evaluating it, and a character that is still to be decoded from bytes is then
decoded again wherever the parser looks at it.  Here all characters of a text are computed before
the parser sees any of them.  That costs less, and it makes texts with the same characters the same
term, of whatever bytes and edits they come, so that evaluation parses them once.

## Main definitions

* `withChars` — going on with characters once they are known.
* `eagerParse` — the parser of modules on known characters.

## Main results

* `eagerParse_eq` — it is the parser of modules.
-/

namespace RouteLint

open Syntax

/-- Go on with a number once it is known: a match has to find out which one it is. -/
def withNumber {α : Type} (n : Nat) (k : Nat → α) : α :=
  match n with
  | 0 => k 0
  | n + 1 => k (n + 1)

theorem withNumber_eq {α : Type} (n : Nat) (k : Nat → α) : withNumber n k = k n := by
  cases n <;> rfl

/-- Go on with characters once they are known, where some are known already, the last of them
first. -/
def withCharsFrom {α : Type} (k : List Char → α) : List Char → List Char → α
  | known, [] => k known.reverse
  | known, c :: cs => withNumber c.toNat fun n => withCharsFrom k (Char.ofNat n :: known) cs

/-- Go on with characters once they are known. -/
def withChars {α : Type} (cs : List Char) (k : List Char → α) : α := withCharsFrom k [] cs

theorem withCharsFrom_eq {α : Type} (k : List Char → α) (known cs : List Char) :
    withCharsFrom k known cs = k (known.reverse ++ cs) := by
  induction cs generalizing known with
  | nil => rw [withCharsFrom, List.append_nil]
  | cons c cs ih =>
    rw [withCharsFrom, withNumber_eq, Char.ofNat_toNat, ih, List.reverse_cons, List.append_assoc,
      List.singleton_append]

theorem withChars_eq {α : Type} (cs : List Char) (k : List Char → α) : withChars cs k = k cs :=
  withCharsFrom_eq k [] cs

/-- The parser of modules, which goes on with known characters. -/
def eagerParse : Parser
  | .json, bytes => Module.parse .json bytes
  | .tsx, bytes => withChars (Utf8.decodeLossy bytes) (Module.ofChars true)
  | .typescript, bytes => withChars (Utf8.decodeLossy bytes) (Module.ofChars false)

/-- **The parser that knows its characters is the parser of modules.** -/
theorem eagerParse_eq : eagerParse = Module.parse := by
  funext language bytes
  cases language with
  | json => rfl
  | tsx => exact withChars_eq _ _
  | typescript => exact withChars_eq _ _

end RouteLint
