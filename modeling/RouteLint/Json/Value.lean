import RouteLint.Data.Table
import RouteLint.Number.Shortest
import RouteLint.Text.Quoted

/-!
# JSON values

Integers and floating point numbers are different values, objects keep their keys in order of
first appearance, and texts are sequences of code points.

## Main definitions

* `Json.Value` — the values.
* `Json.Value.get?` — a field of an object.
* `Json.Value.display` — a value as messages show it.
* `Json.Value.kind` — the name of a value's kind in messages.
-/

namespace RouteLint.Json

/-- A JSON value. -/
inductive Value where
  /-- The null value. -/
  | null
  /-- A truth value. -/
  | bool (b : Bool)
  /-- A number without fraction and exponent. -/
  | int (n : Int)
  /-- A number with a fraction or an exponent. -/
  | float (x : Binary64)
  /-- A text. -/
  | text (t : CodePoints)
  /-- An array. -/
  | array (items : List Value)
  /-- An object, its keys in order of first appearance. -/
  | object (fields : List (CodePoints × Value))
  deriving Repr, Inhabited

namespace Value

/-- The text value of a string. -/
def ofString (s : String) : Value := .text (.ofString s)

/-- The field of an object under a key. -/
def get? (v : Value) (key : String) : Option Value :=
  match v with
  | .object fields => Table.get? fields (CodePoints.ofString key)
  | _ => none

/-- The string of a text value, lone surrogates shown as U+FFFD. -/
def string? : Value → Option String
  | .text t => some t.shown
  | _ => none

/-- Whether a value counts as absent where an option may be left out: null, false, zero and
everything empty do. -/
def isVoid : Value → Bool
  | .null => true
  | .bool b => !b
  | .int n => n == 0
  | .float x => x.isFinite && x.significand == 0
  | .text t => t.points.isEmpty
  | .array items => items.isEmpty
  | .object fields => fields.isEmpty

/-- The name of a value's kind in messages. -/
def kind : Value → String
  | .null => "NoneType"
  | .bool _ => "bool"
  | .int _ => "int"
  | .float _ => "float"
  | .text _ => "str"
  | .array _ => "list"
  | .object _ => "dict"

/-- Floating point numbers in messages: an exponent part of at least two digits below `1e-4` and
from `1e16` on. -/
def decimals : DecimalLayout := ⟨-4, 16, 2⟩

mutual

/-- A value as messages show it. -/
def display : Value → String
  | .null => "None"
  | .bool b => if b then "True" else "False"
  | .int n => toString n
  | .float x => x.render decimals
  | .text t => Text.quote t
  | .array items => "[" ++ showItems items ++ "]"
  | .object fields => "\x7b" ++ showFields fields ++ "\x7d"

/-- The items of an array, separated by commas. -/
def showItems : List Value → String
  | [] => ""
  | [v] => v.display
  | v :: vs => v.display ++ ", " ++ showItems vs

/-- The fields of an object, separated by commas. -/
def showFields : List (CodePoints × Value) → String
  | [] => ""
  | [(k, v)] => Text.quote k ++ ": " ++ v.display
  | (k, v) :: fs => Text.quote k ++ ": " ++ v.display ++ ", " ++ showFields fs

end

end Value

end RouteLint.Json
