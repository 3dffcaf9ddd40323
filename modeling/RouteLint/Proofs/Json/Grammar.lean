import Mathlib.Data.Bool.AllAny
import Mathlib.Data.Nat.Digits.Defs
import RouteLint.Json.Reader
import RouteLint.Proofs.Data.Table

/-!
# The grammar of JSON with comments

What a document looks like and what value it denotes, said without reading it: a text is split into
pieces, and each piece is of a kind.  Blanks and comments may stand between any two tokens.  Commas
separate the items of arrays and the fields of objects; besides, one comma may be left over at the
end of an object, of an array with at most one item, and of the document.

## Main definitions

* `Gap`, `Ending` — what stands between tokens, and after the last one.
* `IsNumber`, `IsText` — tokens, with what they denote.
* `IsValue`, `IsItems`, `IsField`, `IsFields` — values, and the insides of arrays and objects.
* `IsDocument` — documents.
-/

namespace RouteLint.Json

/-! ### Blanks and comments -/

/-- The characters that may stand between tokens. -/
def blanks : List Char := [' ', '\t', '\n', '\x0b', '\x0c', '\r']

/-- What may stand between two tokens: blanks and comments, the last of which has come to its
end. -/
inductive Gap : List Char → Prop
  | nil : Gap []
  | blank {c : Char} {g : List Char} (hc : c ∈ blanks) (hg : Gap g) : Gap (c :: g)
  | line {body g : List Char} (hbody : '\n' ∉ body) (hg : Gap g) :
    Gap ('/' :: '/' :: (body ++ '\n' :: g))
  /-- A comment in marks ends where its closing mark first stands. -/
  | block {body g : List Char} (hbody : ¬['*', '/'] <:+: body ++ ['*']) (hg : Gap g) :
    Gap ('/' :: '*' :: (body ++ '*' :: '/' :: g))

/-- What may stand after the last token: there a comment may also end with the text. -/
inductive Ending : List Char → Prop
  | gap {g : List Char} (hg : Gap g) : Ending g
  | line {g body : List Char} (hg : Gap g) (hbody : '\n' ∉ body) :
    Ending (g ++ '/' :: '/' :: body)

/-! ### Numbers -/

/-- Digits, and at least one of them. -/
def IsDigits (ds : List Char) : Prop := ds ≠ [] ∧ ∀ d ∈ ds, d.isDigit = true

/-- The number that digits write. -/
def digitsValue (ds : List Char) : Nat := Nat.ofDigits 10 (ds.reverse.map fun d => d.toNat - 48)

/-- A sign, and whether it makes a number negative. -/
inductive IsSign : List Char → Bool → Prop
  | none : IsSign [] false
  | minus : IsSign ['-'] true

/-- A whole number without a sign: a zero alone, or digits that start with another. -/
inductive IsWhole : List Char → Prop
  | zero : IsWhole ['0']
  | digits {d : Char} {ds : List Char} (hd : d ≠ '0') (hds : IsDigits (d :: ds)) :
    IsWhole (d :: ds)

/-- A fraction, and its digits. -/
inductive IsFraction : List Char → List Char → Prop
  | none : IsFraction [] []
  | digits {ds : List Char} (hds : IsDigits ds) : IsFraction ('.' :: ds) ds

/-- An exponent, and its value; it has no plus sign. -/
inductive IsExponent : List Char → Int → Prop
  | none : IsExponent [] 0
  | plain {e : Char} {ds : List Char} (he : e = 'e' ∨ e = 'E') (hds : IsDigits ds) :
    IsExponent (e :: ds) (digitsValue ds)
  | minus {e : Char} {ds : List Char} (he : e = 'e' ∨ e = 'E') (hds : IsDigits ds) :
    IsExponent (e :: '-' :: ds) (-digitsValue ds)

/-- A number: an integer, or a decimal fraction rounded to the nearest floating point number. -/
inductive IsNumber : List Char → Value → Prop
  | int {s ds : List Char} {negative : Bool} (hs : IsSign s negative) (hds : IsWhole ds) :
    IsNumber (s ++ ds) (.int (if negative then -digitsValue ds else digitsValue ds))
  | float {s ds f fs x : List Char} {negative : Bool} {e : Int} (hs : IsSign s negative)
    (hds : IsWhole ds) (hf : IsFraction f fs) (hx : IsExponent x e) (hfx : f ++ x ≠ []) :
    IsNumber (s ++ ds ++ f ++ x)
      (.float (.ofDecimal negative (digitsValue (ds ++ fs)) (e - fs.length)))

/-! ### Texts -/

/-- The letters that may follow a backslash, with the code points that they stand for. -/
def escapes : List (Char × Nat) :=
  [('"', 0x22), ('\\', 0x5C), ('/', 0x2F), ('b', 0x08), ('f', 0x0C), ('n', 0x0A), ('r', 0x0D),
    ('t', 0x09)]

/-- The inside of a text, and the code units that it spells. -/
inductive IsBody : List Char → List Nat → Prop
  | nil : IsBody [] []
  | plain {c : Char} {cs : List Char} {us : List Nat} (hquote : c ≠ '"') (hslash : c ≠ '\\')
    (hc : 0x20 ≤ c.toNat) (h : IsBody cs us) : IsBody (c :: cs) (c.toNat :: us)
  | letter {c : Char} {n : Nat} {cs : List Char} {us : List Nat} (hc : (c, n) ∈ escapes)
    (h : IsBody cs us) : IsBody ('\\' :: c :: cs) (n :: us)
  | unit {a b c d : Char} {n : Nat} {cs : List Char} {us : List Nat}
    (hn : hexQuad? a b c d = some n) (h : IsBody cs us) :
    IsBody ('\\' :: 'u' :: a :: b :: c :: d :: cs) (n :: us)

/-- The first half of a surrogate pair. -/
def IsHigh (n : Nat) : Prop := 0xD800 ≤ n ∧ n ≤ 0xDBFF

/-- The second half of a surrogate pair. -/
def IsLow (n : Nat) : Prop := 0xDC00 ≤ n ∧ n ≤ 0xDFFF

/-- Code units, and the code points that they make: two halves that stand together make one. -/
inductive Joins : List Nat → List Nat → Prop
  | nil : Joins [] []
  | pair {a b : Nat} {us ps : List Nat} (ha : IsHigh a) (hb : IsLow b) (h : Joins us ps) :
    Joins (a :: b :: us) ((0x10000 + (a - 0xD800) * 0x400 + (b - 0xDC00)) :: ps)
  | single {a : Nat} {us ps : List Nat} (ha : IsHigh a → ∀ b ∈ us.head?, ¬IsLow b)
    (h : Joins us ps) : Joins (a :: us) (a :: ps)

/-- A text in quotes, and what it denotes. -/
inductive IsText : List Char → CodePoints → Prop
  | mk {cs : List Char} {us ps : List Nat} (h : IsBody cs us) (hps : Joins us ps) :
    IsText ('"' :: (cs ++ ['"'])) ⟨ps⟩

/-! ### Values -/

/-- A comma that is left over, with what follows it; or nothing. -/
inductive IsStray : List Char → Prop
  | none : IsStray []
  | comma {g : List Char} (hg : Gap g) : IsStray (',' :: g)

/-- The table that fields make: a key stands where it first appears, and has the value that it is
given last. -/
structure Collects (fs : List (CodePoints × Value)) (t : Table CodePoints Value) : Prop where
  keys : t.keys = once (fs.map Prod.fst)
  get? : ∀ k, t.get? k = Table.last? fs k

mutual

/-- A value, and what it denotes. -/
inductive IsValue : List Char → Value → Prop
  | nullWord : IsValue ['n', 'u', 'l', 'l'] .null
  | trueWord : IsValue ['t', 'r', 'u', 'e'] (.bool true)
  | falseWord : IsValue ['f', 'a', 'l', 's', 'e'] (.bool false)
  | number {cs : List Char} {v : Value} (h : IsNumber cs v) : IsValue cs v
  | text {cs : List Char} {t : CodePoints} (h : IsText cs t) : IsValue cs (.text t)
  | emptyArray {g s : List Char} (hg : Gap g) (hs : IsStray s) :
    IsValue ('[' :: (g ++ s ++ [']'])) (.array [])
  /-- Only an array with one item may have a comma left over. -/
  | singleton {l cs r s : List Char} {v : Value} (hl : Gap l) (h : IsValue cs v) (hr : Gap r)
    (hs : IsStray s) : IsValue ('[' :: (l ++ cs ++ r ++ s ++ [']'])) (.array [v])
  | array {cs : List Char} {vs : List Value} (h : IsItems cs vs) :
    IsValue ('[' :: (cs ++ [']'])) (.array vs)
  | emptyObject {g s : List Char} (hg : Gap g) (hs : IsStray s) :
    IsValue ('\x7b' :: (g ++ s ++ ['\x7d'])) (.object [])
  | object {cs s : List Char} {fs : List (CodePoints × Value)} {t : Table CodePoints Value}
    (h : IsFields cs fs) (hs : IsStray s) (ht : Collects fs t) :
    IsValue ('\x7b' :: (cs ++ s ++ ['\x7d'])) (.object t)

/-- The items of an array with commas between them, at least one. -/
inductive IsItems : List Char → List Value → Prop
  | one {l cs r : List Char} {v : Value} (hl : Gap l) (h : IsValue cs v) (hr : Gap r) :
    IsItems (l ++ cs ++ r) [v]
  | cons {l cs r rest : List Char} {v : Value} {vs : List Value} (hl : Gap l) (h : IsValue cs v)
    (hr : Gap r) (hrest : IsItems rest vs) : IsItems (l ++ cs ++ r ++ ',' :: rest) (v :: vs)

/-- A field of an object: a text, a colon and a value. -/
inductive IsField : List Char → CodePoints → Value → Prop
  | mk {key l r cs : List Char} {k : CodePoints} {v : Value} (hk : IsText key k) (hl : Gap l)
    (hr : Gap r) (h : IsValue cs v) : IsField (key ++ l ++ ':' :: (r ++ cs)) k v

/-- The fields of an object with commas between them, at least one. -/
inductive IsFields : List Char → List (CodePoints × Value) → Prop
  | one {l cs r : List Char} {k : CodePoints} {v : Value} (hl : Gap l) (h : IsField cs k v)
    (hr : Gap r) : IsFields (l ++ cs ++ r) [(k, v)]
  | cons {l cs r rest : List Char} {k : CodePoints} {v : Value} {fs : List (CodePoints × Value)}
    (hl : Gap l) (h : IsField cs k v) (hr : Gap r) (hrest : IsFields rest fs) :
    IsFields (l ++ cs ++ r ++ ',' :: rest) ((k, v) :: fs)

end

/-- What may stand after the value of a document: also a comma that is left over. -/
inductive IsRest : List Char → Prop
  | ending {e : List Char} (he : Ending e) : IsRest e
  | comma {g e : List Char} (hg : Gap g) (he : Ending e) : IsRest (g ++ ',' :: e)

/-- A document: one value, and what it denotes.  A byte order mark may stand before it. -/
inductive IsDocument : List Char → Value → Prop
  | mk {mark g cs rest : List Char} {v : Value} (hmark : mark = [] ∨ mark = ['\uFEFF'])
    (hg : Gap g) (h : IsValue cs v) (hrest : IsRest rest) :
    IsDocument (mark ++ g ++ cs ++ rest) v

end RouteLint.Json
