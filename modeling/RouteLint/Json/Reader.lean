import RouteLint.Json.Value

/-!
# Reading JSON with comments

Configuration files are JSON with `//` and `/* */` comments, and they may hold stray commas in a
few places: one after the last field of an object, one after the only item of an array, a lone
one in an empty object or array, and one after the document.

Reading goes in two stages.  The first finds the structure and leaves names, texts and numbers as
they are written; a document that has no structure is malformed.  The second works out what the
written texts and numbers denote, and can still fail: a text may hold a control character or an
incomplete escape, and a number may end in a bare point.

## Main definitions

* `Json.skip` — blanks and comments.
* `Json.Raw` — the structure of a document, its tokens as they are written.
* `Json.document` — the first stage.
* `Json.Raw.toValue` — the second stage.
* `Json.read` — a text to its value; `Json.isWellFormed` — structure without stray commas.
* `Json.ReadError.message` — the wording of errors.
-/

namespace RouteLint.Json

/-! ### Errors -/

/-- What is wrong with a text or number whose extent is clear.  Positions count characters from
the start of the token. -/
inductive TokenError where
  /-- A text holds a control character. -/
  | controlCharacter (position : Nat)
  /-- Four hexadecimal digits are missing after `\u`. -/
  | incompleteEscape (position : Nat)
  /-- The token goes on after a complete number. -/
  | extraData (position : Nat)
  deriving DecidableEq, Repr

/-- Why a document cannot be read. -/
inductive ReadError where
  /-- The document has no structure. -/
  | malformed
  /-- There is no value. -/
  | empty
  /-- There is more than one value. -/
  | several
  /-- A text or number denotes nothing. -/
  | token (e : TokenError)
  deriving DecidableEq, Repr

/-- The wording of a token error. -/
def TokenError.message : TokenError → String
  | .controlCharacter p => s!"Invalid control character at: line 1 column {p + 1} (char {p})"
  | .incompleteEscape p => s!"Invalid \\uXXXX escape: line 1 column {p + 1} (char {p})"
  | .extraData p => s!"Extra data: line 1 column {p + 1} (char {p})"

/-- The wording of an error. -/
def ReadError.message : ReadError → String
  | .malformed => "Malformed JSON"
  | .empty => "Empty JSON document"
  | .several => "JSON document has more than one top-level value"
  | .token e => e.message

/-! ### Blanks and comments -/

/-- The blanks between tokens. -/
def isSpace (c : Char) : Bool := c == ' ' || (9 ≤ c.toNat && c.toNat ≤ 13)

/-- Where skipping stands: between tokens, in a comment that ends with its line, or in a comment
that began at `start` and ends with `*/`. -/
inductive Skipping where
  /-- Between tokens. -/
  | between
  /-- In a comment that ends with its line. -/
  | line
  /-- In a comment that ends with `*/`. -/
  | block (start : List Char)

/-- Skip from a given state.  A block comment that is never closed is not skipped. -/
def skipFrom : Skipping → List Char → List Char
  | .between, [] => []
  | .between, '/' :: '/' :: cs => skipFrom .line cs
  | .between, '/' :: '*' :: cs => skipFrom (.block ('/' :: '*' :: cs)) cs
  | .between, c :: cs => if isSpace c then skipFrom .between cs else c :: cs
  | .line, [] => []
  | .line, c :: cs => if c = '\n' then skipFrom .between cs else skipFrom .line cs
  | .block start, [] => start
  | .block _, '*' :: '/' :: cs => skipFrom .between cs
  | .block start, _ :: cs => skipFrom (.block start) cs

/-- The text after blanks and comments. -/
def skip (cs : List Char) : List Char := skipFrom .between cs

/-! ### Tokens -/

/-- The characters that may follow a backslash. -/
def isEscapable (c : Char) : Bool :=
  ['"', '\\', '/', 'b', 'f', 'n', 'r', 't', 'u'].contains c

/-- The body of a text up to its closing quote, and what follows.  A line end closes the body;
only blanks and comments may stand between it and the quote. -/
def textBody : List Char → Option (List Char × List Char)
  | [] => none
  | '"' :: cs => some ([], cs)
  | '\\' :: c :: cs =>
    if isEscapable c then (textBody cs).map fun (b, r) => ('\\' :: c :: b, r) else none
  | '\n' :: cs =>
    match skip cs with
    | '"' :: r => some (['\n'], r)
    | _ => none
  | c :: cs => if c = '\\' then none else (textBody cs).map fun (b, r) => (c :: b, r)

/-- The digits at the front, and what follows. -/
def digits (cs : List Char) : List Char × List Char := cs.span Char.isDigit

/-- The whole part of a number: one zero, or digits that start with another. -/
def wholePart : List Char → Option (List Char × List Char)
  | '0' :: cs => some (['0'], cs)
  | cs =>
    match digits cs with
    | ([], _) => none
    | found => some found

/-- The point and fraction of a number, the fraction possibly empty. -/
def fractionPart : List Char → List Char × List Char
  | '.' :: cs => let (ds, r) := digits cs; ('.' :: ds, r)
  | cs => ([], cs)

/-- The exponent of a number; it has no plus sign.  Nothing is read if its digits are missing. -/
def exponentPart (cs : List Char) : List Char × List Char :=
  let (sign, body) :=
    match cs with
    | e :: '-' :: r => ([e, '-'], r)
    | e :: r => ([e], r)
    | [] => ([], [])
  match sign, digits body with
  | e :: _, (d :: ds, r) => if e = 'e' || e = 'E' then (sign ++ d :: ds, r) else ([], cs)
  | _, _ => ([], cs)

/-- A number as it is written, and what follows. -/
def number (cs : List Char) : Option (List Char × List Char) :=
  let (sign, body) :=
    match cs with
    | '-' :: r => (['-'], r)
    | _ => ([], cs)
  (wholePart body).map fun (whole, r₁) =>
    let (fraction, r₂) := fractionPart r₁
    let (exponent, r₃) := exponentPart r₂
    (sign ++ whole ++ fraction ++ exponent, r₃)

/-! ### Structure -/

/-- The structure of a document: texts and numbers are kept as they are written. -/
inductive Raw where
  /-- One of the words `true`, `false` and `null`. -/
  | word (v : Value)
  /-- A number. -/
  | number (written : List Char)
  /-- The body of a text. -/
  | text (body : List Char)
  /-- An array. -/
  | array (items : List Raw)
  /-- An object, each field with the body of its key. -/
  | object (fields : List (List Char × Raw))
  deriving Inhabited

/-- What follows a word at the front of a text. -/
def afterWord (word : String) (cs : List Char) : Option (List Char) :=
  if word.toList.isPrefixOf cs then some (cs.drop word.length) else none

/-- A value that is no object and no array. -/
def scalar (cs : List Char) : Option (Raw × List Char) :=
  match cs with
  | '"' :: r => (textBody r).map fun (b, r) => (.text b, r)
  | _ =>
    match number cs with
    | some (n, r) => some (.number n, r)
    | none =>
      match afterWord "true" cs, afterWord "false" cs, afterWord "null" cs with
      | some r, _, _ => some (.word (.bool true), r)
      | _, some r, _ => some (.word (.bool false), r)
      | _, _, some r => some (.word .null, r)
      | _, _, _ => none

/-- What follows a closing bracket, with a stray comma before it if `stray` allows one. -/
def closing (stray : Bool) (bracket : Char) (cs : List Char) : Option (List Char) :=
  match cs with
  | c :: r =>
    if c = bracket then some r
    else if c = ',' && stray then
      match skip r with
      | d :: r' => if d = bracket then some r' else none
      | [] => none
    else none
  | [] => none

mutual

/-- A value at the front of a text, and what follows.  Every step down or on takes one from
`fuel`, and consumes a character. -/
def value (stray : Bool) : Nat → List Char → Option (Raw × List Char)
  | 0, _ => none
  | fuel + 1, cs =>
    match cs with
    | '[' :: r =>
      match closing stray ']' (skip r) with
      | some r' => some (.array [], r')
      | none => do
        let (v, r₁) ← value stray fuel (skip r)
        match closing stray ']' (skip r₁) with
        | some r' => some (.array [v], r')
        | none => do
          let (vs, r₂) ← itemsAfter stray fuel (skip r₁)
          some (.array (v :: vs), r₂)
    | '\x7b' :: r =>
      match closing stray '\x7d' (skip r) with
      | some r' => some (.object [], r')
      | none => do
        let (fs, r₁) ← fields stray fuel (skip r)
        some (.object fs, r₁)
    | _ => scalar cs

/-- The items of an array after its first, up to the closing bracket. -/
def itemsAfter (stray : Bool) : Nat → List Char → Option (List Raw × List Char)
  | 0, _ => none
  | fuel + 1, cs =>
    match cs with
    | ']' :: r => some ([], r)
    | ',' :: r => do
      let (v, r₁) ← value stray fuel (skip r)
      let (vs, r₂) ← itemsAfter stray fuel (skip r₁)
      some (v :: vs, r₂)
    | _ => none

/-- The fields of an object, up to the closing bracket. -/
def fields (stray : Bool) : Nat → List Char → Option (List (List Char × Raw) × List Char)
  | 0, _ => none
  | fuel + 1, cs =>
    match cs with
    | '"' :: r => do
      let (key, r₁) ← textBody r
      match skip r₁ with
      | ':' :: r₂ => do
        let (v, r₃) ← value stray fuel (skip r₂)
        match closing stray '\x7d' (skip r₃) with
        | some r₄ => some ([(key, v)], r₄)
        | none =>
          match skip r₃ with
          | ',' :: r₄ => do
            let (fs, r₅) ← fields stray fuel (skip r₄)
            some ((key, v) :: fs, r₅)
          | _ => none
      | _ => none
    | _ => none

end

/-- The values of a document up to its end. -/
def values (stray : Bool) : Nat → List Char → Option (List Raw)
  | 0, _ => none
  | _ + 1, [] => some []
  | _ + 1, ',' :: r => if stray && (skip r).isEmpty then some [] else none
  | fuel + 1, cs => do
    let (v, r) ← value stray fuel cs
    let vs ← values stray fuel (skip r)
    some (v :: vs)

/-- A text without a byte order mark at its front. -/
def dropMark : List Char → List Char
  | c :: cs => if c = '\uFEFF' then cs else c :: cs
  | [] => []

/-- The values of a document.  No document has more values, or deeper ones, than characters. -/
def document (stray : Bool) (cs : List Char) : Option (List Raw) :=
  values stray (cs.length + 2) (skip (dropMark cs))

/-! ### Values -/

/-- The digit a character stands for in hexadecimal. -/
def hexDigit? (c : Char) : Option Nat :=
  if '0' ≤ c && c ≤ '9' then some (c.toNat - '0'.toNat)
  else if 'a' ≤ c && c ≤ 'f' then some (c.toNat - 'a'.toNat + 10)
  else if 'A' ≤ c && c ≤ 'F' then some (c.toNat - 'A'.toNat + 10)
  else none

/-- Four hexadecimal digits as a number. -/
def hexQuad? (a b c d : Char) : Option Nat := do
  some ((((← hexDigit? a) * 16 + (← hexDigit? b)) * 16 + (← hexDigit? c)) * 16 + (← hexDigit? d))

/-- The code point a one-letter escape stands for. -/
def escaped (c : Char) : Nat :=
  if c = 'b' then 8 else if c = 'f' then 12 else if c = 'n' then 10
  else if c = 'r' then 13 else if c = 't' then 9 else c.toNat

/-- The code points of a text body, escapes replaced; `position` is where it stands in its
token. -/
def unescape : Nat → List Char → Except TokenError (List Nat)
  | _, [] => .ok []
  | p, '\\' :: 'u' :: a :: b :: c :: d :: cs =>
    match hexQuad? a b c d with
    | some n => (n :: ·) <$> unescape (p + 6) cs
    | none => .error (.incompleteEscape (p + 1))
  | p, '\\' :: 'u' :: _ => .error (.incompleteEscape (p + 1))
  | p, '\\' :: c :: cs => (escaped c :: ·) <$> unescape (p + 2) cs
  | p, c :: cs =>
    if c.toNat < 0x20 then .error (.controlCharacter p)
    else (c.toNat :: ·) <$> unescape (p + 1) cs

/-- Join the halves of surrogate pairs. -/
def joinSurrogates : List Nat → List Nat
  | [] => []
  | [a] => [a]
  | a :: b :: r =>
    if 0xD800 ≤ a && a ≤ 0xDBFF && 0xDC00 ≤ b && b ≤ 0xDFFF then
      (0x10000 + (a - 0xD800) * 0x400 + (b - 0xDC00)) :: joinSurrogates r
    else a :: joinSurrogates (b :: r)

/-- The text a body denotes. -/
def textOf (body : List Char) : Except TokenError CodePoints :=
  (fun ns => ⟨joinSurrogates ns⟩) <$> unescape 1 body

/-- The number a list of decimal digits denotes. -/
def natOf (ds : List Char) : Nat := ds.foldl (fun n d => n * 10 + (d.toNat - '0'.toNat)) 0

/-- The number an exponent denotes, its letter dropped; either sign may be written. -/
def exponentOf : List Char → Int
  | '-' :: ds => -Int.ofNat (natOf ds)
  | '+' :: ds => Int.ofNat (natOf ds)
  | ds => Int.ofNat (natOf ds)

/-- The value a written number denotes.  With neither fraction nor exponent it is an integer. -/
def numberOf (written : List Char) : Except TokenError Value :=
  let (negative, body) :=
    match written with
    | '-' :: r => (true, r)
    | _ => (false, written)
  let (whole, r) := digits body
  let signed := fun n : Nat => if negative then -Int.ofNat n else Int.ofNat n
  match r with
  | [] => .ok (.int (signed (natOf whole)))
  | '.' :: r₁ =>
    match digits r₁ with
    | ([], _) => .error (.extraData (whole.length + if negative then 1 else 0))
    | (fraction, r₂) =>
      let exponent := exponentOf (r₂.drop 1) - Int.ofNat fraction.length
      .ok (.float (.ofDecimal negative (natOf (whole ++ fraction)) exponent))
  | _ :: r₁ => .ok (.float (.ofDecimal negative (natOf whole) (exponentOf r₁)))

mutual

/-- The value a document's structure denotes. -/
def Raw.toValue : Raw → Except TokenError Value
  | .word v => .ok v
  | .number written => numberOf written
  | .text body => .text <$> textOf body
  | .array items => .array <$> itemValues items
  | .object fields => (fun t => .object t) <$> fieldValues [] fields

/-- The values of the items of an array. -/
def itemValues : List Raw → Except TokenError (List Value)
  | [] => .ok []
  | r :: rs => do
    let v ← r.toValue
    let vs ← itemValues rs
    return v :: vs

/-- The fields of an object, written over those before them.  A field's value is worked out
before its key. -/
def fieldValues (before : Table CodePoints Value) :
    List (List Char × Raw) → Except TokenError (Table CodePoints Value)
  | [] => .ok before
  | (key, r) :: fs => do
    let v ← r.toValue
    let k ← textOf key
    fieldValues (Table.set before k v) fs

end

/-! ### Documents -/

/-- The value of a document with comments, on characters. -/
def readChars (cs : List Char) : Except ReadError Value :=
  match document true cs with
  | none => .error .malformed
  | some [] => .error .empty
  | some [r] => r.toValue.mapError .token
  | some _ => .error .several

/-- The value of a document with comments. -/
def read (s : String) : Except ReadError Value := readChars s.toList

/-- Whether a text is a sequence of values without stray commas. -/
def isWellFormed (cs : List Char) : Bool := (document false cs).isSome

end RouteLint.Json
