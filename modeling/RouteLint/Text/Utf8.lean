/-!
# UTF-8

Files are lists of bytes.  This module reads characters off the front of such a list and says
what is wrong with bytes that are not UTF-8: which bytes, and whether the first of them starts no
character, a later one does not continue it, or the data ends inside it.

## Main definitions

* `Bytes` — the content of a file.
* `Utf8.next` — one step of reading.
* `Utf8.decode` — the text of a file, or the first fault in it.
* `Utf8.decodeLossy` — the text with U+FFFD in place of each faulty stretch.
* `Utf8.Fault.message` — the wording of a fault.
-/

namespace RouteLint

/-- The content of a file. -/
abbrev Bytes := List UInt8

namespace Utf8

/-- What is wrong with a stretch of bytes. -/
inductive Cause where
  /-- The first byte starts no character. -/
  | invalidStart
  /-- A byte after the first does not continue the character. -/
  | invalidContinuation
  /-- The data ends inside a character. -/
  | unexpectedEnd
  deriving DecidableEq, Repr

/-- A stretch of bytes that is no character: where it starts, its first byte and how many bytes
it has. -/
structure Fault where
  /-- Offset of the first byte of the stretch. -/
  position : Nat
  /-- The first byte. -/
  first : UInt8
  /-- How many bytes belong to the stretch. -/
  width : Nat
  /-- What is wrong. -/
  cause : Cause
  deriving DecidableEq, Repr

/-- The wording of a cause. -/
def Cause.message : Cause → String
  | .invalidStart => "invalid start byte"
  | .invalidContinuation => "invalid continuation byte"
  | .unexpectedEnd => "unexpected end of data"

/-- A byte in two hexadecimal digits. -/
def hexByte (b : UInt8) : String :=
  let digits := Nat.toDigits 16 b.toNat
  String.ofList (if digits.length < 2 then '0' :: digits else digits)

/-- The wording of a fault. -/
def Fault.message (f : Fault) : String :=
  if f.width = 1 then
    s!"'utf-8' codec can't decode byte 0x{hexByte f.first} in position {f.position}: {f.cause.message}"
  else
    let last := f.position + f.width - 1
    s!"'utf-8' codec can't decode bytes in position {f.position}-{last}: {f.cause.message}"

/-- One step of reading. -/
inductive Step where
  /-- Nothing is left. -/
  | done
  /-- A character and the bytes after it. -/
  | char (c : Char) (rest : Bytes)
  /-- A faulty stretch of the given width and the bytes after it. -/
  | fault (first : UInt8) (width : Nat) (cause : Cause) (rest : Bytes)

/-- A byte that can stand after the first of a character. -/
def isTail (b : UInt8) : Bool := 0x80 ≤ b && b ≤ 0xBF

/-- The payload of a byte after the first. -/
def tailBits (b : UInt8) : Nat := b.toNat - 0x80

/-- Whether `b` can be the second byte after the first byte `a` of a character of three or four
bytes; this keeps out surrogates, overlong forms and values beyond the last code point. -/
def isSecond (a b : UInt8) : Bool :=
  isTail b &&
    (if a == 0xE0 then 0xA0 ≤ b
     else if a == 0xED then b ≤ 0x9F
     else if a == 0xF0 then 0x90 ≤ b
     else if a == 0xF4 then b ≤ 0x8F
     else true)

/-- Read a character of three bytes after its first byte `a`. -/
def nextThree (a : UInt8) : Bytes → Step
  | [] => .fault a 1 .unexpectedEnd []
  | b :: r₁ =>
    if !isSecond a b then .fault a 1 .invalidContinuation (b :: r₁)
    else
      match r₁ with
      | [] => .fault a 2 .unexpectedEnd []
      | c :: r₂ =>
        if !isTail c then .fault a 2 .invalidContinuation (c :: r₂)
        else .char (Char.ofNat ((a.toNat - 0xE0) * 4096 + tailBits b * 64 + tailBits c)) r₂

/-- Read a character of four bytes after its first byte `a`. -/
def nextFour (a : UInt8) : Bytes → Step
  | [] => .fault a 1 .unexpectedEnd []
  | b :: r₁ =>
    if !isSecond a b then .fault a 1 .invalidContinuation (b :: r₁)
    else
      match r₁ with
      | [] => .fault a 2 .unexpectedEnd []
      | c :: r₂ =>
        if !isTail c then .fault a 2 .invalidContinuation (c :: r₂)
        else
          match r₂ with
          | [] => .fault a 3 .unexpectedEnd []
          | d :: r₃ =>
            if !isTail d then .fault a 3 .invalidContinuation (d :: r₃)
            else
              .char (Char.ofNat ((a.toNat - 0xF0) * 262144 + tailBits b * 4096 +
                tailBits c * 64 + tailBits d)) r₃

/-- Read one character, or one faulty stretch, off the front. -/
def next : Bytes → Step
  | [] => .done
  | a :: r =>
    if a < 0x80 then .char (Char.ofNat a.toNat) r
    else if a < 0xC2 then .fault a 1 .invalidStart r
    else if a < 0xE0 then
      match r with
      | [] => .fault a 1 .unexpectedEnd []
      | b :: r₁ =>
        if !isTail b then .fault a 1 .invalidContinuation (b :: r₁)
        else .char (Char.ofNat ((a.toNat - 0xC0) * 64 + tailBits b)) r₁
    else if a < 0xF0 then nextThree a r
    else if a < 0xF5 then nextFour a r
    else .fault a 1 .invalidStart r

/-- The length in bytes of a character of the text. -/
def width (c : Char) : Nat := c.utf8Size

/-- Read at most `fuel` characters, `position` bytes into the file. -/
def decodeFrom : Nat → Nat → Bytes → Except Fault (List Char)
  | 0, _, _ => .ok []
  | fuel + 1, position, bytes =>
    match next bytes with
    | .done => .ok []
    | .char c rest => (c :: ·) <$> decodeFrom fuel (position + width c) rest
    | .fault first w cause _ => .error ⟨position, first, w, cause⟩

/-- The characters of a file, or its first fault.  A file has no more characters than bytes. -/
def decodeChars (bytes : Bytes) : Except Fault (List Char) :=
  decodeFrom bytes.length 0 bytes

/-- The text of a file, or its first fault. -/
def decode (bytes : Bytes) : Except Fault String :=
  String.ofList <$> decodeChars bytes

/-- Read at most `fuel` characters, with U+FFFD in place of each faulty stretch. -/
def decodeLossyFrom : Nat → Bytes → List Char
  | 0, _ => []
  | fuel + 1, bytes =>
    match next bytes with
    | .done => []
    | .char c rest => c :: decodeLossyFrom fuel rest
    | .fault _ _ _ rest => '\uFFFD' :: decodeLossyFrom fuel rest

/-- The characters of a file, with U+FFFD in place of each faulty stretch. -/
def decodeLossy (bytes : Bytes) : List Char := decodeLossyFrom bytes.length bytes

/-- The bytes of a list of characters. -/
def encodeChars (cs : List Char) : Bytes := cs.flatMap String.utf8EncodeChar

/-- The bytes of a text. -/
def encode (s : String) : Bytes := encodeChars s.toList

/-- A text with every line ending, `\r\n`, `\r` or `\n`, written as `\n`. -/
def unifyNewlines : List Char → List Char
  | [] => []
  | '\r' :: '\n' :: cs => '\n' :: unifyNewlines cs
  | '\r' :: cs => '\n' :: unifyNewlines cs
  | c :: cs => c :: unifyNewlines cs

end Utf8

end RouteLint
