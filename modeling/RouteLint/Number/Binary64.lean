/-!
# Binary floating point numbers of 64 bits

A number with a fraction or an exponent is kept as the nearest binary floating point number of
64 bits, given by its bit pattern.  Decimals are rounded exactly, in natural number arithmetic:
to the nearest representable value, and to the one with the even significand when two are
equally near.

## Main definitions

* `Binary64` — a bit pattern.
* `Binary64.ofDecimal` — the number nearest to `± digits · 10 ^ exponent`.
* `Binary64.isNegative`, `Binary64.significand`, `Binary64.scale` — a finite number is
  `± significand · 2 ^ scale`.
* `Binary64.toInt?` — the integer a number is equal to.
-/

namespace RouteLint

/-- A power of two. -/
def twoPow (n : Nat) : Nat := Nat.pow 2 n

/-- A power of ten. -/
def tenPow (n : Nat) : Nat := Nat.pow 10 n

/-- A floating point number by its bit pattern. -/
structure Binary64 where
  /-- Sign, eleven bits of exponent, fifty-two bits of fraction. -/
  bits : Nat
  deriving DecidableEq, Repr, Inhabited

namespace Binary64

/-- The sign bit. -/
def isNegative (x : Binary64) : Bool := x.bits / twoPow 63 % 2 == 1

/-- The eleven bits of exponent. -/
def exponentBits (x : Binary64) : Nat := x.bits / twoPow 52 % 2048

/-- The fifty-two bits of fraction. -/
def fractionBits (x : Binary64) : Nat := x.bits % twoPow 52

/-- Neither infinite nor NaN. -/
def isFinite (x : Binary64) : Bool := x.exponentBits != 2047

/-- NaN. -/
def isNaN (x : Binary64) : Bool := x.exponentBits == 2047 && x.fractionBits != 0

/-- The significand of a finite number. -/
def significand (x : Binary64) : Nat :=
  if x.exponentBits = 0 then x.fractionBits else twoPow 52 + x.fractionBits

/-- The power of two a finite number's significand is scaled by. -/
def scale (x : Binary64) : Int :=
  if x.exponentBits = 0 then -1074 else Int.ofNat x.exponentBits - 1075

/-- The bit pattern of a sign. -/
def signBits (negative : Bool) : Nat := if negative then twoPow 63 else 0

/-- Infinity of a sign. -/
def infinity (negative : Bool) : Binary64 := ⟨signBits negative + 2047 * twoPow 52⟩

/-- NaN. -/
def nan : Binary64 := ⟨2047 * twoPow 52 + twoPow 51⟩

/-- The quotient `num / den` rounded to the nearest natural number, a half to the even one. -/
def roundDiv (num den : Nat) : Nat :=
  let q := num / den
  let r := num % den
  if 2 * r < den then q else if den < 2 * r then q + 1 else if q % 2 = 0 then q else q + 1

/-- The fraction `num / den` times `2 ^ -e`, rounded. -/
def scaled (num den : Nat) (e : Int) : Nat :=
  if 0 ≤ e then roundDiv num (den * twoPow e.toNat) else roundDiv (num * twoPow (-e).toNat) den

/-- The fraction `num / den` times `2 ^ -e`, rounded down. -/
def scaledDown (num den : Nat) (e : Int) : Nat :=
  if 0 ≤ e then num / (den * twoPow e.toNat) else num * twoPow (-e).toNat / den

/-- The number nearest to the positive fraction `num / den`. -/
def ofFraction (negative : Bool) (num den : Nat) : Binary64 :=
  let guess := Int.ofNat (Nat.log2 num) - Int.ofNat (Nat.log2 den) - 52
  let fit := if scaledDown num den guess < twoPow 52 then guess - 1 else guess
  let e := if fit < -1074 then -1074 else fit
  let n := scaled num den e
  let (n, e) := if n = twoPow 53 then (twoPow 52, e + 1) else (n, e)
  if e > 971 then infinity negative
  else if n < twoPow 52 then ⟨signBits negative + n⟩
  else ⟨signBits negative + (e + 1075).toNat * twoPow 52 + (n - twoPow 52)⟩

/-- The number nearest to `± digits · 10 ^ exponent`.  Values far outside the range are settled
before any power of ten is computed. -/
def ofDecimal (negative : Bool) (digits : Nat) (exponent : Int) : Binary64 :=
  if digits = 0 then ⟨signBits negative⟩
  else
    let magnitude := Int.ofNat (Nat.toDigits 10 digits).length + exponent
    if magnitude > 310 then infinity negative
    else if magnitude < -330 then ⟨signBits negative⟩
    else if 0 ≤ exponent then ofFraction negative (digits * tenPow exponent.toNat) 1
    else ofFraction negative digits (tenPow (-exponent).toNat)

/-- The integer a finite number is equal to, if there is one. -/
def toInt? (x : Binary64) : Option Int :=
  if !x.isFinite then none
  else
    let m := x.significand
    let e := x.scale
    let magnitude : Option Nat :=
      if 0 ≤ e then some (m * twoPow e.toNat)
      else if m % twoPow (-e).toNat = 0 then some (m / twoPow (-e).toNat)
      else none
    magnitude.map fun n => if x.isNegative then -Int.ofNat n else Int.ofNat n

end Binary64

end RouteLint
