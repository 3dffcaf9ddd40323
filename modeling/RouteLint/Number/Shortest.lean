import RouteLint.Number.Binary64

/-!
# Shortest decimals

The shortest decimal of a floating point number has the fewest digits among the decimals that
round to it, and among those of that length it is the nearest.  It is found by trying one digit,
then two, up to seventeen: on each decimal grid only the two neighbours of the number can qualify.

## Main definitions

* `Binary64.shortest` — digits and exponent of the shortest decimal.
* `DecimalLayout`, `Binary64.render` — how digits and exponent are laid out as text.
-/

namespace RouteLint

namespace Binary64

/-- `a · 2 ^ e` as a fraction. -/
def fractionOf (a : Nat) (e : Int) : Nat × Nat :=
  if 0 ≤ e then (a * twoPow e.toNat, 1) else (a, twoPow (-e).toNat)

/-- The reals that round to a number, as fractions over one denominator: the lower end, the number
itself, the upper end, the denominator, and whether the ends belong. -/
def rounding (x : Binary64) : Nat × Nat × Nat × Nat × Bool :=
  let m := x.significand
  let below := if m = twoPow 52 && 1 < x.exponentBits then 4 * m - 1 else 4 * m - 2
  let (value, den) := fractionOf (4 * m) (x.scale - 2)
  let (lower, _) := fractionOf below (x.scale - 2)
  let (upper, _) := fractionOf (4 * m + 2) (x.scale - 2)
  (lower, value, upper, den, m % 2 = 0)

/-- The exponent `k` with `10 ^ k ≤ num / den < 10 ^ (k + 1)`, searched downwards from `start`. -/
def decimalExponent (num den : Nat) : Nat → Int → Int
  | 0, k => k
  | fuel + 1, k =>
    let reached := if 0 ≤ k then den * tenPow k.toNat ≤ num else den ≤ num * tenPow (-k).toNat
    if reached then k else decimalExponent num den fuel (k - 1)

/-- A decimal of `count` digits that rounds to the number, if there is one: the neighbours of the
number on the grid with that many digits are tried, the nearer one first. -/
def decimalOf (lower value upper den : Nat) (closed : Bool) (k : Int) (count : Nat) :
    Option (Nat × Int) :=
  let unit := k - Int.ofNat count + 1
  -- all quantities are brought to the denominator `den · 10 ^ max 0 (-unit)`
  let lift := fun n : Nat => if 0 ≤ unit then n else n * tenPow (-unit).toNat
  let grid := if 0 ≤ unit then den * tenPow unit.toNat else den
  let (lower, value, upper) := (lift lower, lift value, lift upper)
  let down := value / grid
  let inside := fun n : Nat =>
    let p := n * grid
    if closed then lower ≤ p && p ≤ upper else lower < p && p < upper
  let toDown := value - down * grid
  let toUp := (down + 1) * grid - value
  let downFirst := toDown < toUp || (toDown == toUp && down % 2 == 0)
  let (first, second) := if downFirst then (down, down + 1) else (down + 1, down)
  if inside first then some (first, unit)
  else if inside second then some (second, unit)
  else none

/-- Digits and exponent of the shortest decimal of a positive finite number: the number is near
`digits · 10 ^ exponent`. -/
def shortest (x : Binary64) : Nat × Int :=
  let (lower, value, upper, den, closed) := x.rounding
  let k := decimalExponent value den 700 310
  let found := (List.range 17).findSome? fun i => decimalOf lower value upper den closed k (i + 1)
  found.getD (0, 0)

end Binary64

/-- How a decimal is laid out. -/
structure DecimalLayout where
  /-- The least exponent of the first digit that is written without an exponent part. -/
  leastPositional : Int
  /-- The first exponent of the first digit that is written with an exponent part again. -/
  leastScientific : Int
  /-- The least number of digits of the exponent part. -/
  exponentWidth : Nat
  deriving Repr

namespace Binary64

/-- Drop the zeros at the end of a number, counting them into the exponent. -/
def trimZeros : Nat → Nat → Int → Nat × Int
  | 0, n, e => (n, e)
  | fuel + 1, n, e => if n % 10 = 0 && n != 0 then trimZeros fuel (n / 10) (e + 1) else (n, e)

/-- The text of digits and exponent in a layout. -/
def layOut (layout : DecimalLayout) (n : Nat) (exponent : Int) : String :=
  let (n, exponent) := trimZeros 400 n exponent
  let digits := Nat.toDigits 10 n
  let count := Int.ofNat digits.length
  let lead := exponent + count - 1
  if layout.leastPositional ≤ lead && lead < layout.leastScientific then
    let point := lead + 1
    if point ≤ 0 then
      "0." ++ String.ofList (List.replicate (-point).toNat '0' ++ digits)
    else if count ≤ point then
      String.ofList (digits ++ List.replicate (point - count).toNat '0') ++ ".0"
    else
      String.ofList (digits.take point.toNat) ++ "." ++ String.ofList (digits.drop point.toNat)
  else
    let mantissa :=
      match digits with
      | d :: rest@(_ :: _) => String.ofList (d :: '.' :: rest)
      | ds => String.ofList ds
    let power := Nat.toDigits 10 lead.natAbs
    let sign := if lead < 0 then "-" else "+"
    let zeros := List.replicate (layout.exponentWidth - power.length) '0'
    mantissa ++ "e" ++ sign ++ String.ofList (zeros ++ power)

/-- The text of a number: its shortest decimal in a layout. -/
def render (layout : DecimalLayout) (x : Binary64) : String :=
  let sign := if x.isNegative then "-" else ""
  if x.isNaN then "nan"
  else if !x.isFinite then sign ++ "inf"
  else if x.significand = 0 then sign ++ "0.0"
  else
    let (n, e) := x.shortest
    sign ++ layOut layout n e

end Binary64

end RouteLint
