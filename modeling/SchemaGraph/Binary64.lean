/-!
# Finite binary floating point numbers

A `Binary64` is a finite number of the 64-bit interchange format, kept as a sign, a significand
and a power of two. `nearest` rounds a decimal to it, ties going to the even significand, and
`shortest` finds the fewest decimal digits that round back, nearest to the exact value among those.
`mul?` and `div?` round the exact result once. All arithmetic is on natural numbers.
-/

namespace SchemaGraph

/-- The number `significand * 2 ^ exponent`, negated when `negative` holds. The significand is
below `2 ^ 53`, the exponent at least `-1074`, and the significand is at least `2 ^ 52` unless the
exponent is `-1074`. -/
structure Binary64 where
  negative : Bool
  significand : Nat
  exponent : Int
  deriving DecidableEq, Repr, Inhabited

namespace Binary64

/-- The power of two of the smallest positive number. -/
def leastExponent : Int := -1074

/-- The largest power of two of a finite number. -/
def greatestExponent : Int := 971

/-- The quotient rounded to the nearest natural number, a tie going to the even one. -/
def roundQuotient (numerator denominator : Nat) : Nat :=
  let quotient := numerator / denominator
  let remainder := numerator % denominator
  if 2 * remainder < denominator then quotient
  else if 2 * remainder > denominator then quotient + 1
  else quotient + quotient % 2

/-- The pair of natural numbers whose quotient is `numerator / denominator * base ^ exponent`. -/
def scale (numerator denominator base : Nat) (exponent : Int) : Nat × Nat :=
  if 0 ≤ exponent then (numerator * base.pow exponent.toNat, denominator)
  else (numerator, denominator * base.pow (-exponent).toNat)

/-- The nearest finite number to a positive quotient, or nothing when it lies beyond the largest. -/
def ofQuotient (negative : Bool) (numerator denominator : Nat) : Option Binary64 :=
  let estimate : Int := max ((numerator.log2 : Int) - denominator.log2 - 53) leastExponent
  let (n, d) := scale numerator denominator 2 (-estimate)
  let exponent := if n / d < Nat.pow 2 53 then estimate else estimate + 1
  let (n, d) := scale numerator denominator 2 (-exponent)
  let rounded := roundQuotient n d
  let (significand, exponent) :=
    if rounded = Nat.pow 2 53 then (Nat.pow 2 52, exponent + 1) else (rounded, exponent)
  if exponent ≤ greatestExponent then some ⟨negative, significand, exponent⟩ else none

/-- The number nearest to `digits * 10 ^ exponent`, or nothing when that lies beyond the largest
finite number. Decimals far outside the range are decided by their magnitude alone. -/
def nearest (negative : Bool) (digits : Nat) (exponent : Int) : Option Binary64 :=
  let magnitude := exponent + (Nat.toDigits 10 digits).length
  if digits = 0 || magnitude < -330 then some ⟨negative, 0, leastExponent⟩
  else if magnitude > 310 then none
  else
    let (n, d) := scale digits 1 10 exponent
    ofQuotient negative n d

/-- The size of a number as a quotient. -/
def quotient (x : Binary64) : Nat × Nat :=
  scale x.significand 1 2 x.exponent

/-- The product of two numbers, rounded, or nothing when it lies beyond the largest. -/
def mul? (x y : Binary64) : Option Binary64 :=
  let (m, d) := x.quotient
  let (n, e) := y.quotient
  if m * n = 0 then some ⟨x.negative != y.negative, 0, leastExponent⟩
  else ofQuotient (x.negative != y.negative) (m * n) (d * e)

/-- The quotient of a number by another that is not zero, rounded, or nothing when it lies beyond
the largest. -/
def div? (x y : Binary64) : Option Binary64 :=
  let (m, d) := x.quotient
  let (n, e) := y.quotient
  if m = 0 then some ⟨x.negative != y.negative, 0, leastExponent⟩
  else ofQuotient (x.negative != y.negative) (m * e) (d * n)

/-- The largest power of ten that is a number, rounded. -/
def greatestPower : Nat := 308

/-- A number times a power of ten, computed with numbers: the power is rounded, then the result. A
power below the range is divided off in steps. -/
def timesPower? (x : Binary64) (exponent : Int) : Option Binary64 :=
  if x.significand = 0 then some x
  else if greatestPower < exponent then none
  else if 0 ≤ exponent then do x.mul? (← nearest false 1 exponent)
  else if -greatestPower ≤ exponent then do x.div? (← nearest false 1 (-exponent))
  else do
    let reduced ← x.div? (← nearest false 1 greatestPower)
    reduced.timesPower? (exponent + greatestPower)
termination_by (-exponent).toNat
decreasing_by simp only [greatestPower] at *; omega

/-- A positive decimal `digits * 10 ^ exponent`. -/
structure Decimal where
  digits : Nat
  exponent : Int
  deriving DecidableEq, Repr

/-- The largest power of ten not above a positive quotient. -/
def decimalMagnitude (numerator denominator : Nat) : Int :=
  if denominator ≤ numerator then
    ((Nat.toDigits 10 (numerator / denominator)).length : Int) - 1
  else
    let places := (Nat.toDigits 10 (denominator / numerator)).length
    if denominator ≤ numerator * Nat.pow 10 (places - 1) then 1 - (places : Int)
    else -(places : Int)

/-- The reals that round to a number, as numerators over a common denominator: lower end, the
number itself, upper end, and the denominator. -/
def roundingInterval (x : Binary64) : Nat × Nat × Nat × Nat :=
  let m := x.significand
  let low := if m = Nat.pow 2 52 ∧ leastExponent < x.exponent then 4 * m - 1 else 4 * m - 2
  let unit := x.exponent - 2
  if 0 ≤ unit then
    let factor := Nat.pow 2 unit.toNat
    (low * factor, 4 * m * factor, (4 * m + 2) * factor, 1)
  else (low, 4 * m, 4 * m + 2, Nat.pow 2 (-unit).toNat)

/-- The better of the two neighbours of a number on the grid of multiples of `10 ^ exponent`, if
one of them rounds back to the number. The ends of the rounding interval count when the
significand is even. -/
def onGrid? (x : Binary64) (exponent : Int) : Option Decimal :=
  let (low, mid, high, denominator) := roundingInterval x
  let (unit, unitDenominator) := scale 1 1 10 exponent
  let step := unit * denominator
  let below := mid * unitDenominator / step
  let ends := x.significand % 2 = 0
  let lowFits :=
    if ends then low * unitDenominator ≤ below * step else low * unitDenominator < below * step
  let highFits :=
    if ends then (below + 1) * step ≤ high * unitDenominator
    else (below + 1) * step < high * unitDenominator
  let fromBelow := mid * unitDenominator - below * step
  let fromAbove := (below + 1) * step - mid * unitDenominator
  let nearer := fromBelow < fromAbove || (fromBelow = fromAbove && below % 2 = 0)
  if lowFits && (!highFits || nearer) then
    some ⟨below, exponent⟩
  else if highFits then some ⟨below + 1, exponent⟩
  else none

/-- The shortest decimal that rounds to a positive number: the first grid, from one digit to
seventeen, with a neighbour that rounds back. -/
def shortest (x : Binary64) : Decimal :=
  let (_, mid, _, denominator) := roundingInterval x
  let magnitude := decimalMagnitude mid denominator
  ((List.range 17).findSome? fun (places : Nat) => onGrid? x (magnitude - places)).getD ⟨0, 0⟩

/-- The decimal digits of a number without trailing zeros, with the power of ten of the first. -/
def scientific (x : Binary64) : List Char × Int :=
  if x.significand = 0 then (['0'], 0)
  else
    let decimal := shortest x
    let text := Nat.toDigits 10 decimal.digits
    let magnitude := decimal.exponent + text.length - 1
    ((text.reverse.dropWhile (· = '0')).reverse, magnitude)

end Binary64

end SchemaGraph
