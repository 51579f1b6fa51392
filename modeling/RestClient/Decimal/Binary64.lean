/-! # Binary floating-point numbers

The finite non-negative numbers of the binary64 format, as exact values `mantissa · 2 ^ exponent`,
with the two operations that scale a number by a power of ten. Every result is the number nearest to
the exact value, a tie going to the even mantissa, and there is none beyond the largest finite
number. -/

namespace RestClient

/-- The value `mantissa · 2 ^ exponent`. Results of rounding have a mantissa below `2 ^ 53` and an
exponent from `-1074` up. -/
structure Binary64 where
  /-- The mantissa. -/
  mantissa : Nat
  /-- The exponent of two. -/
  exponent : Int
  deriving DecidableEq, Repr

namespace Binary64

/-- The quotient rounded to the nearest whole number, a tie going to the even one. -/
def roundQuotient (numerator denominator : Nat) : Nat :=
  let q := numerator / denominator
  let twice := 2 * (numerator % denominator)
  if twice > denominator ∨ (twice = denominator ∧ q % 2 = 1) then q + 1 else q

/-- A ratio divided by a power of two. -/
def scaled (numerator denominator : Nat) (exponent : Int) : Nat × Nat :=
  if exponent < 0 then (numerator * Nat.pow 2 exponent.natAbs, denominator)
  else (numerator, denominator * Nat.pow 2 exponent.natAbs)

/-- The exponent at which a positive ratio has a mantissa of 53 bits, or the least exponent. -/
def exponentOf (numerator denominator : Nat) : Int :=
  let low := max (-1074) ((numerator.log2 : Int) - denominator.log2 - 53)
  let (n, d) := scaled numerator denominator low
  if n / d < Nat.pow 2 53 then low else low + 1

/-- The number nearest to a ratio, if it is finite. -/
def ofRatio? (numerator denominator : Nat) : Option Binary64 :=
  if numerator = 0 then some ⟨0, -1074⟩
  else
    let e := exponentOf numerator denominator
    let (n, d) := scaled numerator denominator e
    let m := roundQuotient n d
    let x : Binary64 := if m = Nat.pow 2 53 then ⟨Nat.pow 2 52, e + 1⟩ else ⟨m, e⟩
    if x.exponent ≤ 971 then some x else none

/-- A number as a ratio of whole numbers. -/
def toRatio (x : Binary64) : Nat × Nat :=
  if x.exponent < 0 then (x.mantissa, Nat.pow 2 x.exponent.natAbs)
  else (x.mantissa * Nat.pow 2 x.exponent.natAbs, 1)

/-- The product of two numbers. -/
def mul? (x y : Binary64) : Option Binary64 :=
  let (a, b) := x.toRatio
  let (c, d) := y.toRatio
  ofRatio? (a * c) (b * d)

/-- The quotient of two numbers. -/
def div? (x y : Binary64) : Option Binary64 :=
  let (a, b) := x.toRatio
  let (c, d) := y.toRatio
  ofRatio? (a * d) (b * c)

/-- The number nearest to a power of ten. -/
def tenPow? (k : Nat) : Option Binary64 := ofRatio? (Nat.pow 10 k) 1

/-- A number divided by a power of ten, in steps of at most `10 ^ 308`. -/
def scaleDown? (x : Binary64) (k : Nat) : Option Binary64 :=
  if k ≤ 308 then (tenPow? k).bind x.div?
  else if x.mantissa = 0 then some x
  else ((tenPow? 308).bind x.div?).bind fun y => scaleDown? y (k - 308)
termination_by k

/-- A whole number times a power of ten, each of the two rounded before they are multiplied or
divided. -/
def ofDecimal? (significand : Nat) (exponent : Int) : Option Binary64 :=
  (ofRatio? significand 1).bind fun x =>
    if x.mantissa = 0 then some x
    else if exponent < 0 then scaleDown? x exponent.natAbs
    else if exponent ≤ 308 then (tenPow? exponent.natAbs).bind x.mul?
    else none

end Binary64

end RestClient
