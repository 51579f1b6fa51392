import RestClient.Decimal.Binary64

/-! # Shortest decimals

The text of a floating-point number has the fewest digits that read back as that number, and of
those the nearest. The numbers that read back are the reals that round to it: those up to halfway to
its two neighbours, the halfway points included iff the mantissa is even.

* `Binary64.shortest` finds the digits on the grids of `1, 2, …, 17` digits: of each grid only the
  two points around the number can be the nearest;
* `Binary64.text` places the decimal point. -/

namespace RestClient

/-- The decimal `0.d₁d₂… · 10 ^ point`. -/
structure Decimal where
  /-- The digits `d₁d₂…`. -/
  digits : List Char
  /-- Where the point lies, counted from the first digit. -/
  point : Int
  deriving DecidableEq, Repr

namespace Binary64

/-- The digits of a whole number. -/
def digitsOf (n : Nat) : List Char := Nat.toDigits 10 n

/-- How many digits a positive number has before its point, or minus the zeros right behind it. -/
def leadingPoint (x : Binary64) : Int :=
  let (n, d) := x.toRatio
  if d ≤ n then (digitsOf (n / d)).length
  else 1 - ((digitsOf ((d - 1) / n)).length : Int)

/-- Four times the mantissas of the ends of the reals that round to a number. -/
def quarterEnds (x : Binary64) : Nat × Nat :=
  let low :=
    if x.mantissa = Nat.pow 2 52 ∧ x.exponent ≠ -1074 then 4 * x.mantissa - 1
    else 4 * x.mantissa - 2
  (low, 4 * x.mantissa + 2)

/-- The grid point of `count` digits nearest to a positive number among those that read back, with
the exponent of the grid. -/
def onGrid? (x : Binary64) (count : Nat) : Option (Nat × Int) :=
  let unit : Int := x.leadingPoint - count
  let quarter : Int := x.exponent - 2
  let left := (if unit < 0 then 1 else Nat.pow 10 unit.natAbs) *
    (if quarter < 0 then Nat.pow 2 quarter.natAbs else 1)
  let right := (if unit < 0 then Nat.pow 10 unit.natAbs else 1) *
    (if quarter < 0 then 1 else Nat.pow 2 quarter.natAbs)
  let value := 4 * x.mantissa * right
  let (low, high) := x.quarterEnds
  let readsBack := fun c : Nat =>
    if x.mantissa % 2 = 0 then low * right ≤ c * left && c * left ≤ high * right
    else low * right < c * left && c * left < high * right
  let below := value / left
  match readsBack below, readsBack (below + 1) with
  | true, false => some (below, unit)
  | false, true => some (below + 1, unit)
  | false, false => none
  | true, true =>
    let gap := 2 * (value % left)
    if gap < left ∨ (gap = left ∧ below % 2 = 0) then some (below, unit) else some (below + 1, unit)

/-- Digits without the zeros at their end. -/
def dropZeros (digits : List Char) : List Char := (digits.reverse.dropWhile (· == '0')).reverse

/-- The shortest decimal that reads back as a number. -/
def shortest (x : Binary64) : Decimal :=
  match ((List.range 17).map (· + 1)).findSome? x.onGrid? with
  | some (grid, unit) =>
    let digits := digitsOf grid
    ⟨dropZeros digits, digits.length + unit⟩
  | none => ⟨[], 0⟩

end Binary64

/-- A whole exponent with its sign. -/
def signedExponent (n : Int) : List Char :=
  (if n < 0 then '-' else '+') :: Nat.toDigits 10 n.natAbs

/-- A decimal as text: in positional form if its point lies from four places before its digits to
the sixteenth place, and in scientific form otherwise. -/
def Decimal.text (x : Decimal) : List Char :=
  let count : Int := x.digits.length
  if x.digits.isEmpty then ['0', '.', '0']
  else if count ≤ x.point ∧ x.point ≤ 16 then
    x.digits ++ List.replicate (x.point - count).toNat '0' ++ ['.', '0']
  else if 0 < x.point ∧ x.point ≤ 16 then
    x.digits.take x.point.toNat ++ '.' :: x.digits.drop x.point.toNat
  else if -5 < x.point ∧ x.point ≤ 0 then
    ['0', '.'] ++ List.replicate (-x.point).toNat '0' ++ x.digits
  else
    let (first, rest) := x.digits.splitAt 1
    first ++ (if rest.isEmpty then [] else '.' :: rest) ++ 'e' :: signedExponent (x.point - 1)

/-- The text of a number. -/
def Binary64.text (x : Binary64) : List Char :=
  if x.mantissa = 0 then ['0', '.', '0'] else x.shortest.text

end RestClient
