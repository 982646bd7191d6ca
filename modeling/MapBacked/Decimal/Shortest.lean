import MapBacked.Decimal.Double

/-!
# The fewest digits that identify a double

A double is written with the fewest decimal digits that read back as it. The reals that read back
as a double form an interval around it that ends half way to its neighbours, the ends included when
its significand is even. For one digit, two digits and so on, the two neighbours of the double on
the grid of decimals with so many digits are tested against that interval; the first grid with a
hit wins, and of two hits the nearer one, of two equally near ones the even one. Seventeen digits
always suffice.
-/

namespace MapBacked.Decimal

/-- A decimal `digits * 10 ^ exponent`. -/
structure Digits where
  digits : Nat
  exponent : Int
deriving DecidableEq, Inhabited

/-- The same decimal without zeros at the end of its digits. -/
def Digits.withoutZeros (r : Digits) : Digits :=
  if r.digits ≠ 0 ∧ r.digits % 10 = 0 then withoutZeros ⟨r.digits / 10, r.exponent + 1⟩ else r
termination_by r.digits
decreasing_by omega

namespace Double

/-- The lower end of the interval that reads back as the double, times four over `den`. -/
def lowerEnd4 (d : Double) : Nat :=
  let unit := Nat.pow 2 d.exponent.toNat
  -- below a power of two the neighbour is only half as far
  if d.significand = Nat.pow 2 52 ∧ d.exponent > minExponent then 4 * d.num - unit
  else 4 * d.num - 2 * unit

/-- The upper end of the interval, times four over `den`. -/
def upperEnd4 (d : Double) : Nat := 4 * d.num + 2 * Nat.pow 2 d.exponent.toNat

/-- Whether the fraction reads back as the double. -/
def readsBack (d : Double) (n m : Nat) : Bool :=
  let x := 4 * n * d.den
  if d.significand % 2 = 0 then d.lowerEnd4 * m ≤ x && x ≤ d.upperEnd4 * m
  else d.lowerEnd4 * m < x && x < d.upperEnd4 * m

/-- The position behind the leading digit: the least power of ten above the double. -/
def magnitude (d : Double) : Int :=
  let guess : Int := (d.num.log2 - d.den.log2 : Int) * 30103 / 100000
  let above (k : Int) : Bool := d.num * Nat.pow 10 (-k).toNat < d.den * Nat.pow 10 k.toNat
  if above (guess - 1) then guess - 1
  else if above guess then guess
  else if above (guess + 1) then guess + 1
  else guess + 2

/-- The neighbour of the double among the decimals with the given last position that reads back, if
one does; of two the nearer one, and the even one if they are equally near. -/
def onGrid? (d : Double) (position : Int) : Option Digits :=
  let n := d.num * Nat.pow 10 (-position).toNat
  let m := d.den * Nat.pow 10 position.toNat
  let scale := Nat.pow 10 position.toNat
  let unscale := Nat.pow 10 (-position).toNat
  let below := n / m
  let low := d.readsBack (below * scale) unscale
  let high := d.readsBack ((below + 1) * scale) unscale
  let nearer := 2 * (n % m) < m || (2 * (n % m) == m && below % 2 == 0)
  if low && (!high || nearer) then some ⟨below, position⟩
  else if high then some ⟨below + 1, position⟩
  else none

/-- Tests grids from the coarsest on; `left` counts the grids that are still to be tested. -/
def searchGrids (d : Double) (top : Int) : Nat → Digits
  | 0 => ⟨0, 0⟩
  | left + 1 =>
    match d.onGrid? (top - (17 - left)) with
    | some r => r
    | none => searchGrids d top left

/-- The fewest digits that read back as a positive double. The upper neighbour on a grid may be the
next power of ten, so zeros at the end are given back to the exponent. -/
def shortest (d : Double) : Digits := (searchGrids d d.magnitude 17).withoutZeros

end Double

end MapBacked.Decimal
