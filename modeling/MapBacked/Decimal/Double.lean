/-!
# Doubles in exact arithmetic

A positive double is a natural significand below 2^53 times a power of two. Rounding a quotient of
naturals to the nearest double is all the arithmetic that reading a decimal needs, and it is done
here on naturals: the double is the multiple of the unit at hand that is nearest to the quotient,
the even one of two equally near ones. Quotients beyond the largest double have none.
-/

namespace MapBacked.Decimal

/-- The double `significand * 2 ^ exponent`. -/
structure Double where
  significand : Nat
  exponent : Int
deriving DecidableEq, Inhabited

namespace Double

/-- The smallest exponent of two a double can have. -/
def minExponent : Int := -1074

/-- The numerator of the double as a fraction. -/
def num (d : Double) : Nat := d.significand * Nat.pow 2 d.exponent.toNat

/-- The denominator of the double as a fraction. -/
def den (d : Double) : Nat := Nat.pow 2 (-d.exponent).toNat

/-- The quotient rounded to the nearest natural, a half to the even neighbour. -/
def roundQuotient (n d : Nat) : Nat :=
  let q := n / d
  let twice := 2 * (n % d)
  if twice < d then q else if twice > d then q + 1 else if q % 2 = 0 then q else q + 1

/-- The exponent of the unit in which the quotient has 53 binary digits, no smaller than the least
one. -/
def unitExponent (n d : Nat) : Int :=
  let guess : Int := (n.log2 : Int) - d.log2 - 52
  let fits := d * Nat.pow 2 (52 + guess).toNat ≤ n * Nat.pow 2 (-(52 + guess)).toNat
  max minExponent (if fits then guess else guess - 1)

/-- The double nearest to a quotient, if the doubles reach that far. -/
def ofQuotient? (n d : Nat) : Option Double :=
  if n = 0 then some ⟨0, minExponent⟩
  else
    let e := unitExponent n d
    let m := roundQuotient (n * Nat.pow 2 (-e).toNat) (d * Nat.pow 2 e.toNat)
    let r : Double := if m = Nat.pow 2 53 then ⟨Nat.pow 2 52, e + 1⟩ else ⟨m, e⟩
    if r.exponent > 971 then none else some r

def mul? (a b : Double) : Option Double := ofQuotient? (a.num * b.num) (a.den * b.den)

def div? (a b : Double) : Option Double := ofQuotient? (a.num * b.den) (a.den * b.num)

/-- The double nearest to a power of ten. -/
def powerOfTen? (k : Nat) : Option Double := ofQuotient? (Nat.pow 10 k) 1

end Double

end MapBacked.Decimal
