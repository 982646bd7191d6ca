import MapBacked.Decimal.Shortest

/-!
# Decimal literals as doubles

A literal with a fraction or an exponent, or an integer too long for 64 bits, is taken as a double.
`Literal.double?` is the value it gets: its leading digits, as far as they fit into 64 bits, are
rounded, and the power of ten is multiplied or divided in with a rounding of its own. That is within
a unit of the nearest double and need not be it, which is why the two roundings are kept apart. A
literal beyond the largest double has no value.

`Literal.text?` writes the value with the fewest digits that identify it: positionally while the
point falls among the first sixteen digits or at most five places in front of them, otherwise with
an exponent.
-/

namespace MapBacked.Decimal

/-- A decimal literal: its sign, the digits in front of and behind the point, and its exponent. -/
structure Literal where
  negative : Bool
  whole : List Nat
  fraction : List Nat
  exponent : Int
deriving DecidableEq, Inhabited

namespace Literal

/-- The largest number of 64 bits. -/
def maxWord : Nat := 0xffffffffffffffff

/-- Appends digits to a number while it fits into 64 bits; returns how many were appended. -/
def appendDigits (n : Nat) : List Nat → Nat × Nat
  | [] => (n, 0)
  | c :: rest =>
    if n * 10 + c ≤ maxWord then
      let (m, k) := appendDigits (n * 10 + c) rest
      (m, k + 1)
    else (n, 0)

/-- The leading digits that fit into 64 bits and the power of ten that belongs to them. -/
def parts (l : Literal) : Nat × Int :=
  let (w, kw) := appendDigits 0 l.whole
  let (n, kf) := appendDigits w l.fraction
  (n, l.exponent + (l.whole.length - kw : Nat) - kf)

/-- Multiplies a double by a power of ten whose exponent is negative, in steps of at most 308. -/
def divideByPower (d : Double) (k : Nat) : Option Double :=
  if d.significand = 0 then some d
  else if k ≤ 308 then do d.div? (← Double.powerOfTen? k)
  else do divideByPower (← d.div? (← Double.powerOfTen? 308)) (k - 308)
termination_by k
decreasing_by omega

/-- The double a literal stands for, its sign left out. -/
def double? (l : Literal) : Option Double := do
  let (n, e) := l.parts
  let d ← Double.ofQuotient? n 1
  if e < 0 then divideByPower d e.natAbs
  else if d.significand = 0 then some d
  else if e ≤ 308 then d.mul? (← Double.powerOfTen? e.toNat)
  else none

def digitsText (n : Nat) : List Char := Nat.toDigits 10 n

def layout (r : Digits) : List Char :=
  let ds := digitsText r.digits
  let point : Int := ds.length + r.exponent
  if 0 ≤ r.exponent && point ≤ 16 then
    ds ++ List.replicate r.exponent.toNat '0' ++ ['.', '0']
  else if 0 < point && point ≤ 16 then
    ds.take point.toNat ++ '.' :: ds.drop point.toNat
  else if -5 < point && point ≤ 0 then
    '0' :: '.' :: (List.replicate (-point).toNat '0' ++ ds)
  else
    let mantissa := match ds with
      | d :: rest@(_ :: _) => d :: '.' :: rest
      | _ => ds
    let sign := if 0 < point then ['+'] else []
    mantissa ++ 'e' :: (sign ++ (toString (point - 1)).toList)

/-- The value of a literal as text. -/
def text? (l : Literal) : Option String := do
  let d ← l.double?
  let body := if d.significand = 0 then ['0', '.', '0'] else layout d.shortest
  return String.ofList (if l.negative then '-' :: body else body)

end Literal

end MapBacked.Decimal
