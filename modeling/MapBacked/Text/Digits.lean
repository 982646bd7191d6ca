/-!
# Digits

The numbers that digits stand for, as all the notations read here use them.
-/

namespace MapBacked.Text

def digitValue (c : Char) : Nat := c.toNat - '0'.toNat

/-- The number decimal digits stand for. -/
def decimal (digits : List Char) : Nat := digits.foldl (fun n c => n * 10 + digitValue c) 0

def hexValue? (c : Char) : Option Nat :=
  if '0' ≤ c ∧ c ≤ '9' then some (digitValue c)
  else if 'a' ≤ c ∧ c ≤ 'f' then some (c.toNat - 'a'.toNat + 10)
  else if 'A' ≤ c ∧ c ≤ 'F' then some (c.toNat - 'A'.toNat + 10)
  else none

/-- The number digits of a base up to sixteen stand for. -/
def number? (base : Nat) (cs : List Char) : Option Nat :=
  cs.foldl (fun n c => do
    let d ← hexValue? c
    if d < base then return (← n) * base + d else none) (some 0)

def hexNumber? (cs : List Char) : Option Nat := number? 16 cs

/-- The character a number stands for. Halves of surrogate pairs and numbers beyond the last
character stand for none. -/
def scalar? (n : Nat) : Option Char := if n.isValidChar then some (Char.ofNat n) else none

end MapBacked.Text
