import MapBacked.Template.Value

/-!
# Calculating with values

Integers have 128 bits; what has no place there is no result. Division takes the quotient whose
remainder is not negative. Adding and multiplying also work on texts and lists, as putting one
behind the other and repeating.
-/

namespace MapBacked.Template.Value

/-- Whether the integer has a place among those of 128 bits. -/
def fits (i : Int) : Bool :=
  -0x80000000000000000000000000000000 ≤ i && i < 0x80000000000000000000000000000000

/-- The result of a calculation, if it has a place. -/
def ofInt (i : Int) : Except Error Value := if fits i then .ok (.int i) else .error .badOperation

/-- Calculates with the integers two values stand for. -/
def calculate (f : Int → Int → Except Error Value) (v w : Value) : Except Error Value :=
  match v.number?, w.number? with
  | some a, some b => if fits a && fits b then f a b else .error .badOperation
  | _, _ => .error .badOperation

/-- Adds numbers and puts texts and lists one behind the other. -/
def add : Value → Value → Except Error Value
  | .text a, .text b => .ok (.text (a ++ b))
  | .list as, .list bs | .list as, .view bs | .view as, .list bs | .view as, .view bs =>
    .ok (.view (as ++ bs))
  | v, w => calculate (fun a b => ofInt (a + b)) v w

def sub : Value → Value → Except Error Value := calculate fun a b => ofInt (a - b)

/-- Several copies of a list behind one another. -/
def copies {α : Type} (items : List α) (count : Value) : Except Error (List α) :=
  match count.number? with
  | some n => if n < 0 then .error .badOperation else .ok (List.replicate n.toNat items).flatten
  | Option.none => .error .badOperation

/-- Multiplies numbers and repeats texts and lists. -/
def mul (v w : Value) : Except Error Value :=
  match v, w with
  | .text s, n | n, .text s => do return .text (String.ofList (← copies s.toList n))
  | .list items, n | .view items, n | n, .list items | n, .view items => do
    return .view (← copies items n)
  | v, w => calculate (fun a b => ofInt (a * b)) v w

/-- The whole quotient whose remainder is not negative. -/
def floorDiv : Value → Value → Except Error Value :=
  calculate fun a b => if b = 0 then .error .badOperation else ofInt (a / b)

/-- The remainder that is not negative. -/
def rem : Value → Value → Except Error Value :=
  calculate fun a b =>
    -- there is no remainder where the quotient has no place
    if b = 0 || !fits (a / b) then .error .badOperation else .ok (.int (a % b))

/-- The opposite number. Truth values have none. -/
def neg : Value → Except Error Value
  | .int i => ofInt (-i)
  | _ => .error .badOperation

end MapBacked.Template.Value
