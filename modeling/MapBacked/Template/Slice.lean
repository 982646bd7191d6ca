import MapBacked.Template.Value

/-!
# Slices

The items of a list or the characters of a text from one place up to another one, in steps. Places
are counted from the front, or from the end if they are negative, and a place beyond either end
means that end.
-/

namespace MapBacked.Template.Value

def bound? : Value → Except Error (Option Int)
  | .none => .ok Option.none
  | v =>
    match v.number? with
    | some i =>
      if -0x8000000000000000 ≤ i ∧ i < 0x8000000000000000 then .ok (some i)
      else .error .badOperation
    | Option.none => .error .badOperation

/-- The place a bound means in a list of the given length; behind the end it means the end, before
the front the front. -/
def place (length : Nat) (i : Int) : Nat :=
  min length (if i < 0 then i + length else i).toNat

/-- Every item whose distance from the first one is a multiple of the step. -/
def every {α : Type} (step : Nat) : Nat → List α → List α
  | _, [] => []
  | 0, a :: rest => a :: every step (step - 1) rest
  | k + 1, _ :: rest => every step k rest

/-- The place a slice that goes backwards begins behind. -/
def highest (length : Nat) : Option Int → Nat
  | some i => min length ((if i < 0 then i + length else i).toNat + 1)
  | Option.none => length

/-- The place a slice that goes backwards ends at. -/
def lowest (length : Nat) (stop : Option Int) : Nat :=
  match place length (stop.getD 0) with
  | 0 => 0
  -- the item at the stop is left out, unless it is the first one
  | p + 1 => min length (p + 2)

/-- The items from one place up to another one, in steps. A negative step goes backwards, from the
end unless told otherwise. -/
def cut {α : Type} (items : List α) (start stop : Option Int) (step : Int) : List α :=
  let n := items.length
  if 0 < step then
    let b := match stop with
      | some i => place n i
      | Option.none => n
    every step.toNat 0 ((items.take b).drop (place n (start.getD 0)))
  else every step.natAbs 0 ((items.take (highest n start)).drop (lowest n stop)).reverse

/-- A slice of a list or a text. Of something undefined there is none. -/
def slice (v start stop step : Value) : Except Error Value :=
  if v.isUndefined then .error .undefinedValue
  else do
    let a ← bound? start
    let b ← bound? stop
    let s := (← bound? step).getD 1
    if s = 0 then .error .badOperation
    else
      match v with
      | .none => .ok (.list [])
      | .text t => .ok (.text (String.ofList (cut t.toList a b s)))
      | .list items | .view items => .ok (.view (cut items a b s))
      | _ => .error .badOperation

end MapBacked.Template.Value
