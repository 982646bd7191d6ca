import MapBacked.Template.Arithmetic
import MapBacked.Template.Comparison
import MapBacked.Template.Tree

/-!
# Operations

What the operations of the expression language do to two values, and which expressions have a value
that no name and no filter takes part in.

Something undefined is neither compared nor printed, so comparisons, memberships and concatenations
fail on it; arithmetic has no use for it anyway and fails as it does on any value that is no number.
-/

namespace MapBacked.Template

namespace Operator

/-- Applies an operation that fails on what is not defined. -/
def onDefined (f : Value → Value → Except Error Value) : Value → Value → Except Error Value
  | .undefined, _ | _, .undefined => .error .undefinedValue
  | v, w => f v w

def decideBy (f : Value → Value → Bool) : Value → Value → Except Error Value :=
  onDefined fun v w => .ok (.bool (f v w))

def apply : Operator → Value → Value → Except Error Value
  | .add => Value.add
  | .sub => Value.sub
  | .mul => Value.mul
  | .floorDiv => Value.floorDiv
  | .rem => Value.rem
  | .concat => onDefined fun v w => .ok (.text (v.shown ++ w.shown))
  | .eq => decideBy Value.equal
  | .ne => decideBy fun v w => !v.equal w
  | .lt => decideBy fun v w => (v.order w).isLT
  | .le => decideBy fun v w => (v.order w).isLE
  | .gt => decideBy fun v w => (v.order w).isGT
  | .ge => decideBy fun v w => (v.order w).isGE
  | .isIn => onDefined fun v w => do return .bool (← v.isIn w)
  | .notIn => onDefined fun v w => do return .bool !(← v.isIn w)

end Operator

/-! ## Constants -/

/-- The literal an expression is. -/
def Expr.literal? : Expr → Option Value
  | .literal v => some v
  | _ => none

/-- Whether a value counts as true, for values that are defined. -/
def Value.isTrue (v : Value) : Bool := v.truth.toOption.getD false

/-- The value of a conjunction of two values: the second one if both are true, and otherwise the
truth value, whichever of them is not. -/
def Value.both (v w : Value) : Value := if v.isTrue && w.isTrue then w else .bool false

/-- The value of an expression of literals and operations alone. -/
def Expr.constant? : Expr → Option Value
  | .literal v => some v
  | .list es => (es.mapM literal?).map .list
  | .neg e => e.constant?.bind fun v => v.neg.toOption
  | .not e => e.constant?.map fun v => .bool !v.isTrue
  | .binary op a b => do (op.apply (← a.constant?) (← b.constant?)).toOption
  | .and a b => do return (← a.constant?).both (← b.constant?)
  | .or a b => do
    let v ← a.constant?
    let w ← b.constant?
    return if v.isTrue then v else w
  | _ => none

end MapBacked.Template
