import MapBacked.Template.Call
import MapBacked.Template.Engine
import MapBacked.Template.Filter
import MapBacked.Template.Grammar
import MapBacked.Template.Operator
import MapBacked.Template.Slice

/-!
# Rendering

What a template tree puts out under given values of its names. Rendering is a function of the tree
and the values: texts that are put in are never read as templates again, and the first fault ends it
without any text.

A scope holds what names are bound to. An assignment binds a name for the statements that follow it.
Every round of a loop opens a scope of its own, in which the loop's name and `loop` are bound and
which ends with the round; a branch opens none.

A conjunction of two constants is settled apart from the others: it gives a truth value where the
others give the operand that decided.

Main definition: `Engine.ofTrees`, an engine that can be run. It has what the built-in template
needs and a part of the language beyond that: outputs, `if`, `for`, `set` and `raw`, operators,
comparisons and slices, `is defined` and `is undefined`, and the filters of `applyFilter`. It
refuses a source with any other statement, such as a macro or a block, and does not know the other
tests, filters and functions. So it says something about the engine that is meant only where a
template keeps to that part.
-/

namespace MapBacked.Template

/-! ## Expressions -/

mutual

/-- The value of an expression. Operands are evaluated from left to right, and only as far as they
decide the value. -/
def Expr.eval (scope : Scope) : Expr → Except Error Value
  | .literal v => .ok v
  | .name x => .ok (Value.orUndefined (scope.get? x))
  | .list es => do return .list (← evalAll scope es)
  | .attr e x => do (← e.eval scope).attr x
  | .item e k => do
    let v ← e.eval scope
    v.item (← k.eval scope)
  | .slice e a b s => do
    let v ← e.eval scope
    let a ← a.eval scope
    let b ← b.eval scope
    v.slice a b (← s.eval scope)
  | .neg e => do (← e.eval scope).neg
  | .not e => do return .bool !(← (← e.eval scope).truth)
  | .binary op a b => do
    let v ← a.eval scope
    op.apply v (← b.eval scope)
  | .chain e rest => do evalChain scope (← e.eval scope) rest
  | .and a b =>
    -- settled beforehand where both are constant, and then the answer is a truth value
    match (Expr.and a b).constant? with
    | some v => .ok v
    | none => do
      let v ← a.eval scope
      if ← v.truth then b.eval scope else return v
  | .or a b => do
    let v ← a.eval scope
    if ← v.truth then return v else b.eval scope
  | .choice c yes no => do
    if ← (← c.eval scope).truth then yes.eval scope else no.eval scope
  | .filter x e args named => do
    let v ← e.eval scope
    let args ← evalAll scope args
    applyFilter x v ⟨args, .ofList (← evalNamed scope named)⟩
  | .test x e args named => do
    let v ← e.eval scope
    let args ← evalAll scope args
    return .bool (← applyTest x v ⟨args, .ofList (← evalNamed scope named)⟩)
  | .call x args named => do
    let args ← evalAll scope args
    let named ← evalNamed scope named
    callName x (scope.get? x).isSome ⟨args, .ofList named⟩
  -- no call succeeds, but a fault in an operand or an argument comes first
  | .method e x args named => do
    let v ← e.eval scope
    let _ ← evalAll scope args
    let _ ← evalNamed scope named
    callMethod v x
  | .apply e args named => do
    let _ ← e.eval scope
    let _ ← evalAll scope args
    let _ ← evalNamed scope named
    .error .badOperation
termination_by structural e => e

def evalAll (scope : Scope) : List Expr → Except Error (List Value)
  | [] => .ok []
  | e :: es => do return (← e.eval scope) :: (← evalAll scope es)
termination_by structural es => es

def evalNamed (scope : Scope) : List (String × Expr) → Except Error (List (String × Value))
  | [] => .ok []
  | (x, e) :: es => do return (x, ← e.eval scope) :: (← evalNamed scope es)
termination_by structural es => es

/-- Whether all comparisons of a chain hold, from the value in front of it on. The first one that
does not hold settles it. -/
def evalChain (scope : Scope) : Value → List (Operator × Expr) → Except Error Value
  | _, [] => .ok (.bool true)
  | v, (op, e) :: rest => do
    let w ← e.eval scope
    if ← (← op.apply v w).truth then evalChain scope w rest else return .bool false
termination_by structural _ rest => rest

end

/-! ## Loops -/

/-- What the statements of a loop can ask about the round they are in. Where nobody counted the
items there is no length, and no round is known to be the last one. -/
def roundValue (index : Nat) (total : Option Nat) : Value :=
  .record ([("index", .int (index + 1)), ("index0", .int index), ("first", .bool (index == 0)),
    ("last", .bool (total == some (index + 1)))] ++
    match total with
    | some n => [("length", .int n)]
    | none => [])

/-- The items under which the condition of a loop is true. -/
def keep (scope : Scope) (x : String) (condition : Expr) : List Value → Except Error (List Value)
  | [] => .ok []
  | v :: vs => do
    let kept ← (← condition.eval (scope.insert x v)).truth
    let rest ← keep scope x condition vs
    return if kept then v :: rest else rest

/-- How many items a loop goes through, if they are counted: the characters of a text are not. -/
def counted : Value → List Value → Option Nat
  | .text _, _ => none
  | _, items => some items.length

/-- The items a loop goes through, and their number. -/
def loopItems (scope : Scope) (x : String) (source : Expr) (condition : Option Expr) :
    Except Error (List Value × Option Nat) := do
  let v ← source.eval scope
  let items ← v.items
  match condition with
  | some c => do
    -- what a condition leaves is a list, and is counted even if it comes from a text
    let kept ← keep scope x c items
    return (kept, some kept.length)
  | none => return (items, counted v items)

/-- The text of all rounds of a loop from the given round on. -/
def rounds (body : Scope → Except Error (Scope × String)) (x : String) (total : Option Nat)
    (scope : Scope) : Nat → List Value → Except Error String
  | _, [] => .ok ""
  | index, v :: vs => do
    let (_, s) ← body ((scope.insert "loop" (roundValue index total)).insert x v)
    return s ++ (← rounds body x total scope (index + 1) vs)

/-! ## Statements -/

mutual

/-- What a statement puts out, and the scope of the statements that follow it. -/
def Stmt.run : Stmt → Scope → Except Error (Scope × String)
  | .text s, scope => .ok (scope, s)
  | .output e, scope => do return (scope, ← (← e.eval scope).print)
  | .branch c yes no, scope => do
    if ← (← c.eval scope).truth then runAll yes scope else runAll no scope
  | .loop x source condition body otherwise, scope => do
    let (items, total) ← loopItems scope x source condition
    if items.isEmpty then runAll otherwise scope
    else return (scope, ← rounds (runAll body) x total scope 0 items)
  | .assign x e, scope => do return (scope.insert x (← e.eval scope), "")
termination_by structural s => s

def runAll : List Stmt → Scope → Except Error (Scope × String)
  | [], scope => .ok (scope, "")
  | s :: ss, scope => do
    let (scope, front) ← s.run scope
    let (scope, back) ← runAll ss scope
    return (scope, front ++ back)
termination_by structural ss => ss

end

/-- The text of a template under the given values of its names. -/
def render (template : List Stmt) (scope : Scope) : Except Error String := do
  return (← runAll template scope).2

/-- The engine that reads sources into trees and runs these. Of a fault it reports the kind. -/
@[reducible]
def Engine.ofTrees : Engine where
  Compiled := List Stmt
  compile source := (parse source).mapError Error.text
  render template scope := (Template.render template scope).mapError Error.text

theorem Engine.compile_ofTrees (source : String) :
    ofTrees.compile source = (parse source).mapError Error.text := rfl

theorem Engine.render_ofTrees (template : List Stmt) (scope : Scope) :
    ofTrees.render template scope = (Template.render template scope).mapError Error.text := rfl

end MapBacked.Template
