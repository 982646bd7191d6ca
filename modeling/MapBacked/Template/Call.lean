import MapBacked.Template.Argument

/-!
# Tests and calls

What a template can ask about a value, and what becomes of a call: no value can be called and none
has methods, so every call is a fault, and the question is only which one. Of the tests of the
language there are the two about being defined, and of its functions none; the others count as
unknown here.
-/

namespace MapBacked.Template

def applyTest (name : String) (v : Value) (args : Arguments) : Except Error Bool :=
  if name = "defined" ∨ name = "undefined" then do
    Arguments.finish args.all
    return if name = "defined" then !v.isUndefined else v.isUndefined
  else .error .unknownTest

/-- Calls what a name is bound to, if anything. Nothing that can be bound can be called; of two
names that have a meaning of their own, one never can, and the other asks for one argument first. -/
def callName (name : String) (isBound : Bool) (args : Arguments) : Except Error Value :=
  if isBound || name = "super" || (name = "loop" && args.all.length != 1) then .error .badOperation
  else .error .unknownFunction

/-- Calls a method of a value. No value has methods. -/
def callMethod (v : Value) (name : String) : Except Error Value :=
  match v with
  | .record fields =>
    -- a field of that name is no method, and the fault says that there is something else
    if (NameMap.findEntry name fields).isSome then .error .badOperation else .error .unknownMethod
  | _ => .error .unknownMethod

end MapBacked.Template
