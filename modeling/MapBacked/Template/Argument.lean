import MapBacked.Template.Value

/-!
# Arguments

What a filter, a test or a call is given: values in order, and values by name. Those by name come
last and together count as one argument, so that a filter that knows nothing of names finds them in
the place of a value and refuses them where it needs a text.
-/

namespace MapBacked.Template

/-- An argument: a value, or all the arguments that were given by name. -/
inductive Argument where
  | value (v : Value)
  | named (fields : NameMap Value)

/-- The arguments of a filter, a test or a call. -/
structure Arguments where
  inOrder : List Value
  named : NameMap Value

namespace Arguments

/-- The arguments one by one. -/
def all (args : Arguments) : List Argument :=
  args.inOrder.map .value ++ if args.named.isEmpty then [] else [.named args.named]

/-- Checks that there are no further arguments. -/
def finish : List Argument → Except Error Unit
  | [] => .ok ()
  | _ :: _ => .error .surplusArgument

end Arguments

namespace Argument

def toValue : Argument → Value
  | .value v => v
  | .named fields => .record fields.entries

def text : Argument → Except Error String
  | .value .undefined => .error .undefinedValue
  | .value v => .ok v.shown
  | .named _ => .error .badOperation

def flag : Argument → Except Error Bool
  | .value (.bool b) => .ok b
  | _ => .error .badOperation

/-- Whether the argument counts as not given. -/
def isMissing : Argument → Bool
  | .value .none => true
  | .value v => v.isUndefined
  | .named _ => false

/-- Reads the first argument if it is given, and leaves the others. -/
def first? {α : Type} (read : Argument → Except Error α) :
    List Argument → Except Error (Option α × List Argument)
  | [] => .ok (none, [])
  | a :: rest => if a.isMissing then .ok (none, rest) else do return (some (← read a), rest)

end Argument

end MapBacked.Template
