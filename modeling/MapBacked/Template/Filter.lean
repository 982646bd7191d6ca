import MapBacked.Template.Argument
import MapBacked.Text.Case
import MapBacked.Text.Digits
import MapBacked.Text.Literal
import MapBacked.Text.Space

/-!
# Filters

What a template can do to a value by name. Most filters on texts take any value that is defined and
work on the text it prints as; the one that quotes a text for the generated code takes nothing but
texts, so that no list or missing value ends up in a literal unnoticed. Of the filters of the
language there are those in `actions`, and `map`; the others count as unknown here.
-/

namespace MapBacked.Template

namespace Filter

/-! ## Texts -/

/-- Removes the characters on both sides that occur in the given set. -/
def strip (set s : String) : String :=
  let inSet := set.toList.contains
  String.ofList ((s.toList.dropWhile inSet).reverse.dropWhile inSet).reverse

/-- Replaces every occurrence of a part, from the left. `skip` counts the characters that belong to
an occurrence already replaced. -/
def replaceFrom (old new : List Char) : Nat → List Char → List Char
  | _, [] => []
  | skip + 1, _ :: cs => replaceFrom old new skip cs
  | 0, c :: cs =>
    if old.isPrefixOf (c :: cs) then new ++ replaceFrom old new (old.length - 1) cs
    else c :: replaceFrom old new 0 cs

/-- Replaces every occurrence of a part. -/
def replace (old new s : String) : String :=
  if old.isEmpty then
    -- the empty part occurs next to every character
    String.ofList (new.toList ++ s.toList.flatMap fun c => c :: new.toList)
  else String.ofList (replaceFrom old.toList new.toList 0 s.toList)

/-! ## Lists -/

def length : Value → Except Error Value
  | .text s => .ok (.int s.length)
  | .list items | .view items => .ok (.int items.length)
  | .record fields => .ok (.int fields.length)
  | _ => .error .badOperation

def first : Value → Except Error Value
  | .text s => .ok (Value.orUndefined (s.toList.head?.map fun c => .text (String.ofList [c])))
  | .list items | .view items => .ok (Value.orUndefined items.head?)
  | .record fields => .ok (Value.orUndefined (fields.head?.map fun f => .text f.1))
  | _ => .error .badOperation

def last : Value → Except Error Value
  | .text s => .ok (Value.orUndefined (s.toList.getLast?.map fun c => .text (String.ofList [c])))
  | .list items | .view items => .ok (Value.orUndefined items.getLast?)
  | _ => .error .badOperation

def reverse : Value → Except Error Value
  | .text s => .ok (.text (String.ofList s.toList.reverse))
  | .list items | .view items => .ok (.view items.reverse)
  | .record fields => .ok (.view (fields.reverse.map fun f => .text f.1))
  | .none => .ok .none
  | .undefined => .ok .undefined
  | .blank => .ok .blank
  | _ => .error .badOperation

def join (v : Value) (joiner : String) : Except Error Value :=
  match v with
  | .undefined | .blank | .none => .ok (.text "")
  | v => do return .text (Text.separated joiner ((← v.items).map Value.shown))

/-- The decimal number a text spells, if it spells one. A plus may stand in front. -/
def index? (cs : List Char) : Option Nat :=
  let digits := match cs with
    | '+' :: rest => rest
    | cs => cs
  if digits.isEmpty || !digits.all Char.isDigit then none else some (Text.decimal digits)

/-- The part of a value at the end of a path of names and indices. -/
def follow : Value → List (List Char) → Except Error Value
  | v, [] => .ok v
  | v, part :: rest => do
    let inner ← match index? part with
      | some i => v.item (.int i)
      | none => v.attr (String.ofList part)
    follow inner rest

/-- A part of an item: by path if it is named by a text. -/
def partOf (key v : Value) : Except Error Value :=
  match key with
  | .text path => follow v (Text.split '.' path.toList)
  | key => v.item key

/-- The same part of every item. -/
def partsOf (key : Value) (default : Option Value) : List Value → Except Error (List Value)
  | [] => .ok []
  | v :: vs => do
    let part ← match partOf key v, default with
      | .ok p, some d => pure (if p.isUndefined then d else p)
      | .ok p, none => pure p
      | .error _, some d => pure d
      | .error e, none => .error e
    return part :: (← partsOf key default vs)

/-- Takes a part of every item, whose name is one of the arguments by name. -/
def mapPart (key : Value) (v : Value) (args : Arguments) : Except Error Value :=
  if !args.inOrder.isEmpty then .error .surplusArgument
  else if args.named.names.any fun x => x != "attribute" && x != "default" then
    .error .surplusArgument
  else do
    let default := (args.named.get? "default").filter fun d => !d.isUndefined
    return .list (← partsOf key default (← v.items))

/-! ## All filters -/

/-- A filter, as a function of the value and the arguments. -/
abbrev Action := Value → List Argument → Except Error Value

/-- A filter that takes no argument. -/
def plain (f : Value → Except Error Value) : Action := fun v args => do
  Arguments.finish args
  f v

/-- A filter that works on the text of the value, and takes no argument. -/
def onText (f : String → String) : Action := fun v args => do
  let s ← (Argument.value v).text
  Arguments.finish args
  return .text (f s)

/-- Quotes a text for the generated code. -/
def quoting : Action := fun v args =>
  match v with
  | .text s => do
    Arguments.finish args
    return .text (Text.literal s)
  | _ => .error .badOperation

/-- Removes blanks, or the given characters, on both sides. -/
def trimming : Action := fun v args => do
  let s ← (Argument.value v).text
  let (set, args) ← Argument.first? Argument.text args
  Arguments.finish args
  match set with
  | some set => return .text (strip set s)
  | none => return .text (Text.trimmed s)

def replacing : Action := fun v args => do
  let s ← (Argument.value v).text
  match args with
  | [] => .error .missingArgument
  | old :: args =>
    let old ← old.text
    match args with
    | [] => .error .missingArgument
    | new :: args =>
      let new ← new.text
      Arguments.finish args
      return .text (replace old new s)

/-- Joins with the joiner given, or with none. -/
def joining : Action := fun v args => do
  let (joiner, args) ← Argument.first? Argument.text args
  Arguments.finish args
  join v (joiner.getD "")

/-- Puts the default given, or the empty text, in the place of something undefined, or of anything
that is not true if the flag says so. -/
def defaulting : Action := fun v args => do
  let (other, args) ← Argument.first? (fun a => .ok a.toValue) args
  let (lax, args) ← Argument.first? Argument.flag args
  Arguments.finish args
  let wanting ← if v.isUndefined then pure true else if lax.getD false then (! ·) <$> v.truth
    else pure false
  return if wanting then other.getD (.text "") else v

/-- The filters by name, but for the one that takes another filter. -/
def actions : List (String × Action) :=
  [("java_string", quoting), ("upper", onText Text.uppercase), ("lower", onText Text.lowercase),
   ("length", plain length), ("first", plain first), ("last", plain last),
   ("reverse", plain reverse), ("join", joining), ("trim", trimming), ("replace", replacing),
   ("default", defaulting)]

def isKnown (name : String) : Bool := name == "map" || (actions.lookup name).isSome

/-- Applies a filter to arguments in order and arguments by name. -/
def run (name : String) (v : Value) (inOrder : List Value) (named : NameMap Value) :
    Except Error Value :=
  if name = "map" then
    match (named.get? "attribute").filter fun key => !(Argument.value key).isMissing with
    | some key => mapPart key v ⟨inOrder, named⟩
    | none =>
      -- the first argument names the filter for the items, and the others are handed to it
      match inOrder with
      | .text inner :: rest =>
        if isKnown inner then do
          let items ← v.items
          return .list (← items.mapM fun item => run inner item rest .empty)
        else .error .unknownFilter
      | _ => .error .badOperation
  else
    match actions.lookup name with
    | some f => f v (Arguments.all ⟨inOrder, named⟩)
    | none => .error .unknownFilter
termination_by structural inOrder

end Filter

def applyFilter (name : String) (v : Value) (args : Arguments) : Except Error Value :=
  Filter.run name v args.inOrder args.named

end MapBacked.Template
