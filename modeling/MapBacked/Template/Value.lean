import MapBacked.NameMap
import MapBacked.Template.Error
import MapBacked.Text.List
import MapBacked.Text.Visible

/-!
# Values of the template language

What expressions evaluate to: nothing defined, none, truth values, integers, texts, lists and
records. A name that is not bound and a part that is not there give the undefined value; it may be
passed around, asked for with a test and replaced by a default, but neither printed nor compared nor
tested for truth nor gone through. The undefined value of a choice that has no second branch is
`blank`: it prints as nothing and is false.

Items taken out of other values, by a slice, a reversal, a sum or a repetition, make a view. It is
used like a list and equal to the list of its items; only in the order of kinds it has a place of
its own.

What can be said of a value by itself stands here: its text, its truth, its items and its parts,
each with the faults it can have.
-/

namespace MapBacked.Template

inductive Value where
  | undefined
  | blank
  | none
  | bool (b : Bool)
  | int (i : Int)
  | text (s : String)
  | list (items : List Value)
  | view (items : List Value)
  | record (fields : List (String × Value))
deriving Inhabited

namespace Value

/-- Whether the value stands for something that is not there. -/
def isUndefined : Value → Bool
  | .undefined | .blank => true
  | _ => false

/-! ## Printing -/

mutual

/-- The text of a value inside another one. There texts are put between quotes. -/
def shownInside : Value → String
  | .undefined | .blank => "undefined"
  | .none => "None"
  | .bool b => if b then "True" else "False"
  | .int i => toString i
  | .text s => Text.visible s
  | .list items | .view items => "[" ++ Text.separated ", " (shownItems items) ++ "]"
  | .record fields => "\x7b" ++ Text.separated ", " (shownFields fields) ++ "\x7d"
termination_by structural v => v

def shownItems : List Value → List String
  | [] => []
  | v :: vs => shownInside v :: shownItems vs
termination_by structural vs => vs

def shownFields : List (String × Value) → List String
  | [] => []
  | (name, v) :: rest => (Text.visible name ++ ": " ++ shownInside v) :: shownFields rest
termination_by structural fields => fields

end

/-- The text of a value. Texts stand for themselves, and what is not there for nothing. -/
def shown : Value → String
  | .undefined | .blank => ""
  | .text s => s
  | v => v.shownInside

/-- What printing the value puts out. -/
def print : Value → Except Error String
  | .undefined => .error .undefinedValue
  | v => .ok v.shown

/-! ## Truth and parts -/

/-- Whether the value counts as true: zero and everything empty does not. -/
def truth : Value → Except Error Bool
  | .undefined => .error .undefinedValue
  | .blank | .none => .ok false
  | .bool b => .ok b
  | .int i => .ok (i != 0)
  | .text s => .ok (s != "")
  | .list items | .view items => .ok !items.isEmpty
  | .record fields => .ok !fields.isEmpty

/-- The items one goes through in a loop: those of a list, the characters of a text, the names of a
record. -/
def items : Value → Except Error (List Value)
  | .undefined => .error .undefinedValue
  | .blank | .none => .ok []
  | .text s => .ok (s.toList.map fun c => .text (String.ofList [c]))
  | .list items | .view items => .ok items
  | .record fields => .ok (fields.map fun f => .text f.1)
  | .bool _ | .int _ => .error .badOperation

/-- The integer a value stands for in an operation; a truth value stands for one or zero. -/
def number? : Value → Option Int
  | .int i => some i
  | .bool b => some (if b then 1 else 0)
  | _ => Option.none

/-- The part of a list at an index. A negative index counts from the end. -/
def at? {α : Type} (items : List α) (i : Int) : Option α :=
  let place := if i < 0 then i + items.length else i
  if place < 0 then Option.none else items[place.toNat]?

/-- A part that may be missing. -/
def orUndefined : Option Value → Value
  | some v => v
  | Option.none => .undefined

/-- The part under a name. Of something undefined nothing can be taken. -/
def attr (v : Value) (name : String) : Except Error Value :=
  match v with
  | .undefined | .blank => .error .undefinedValue
  | .record fields => .ok (orUndefined (NameMap.findEntry name fields))
  | _ => .ok .undefined

/-- The part under a name or at an index. -/
def item (v key : Value) : Except Error Value :=
  match v with
  | .undefined | .blank => .error .undefinedValue
  | .record fields =>
    match key with
    | .text name => .ok (orUndefined (NameMap.findEntry name fields))
    | _ => .ok .undefined
  | .list items | .view items => .ok (orUndefined (key.number?.bind (at? items)))
  | .text s =>
    .ok (orUndefined
      ((key.number?.bind (at? s.toList)).map fun c => .text (String.ofList [c])))
  | _ => .ok .undefined

end Value

end MapBacked.Template
