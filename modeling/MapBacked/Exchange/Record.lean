import MapBacked.Exchange.Fault

/-!
# Records in JSON

A record of the model is an object with a member per field, or an array of its fields in order. An
array may end early and an object may leave a member out where the field has a default; `null` never
stands for something left out. Members that are no fields are passed over unless the record is
closed.

`Slots` is either form with the fields' values brought together: `values` lists them in the order in
which they stand. A record reader reads every field once and then settles which fault counts: the
first one in the order of the values, then the first field that is missing, then the surplus items
of an array.
-/

namespace MapBacked.Exchange

/-- The values of a record's fields, as far as they are there. -/
structure Slots where
  shape : Shape
  values : List (String × Json)
  items : Option Nat

/-- The outcome of reading a field: nothing when the field is not there. -/
abbrev FieldResult (α : Type) := Option (Except Fault α)

namespace Slots

variable {α : Type}

/-- Whether a name stands among the names before it, for the first name of which that is so. -/
def firstRepeated? : List String → Option String
  | [] => none
  | name :: rest => if rest.contains name then some name else firstRepeated? rest

/-- The slots of the members of an object. -/
def ofMembers (shape : Shape) (members : List (String × Json)) : Except Fault Slots :=
  match firstRepeated? ((members.map (·.1)).filter shape.fields.contains) with
  | some name => .error (.repeatedField name)
  | none => .ok ⟨shape, members, none⟩

/-- The slots of the items of an array. -/
def ofItems (shape : Shape) (items : List Json) : Slots :=
  ⟨shape, shape.fields.zip items, some items.length⟩

/-- The slots of a JSON value. -/
def ofJson (shape : Shape) : Json → Except Fault Slots
  | .obj members => ofMembers shape members
  | .arr items => .ok (ofItems shape items)
  | j => .error (.wrongType j (.record shape.name))

/-- Reads the value of a field, if it is there. -/
def field (s : Slots) (name : String) (read : Json → Except Fault α) : FieldResult α :=
  (NameMap.findEntry name s.values).map read

/-- The fault of a field that was read, under the field's name. -/
def faultOf (name : String) : FieldResult α → List (String × Fault)
  | some (.error e) => [(name, e)]
  | _ => []

def faultAt? (s : Slots) (faults : List (String × Fault)) (name : String) : Option Fault :=
  if s.shape.closed && !s.shape.fields.contains name then
    some (.unknownField name s.shape.fields)
  else NameMap.findEntry name faults

/-- Refuses the record if a value in it is faulty. -/
def refuse (s : Slots) (faults : List (String × Fault)) : Except Fault Unit :=
  -- in the order in which the values stand, not in that of the record's fields
  match s.values.findSome? fun v => s.faultAt? faults v.1 with
  | some e => .error e
  | none => .ok ()

/-- The value of a field that has to be there. -/
def required (s : Slots) (name : String) : FieldResult α → Except Fault α
  | some r => r
  | none =>
    match s.items with
    | some count => .error (.tooFewItems count s.shape)
    | none => .error (.missingField name)

/-- The value of a field that has a default. -/
def defaulted (default : α) : FieldResult α → Except Fault α
  | some r => r
  | none => .ok default

/-- Refuses surplus items. -/
def refuseSurplus (s : Slots) : Except Fault Unit :=
  match s.items with
  | some count => if s.shape.fields.length < count then .error (.tooManyItems count) else .ok ()
  | none => .ok ()

end Slots

/-! ## Values that are no records -/

def readText : Json → Except Fault String
  | .str s => .ok s
  | j => .error (.wrongType j .text)

def readFlag : Json → Except Fault Bool
  | .bool b => .ok b
  | j => .error (.wrongType j .flag)

/-- The values of a list, the first fault counting. -/
def readAll {α : Type} (read : Json → Except Fault α) : List Json → Except Fault (List α)
  | [] => .ok []
  | j :: rest => do return (← read j) :: (← readAll read rest)

def readList {α : Type} (read : Json → Except Fault α) : Json → Except Fault (List α)
  | .arr items => readAll read items
  | j => .error (.wrongType j .list)

def writeTexts (ss : List String) : Json := .arr (ss.map Json.str)

end MapBacked.Exchange
