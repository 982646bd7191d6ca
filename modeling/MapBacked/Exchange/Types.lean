import MapBacked.Exchange.Record
import MapBacked.Types.Decl

/-!
# Types in JSON

Uses of types and declarations of them. A use without arguments is written without them. A use
contains further uses, so its reader recurses through the JSON value, with a function for each kind
of part it passes on the way.
-/

namespace MapBacked.Exchange

/-! ## Uses of types -/

def typeRefShape : Shape := ⟨"TypeRef", ["name", "args"], false⟩

/-- A use of a type from its slots and the outcomes of reading them. -/
def typeRefOf (s : Slots) (name : FieldResult String) (args : FieldResult (List TypeRef)) :
    Except Fault TypeRef := do
  s.refuse (Slots.faultOf "name" name ++ Slots.faultOf "args" args)
  let name ← s.required "name" name
  let args ← Slots.defaulted [] args
  s.refuseSurplus
  return ⟨name, args⟩

mutual

def readTypeRef : Json → Except Fault TypeRef
  | .obj members => do
    let s ← Slots.ofMembers typeRefShape members
    typeRefOf s (s.field "name" readText) (readArgsMember members)
  | .arr items =>
    let s := Slots.ofItems typeRefShape items
    typeRefOf s (s.field "name" readText) (readArgsItem items)
  | j => .error (.wrongType j (.record typeRefShape.name))
termination_by structural j => j

/-- The arguments among the members of a use. -/
def readArgsMember : List (String × Json) → FieldResult (List TypeRef)
  | [] => none
  | (name, j) :: rest => if name = "args" then some (readTypeRefs j) else readArgsMember rest
termination_by structural members => members

/-- The arguments among the items of a use: the item behind the name. -/
def readArgsItem : List Json → FieldResult (List TypeRef)
  | _ :: j :: _ => some (readTypeRefs j)
  | _ => none
termination_by structural items => items

def readTypeRefs : Json → Except Fault (List TypeRef)
  | .arr items => readTypeRefItems items
  | j => .error (.wrongType j .list)
termination_by structural j => j

/-- The uses of a list, the first fault counting. -/
def readTypeRefItems : List Json → Except Fault (List TypeRef)
  | [] => .ok []
  | j :: rest => do return (← readTypeRef j) :: (← readTypeRefItems rest)
termination_by structural items => items

end

mutual

def writeTypeRef : TypeRef → Json
  | ⟨name, []⟩ => .obj [("name", .str name)]
  | ⟨name, a :: as⟩ => .obj [("name", .str name), ("args", .arr (writeTypeRef a :: writeTypeRefs as))]
termination_by structural t => t

def writeTypeRefs : List TypeRef → List Json
  | [] => []
  | t :: ts => writeTypeRef t :: writeTypeRefs ts
termination_by structural ts => ts

end

/-! ## Declarations -/

def typeDeclShape : Shape := ⟨"TypeDecl", ["name", "type_parameters", "supertypes"], false⟩

def readTypeDecl (j : Json) : Except Fault TypeDecl := do
  let s ← Slots.ofJson typeDeclShape j
  let name := s.field "name" readText
  let params := s.field "type_parameters" (readList readText)
  let supertypes := s.field "supertypes" readTypeRefs
  s.refuse (Slots.faultOf "name" name ++ Slots.faultOf "type_parameters" params
    ++ Slots.faultOf "supertypes" supertypes)
  let d : TypeDecl :=
    ⟨← s.required "name" name, ← Slots.defaulted [] params, ← Slots.defaulted [] supertypes⟩
  s.refuseSurplus
  return d

def writeTypeDecl (d : TypeDecl) : Json :=
  .obj [("name", .str d.name), ("type_parameters", writeTexts d.typeParameters),
    ("supertypes", .arr (writeTypeRefs d.supertypes))]

end MapBacked.Exchange
