import MapBacked.Exchange.Record
import MapBacked.Method.Signature

/-!
# Members in JSON

Members of the dictionary contract and their kinds. A kind is written as its name, and is also read
from an object that has the name as its only member, with nothing behind it.
-/

namespace MapBacked.Exchange

def readKindName (name : String) : Except Fault MethodKind :=
  match MethodKind.ofName? name with
  | some k => .ok k
  | none => .error (.unknownKind name (MethodKind.all.map MethodKind.name))

/-- The kind of a member: its name, or an object with the name and nothing behind it. -/
def readMethodKind : Json → Except Fault MethodKind
  | .str name => readKindName name
  | .obj [(name, j)] => do
    let k ← readKindName name
    match j with
    | .null => return k
    | j => .error (.wrongType j .nothing)
  | .obj _ => .error .notOneMember
  | j => .error (.wrongType j .kind)

def writeMethodKind (k : MethodKind) : Json := .str k.name

def methodShape : Shape := ⟨"MethodSig", ["name", "params", "return_type", "kind"], false⟩

def readMethodSig (j : Json) : Except Fault MethodSig := do
  let s ← Slots.ofJson methodShape j
  let name := s.field "name" readText
  let params := s.field "params" (readList readText)
  let returnType := s.field "return_type" readText
  let kind := s.field "kind" readMethodKind
  s.refuse (Slots.faultOf "name" name ++ Slots.faultOf "params" params
    ++ Slots.faultOf "return_type" returnType ++ Slots.faultOf "kind" kind)
  let m : MethodSig :=
    ⟨← s.required "name" name, ← s.required "params" params,
     ← s.required "return_type" returnType, ← s.required "kind" kind⟩
  s.refuseSurplus
  return m

def writeMethodSig (m : MethodSig) : Json :=
  .obj [("name", .str m.name), ("params", writeTexts m.params),
    ("return_type", .str m.returnType), ("kind", writeMethodKind m.kind)]

end MapBacked.Exchange
