import MapBacked.Exchange.Markers
import MapBacked.Exchange.Types
import MapBacked.ValueType

/-!
# Value types in JSON

Accessors, value types and requests. Every field is written; reading lets the lists be left out.
-/

namespace MapBacked.Exchange

def accessorShape : Shape :=
  ⟨"Accessor", ["property", "method", "return_type", "markers"], false⟩

def readAccessor (j : Json) : Except Fault Accessor := do
  let s ← Slots.ofJson accessorShape j
  let property := s.field "property" readText
  let method := s.field "method" readText
  let returnType := s.field "return_type" readText
  let markers := s.field "markers" (readList readMarker)
  s.refuse (Slots.faultOf "property" property ++ Slots.faultOf "method" method
    ++ Slots.faultOf "return_type" returnType ++ Slots.faultOf "markers" markers)
  let a : Accessor :=
    ⟨← s.required "property" property, ← s.required "method" method,
     ← s.required "return_type" returnType, ← Slots.defaulted [] markers⟩
  s.refuseSurplus
  return a

def writeAccessor (a : Accessor) : Json :=
  .obj [("property", .str a.property), ("method", .str a.method),
    ("return_type", .str a.returnType), ("markers", .arr (a.markers.map writeMarker))]

def valueTypeShape : Shape :=
  ⟨"ValueType", ["package", "name", "type_parameters", "supertypes", "properties"], false⟩

def readValueType (j : Json) : Except Fault ValueType := do
  let s ← Slots.ofJson valueTypeShape j
  let package := s.field "package" readText
  let name := s.field "name" readText
  let params := s.field "type_parameters" (readList readText)
  let supertypes := s.field "supertypes" readTypeRefs
  let properties := s.field "properties" (readList readAccessor)
  s.refuse (Slots.faultOf "package" package ++ Slots.faultOf "name" name
    ++ Slots.faultOf "type_parameters" params ++ Slots.faultOf "supertypes" supertypes
    ++ Slots.faultOf "properties" properties)
  let v : ValueType :=
    ⟨← s.required "package" package, ← s.required "name" name, ← Slots.defaulted [] params,
     ← Slots.defaulted [] supertypes, ← Slots.defaulted [] properties⟩
  s.refuseSurplus
  return v

def writeValueType (v : ValueType) : Json :=
  .obj [("package", .str v.package), ("name", .str v.name),
    ("type_parameters", writeTexts v.typeParameters),
    ("supertypes", .arr (writeTypeRefs v.supertypes)),
    ("properties", .arr (v.properties.map writeAccessor))]

def requestShape : Shape :=
  ⟨"GenerationRequest",
   ["value_type", "package_name", "class_name", "class_to_extend", "is_final"], false⟩

def readRequest (j : Json) : Except Fault GenerationRequest := do
  let s ← Slots.ofJson requestShape j
  let valueType := s.field "value_type" readValueType
  let packageName := s.field "package_name" readText
  let className := s.field "class_name" readText
  let classToExtend := s.field "class_to_extend" readText
  let isFinal := s.field "is_final" readFlag
  s.refuse (Slots.faultOf "value_type" valueType ++ Slots.faultOf "package_name" packageName
    ++ Slots.faultOf "class_name" className ++ Slots.faultOf "class_to_extend" classToExtend
    ++ Slots.faultOf "is_final" isFinal)
  let r : GenerationRequest :=
    ⟨← s.required "value_type" valueType, ← s.required "package_name" packageName,
     ← s.required "class_name" className, ← s.required "class_to_extend" classToExtend,
     ← s.required "is_final" isFinal⟩
  s.refuseSurplus
  return r

def writeRequest (r : GenerationRequest) : Json :=
  .obj [("value_type", writeValueType r.valueType), ("package_name", .str r.packageName),
    ("class_name", .str r.className), ("class_to_extend", .str r.classToExtend),
    ("is_final", .bool r.isFinal)]

end MapBacked.Exchange
