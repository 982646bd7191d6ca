import MapBacked.Exchange.Record
import MapBacked.Marker
import MapBacked.Property.Table

/-!
# Markers in JSON

Attribute values, markers and marker configurations. The value of an attribute says by itself what
it is: a truth value, an integer, a text or a list of such values, and nothing else is one. A marker
without attributes is written without them. A configuration is the one record that refuses what it
does not know.
-/

namespace MapBacked.Exchange

/-! ## Markers -/

mutual

/-- The value of an attribute. Of the numbers only integers of 64 bits with a sign are values. -/
def readMarkerValue : Json → Except Fault MarkerValue
  | .bool b => .ok (.bool b)
  | .int i =>
    if -0x8000000000000000 ≤ i ∧ i < 0x8000000000000000 then .ok (.int (Int64.ofInt i))
    else .error .noAttributeValue
  | .arr items => do return .list (← readMarkerValues items)
  | .str s => .ok (.text s)
  | _ => .error .noAttributeValue
termination_by structural j => j

def readMarkerValues : List Json → Except Fault (List MarkerValue)
  | [] => .ok []
  | j :: rest => do return (← readMarkerValue j) :: (← readMarkerValues rest)
termination_by structural items => items

end

mutual

def writeMarkerValue : MarkerValue → Json
  | .bool b => .bool b
  | .int i => .int i.toInt
  | .list items => .arr (writeMarkerValues items)
  | .text s => .str s
termination_by structural v => v

def writeMarkerValues : List MarkerValue → List Json
  | [] => []
  | v :: vs => writeMarkerValue v :: writeMarkerValues vs
termination_by structural vs => vs

end

/-- The attributes of the members of an object; the last one of a repeated name counts. -/
def readAttributeMembers (acc : NameMap MarkerValue) :
    List (String × Json) → Except Fault (NameMap MarkerValue)
  | [] => .ok acc
  | (name, j) :: rest => do readAttributeMembers (acc.insert name (← readMarkerValue j)) rest

def readAttributes : Json → Except Fault (NameMap MarkerValue)
  | .obj members => readAttributeMembers .empty members
  | j => .error (.wrongType j .map)

def markerShape : Shape := ⟨"Marker", ["qualified_name", "attributes"], false⟩

def readMarker (j : Json) : Except Fault Marker := do
  let s ← Slots.ofJson markerShape j
  let name := s.field "qualified_name" readText
  let attributes := s.field "attributes" readAttributes
  s.refuse (Slots.faultOf "qualified_name" name ++ Slots.faultOf "attributes" attributes)
  let m : Marker := ⟨← s.required "qualified_name" name, ← Slots.defaulted .empty attributes⟩
  s.refuseSurplus
  return m

def writeMarker (m : Marker) : Json :=
  .obj <| ("qualified_name", .str m.qualifiedName) ::
    if m.attributes.isEmpty then []
    else [("attributes", .obj (m.attributes.entries.map fun e => (e.1, writeMarkerValue e.2)))]

/-! ## Marker configurations -/

/-- The record of a marker configuration; it refuses what it does not know. -/
def markerConfigShape : Shape :=
  ⟨"MarkerConfig", ["nullable", "name_attribute", "value_attribute", "map_key"], true⟩

def readMarkerConfig (j : Json) : Except Fault MarkerConfig := do
  let s ← Slots.ofJson markerConfigShape j
  let nullable := s.field "nullable" (readList readText)
  let nameAttribute := s.field "name_attribute" (readList readText)
  let valueAttribute := s.field "value_attribute" (readList readText)
  let mapKey := s.field "map_key" (readList readText)
  s.refuse (Slots.faultOf "nullable" nullable ++ Slots.faultOf "name_attribute" nameAttribute
    ++ Slots.faultOf "value_attribute" valueAttribute ++ Slots.faultOf "map_key" mapKey)
  let c : MarkerConfig :=
    ⟨← Slots.defaulted [] nullable, ← Slots.defaulted [] nameAttribute,
     ← Slots.defaulted [] valueAttribute, ← Slots.defaulted [] mapKey⟩
  s.refuseSurplus
  return c

end MapBacked.Exchange
