import MapBacked.NameMap
import MapBacked.Text.List

/-!
# Markers

A marker is one annotation at an accessor: its qualified name and the attributes written there.
Attribute values are truth values, integers of 64 bits, texts and lists of values; constants and
class literals are carried as the text they are written as.

The part of a marker's name behind its last dot decides what the marker means, wherever it comes
from, so `simpleName` is the only part of the name the rules look at.
-/

namespace MapBacked

/-- The value of an attribute. -/
inductive MarkerValue where
  | bool (b : Bool)
  | int (i : Int64)
  | list (items : List MarkerValue)
  | text (s : String)

namespace MarkerValue

instance : Inhabited MarkerValue := ⟨.bool false⟩

mutual

/-- The value as it would be written in source, texts without quotes and lists in braces. -/
def shown : MarkerValue → String
  | .bool b => if b then "true" else "false"
  | .int i => toString i.toInt
  | .list items => "\x7b" ++ Text.separated ", " (shownAll items) ++ "\x7d"
  | .text s => s
termination_by structural v => v

def shownAll : List MarkerValue → List String
  | [] => []
  | v :: vs => v.shown :: shownAll vs
termination_by structural vs => vs

end

end MarkerValue

/-- One annotation at an accessor. Attributes that are left out there are not filled in. -/
structure Marker where
  qualifiedName : String
  attributes : NameMap MarkerValue

namespace Marker

def new (qualifiedName : String) : Marker := ⟨qualifiedName, .empty⟩

/-- Sets an attribute, replacing the value it had. -/
def withAttribute (m : Marker) (name : String) (value : MarkerValue) : Marker :=
  { m with attributes := m.attributes.insert name value }

def value? (m : Marker) (name : String) : Option MarkerValue := m.attributes.get? name

/-- The characters behind the last dot, or all of them when there is none. -/
def behindLastDot (cs : List Char) : List Char := (cs.reverse.takeWhile (· ≠ '.')).reverse

/-- The part of the name behind its last dot. -/
def simpleName (m : Marker) : String := String.ofList (behindLastDot m.qualifiedName.toList)

/-- The marker as it is written at a use, attributes left out. -/
def usage (m : Marker) : String := "@" ++ m.qualifiedName

@[simp] theorem value?_withAttribute_self (m : Marker) (name : String) (value : MarkerValue) :
    (m.withAttribute name value).value? name = some value :=
  NameMap.get?_insert_self ..

theorem dot_notMem_behindLastDot (cs : List Char) : '.' ∉ behindLastDot cs := by
  intro h
  have hall := List.all_eq_true.1 List.all_takeWhile _ (List.mem_reverse.1 h)
  simp at hall

end Marker

end MapBacked
