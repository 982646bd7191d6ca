import MapBacked.Marker
import MapBacked.Text.Space

/-!
# What a marker says about a property

A recognised marker makes its property nullable, names the key the property is stored under, or
names it with priority over all other markers. `keyOverride` is the key a marker names under a
rule. A key-bearing marker names one only if the text of its attribute is more than blanks; a
map-key marker always answers, and an answer without text sends the property back to its own name.
-/

namespace MapBacked

/-- The attribute a key-bearing marker keeps its key in. -/
inductive KeyAttribute where
  | name
  | value
deriving DecidableEq, Inhabited

def KeyAttribute.text : KeyAttribute → String
  | .name => "name"
  | .value => "value"

/-- What a recognised marker contributes. -/
inductive MarkerRule where
  | nullable
  | key (attr : KeyAttribute)
  | mapKey
deriving DecidableEq, Inhabited

namespace MarkerRule

def text : MarkerRule → String
  | .nullable => "nullable"
  | .key attr => "key(" ++ attr.text ++ ")"
  | .mapKey => "map-key"

def all : List MarkerRule := [.nullable, .key .name, .key .value, .mapKey]

def ofText? (s : String) : Option MarkerRule := all.find? (·.text = s)

/-- The text of an attribute without the blanks around it. -/
def trimmedValue? (m : Marker) (attr : KeyAttribute) : Option String :=
  (m.value? attr.text).map fun v => Text.trimmed v.shown

/-- The key that a marker names under the rule. -/
def keyOverride (rule : MarkerRule) (m : Marker) : Option String :=
  match rule with
  | .nullable => none
  | .key attr => (trimmedValue? m attr).filter (!·.isEmpty)
  -- without the attribute the key is empty, and still takes the place of what is staged
  | .mapKey => some ((trimmedValue? m .value).getD "")

end MarkerRule

end MapBacked
