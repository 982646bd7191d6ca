import MapBacked.Json.Basic
import MapBacked.Text.List
import MapBacked.Text.Visible

/-!
# What can be wrong with a JSON value

A JSON value that is read as part of the model may have another type than the one wanted, lack a
field, have too many or too few of them, or name a kind or field that does not exist. `Fault` tells
these cases apart and `Fault.message` puts them into words.
-/

namespace MapBacked.Exchange

/-- A record of the model as it is exchanged: its name, its fields in order, and whether it refuses
fields it does not have. -/
structure Shape where
  name : String
  fields : List String
  closed : Bool
deriving DecidableEq, Inhabited

/-- What a reader was looking for. -/
inductive Wanted where
  | text
  | flag
  | list
  | map
  | nothing
  | kind
  | record (name : String)
deriving DecidableEq, Inhabited

/-- What is wrong with a value. -/
inductive Fault where
  | wrongType (found : Json) (wanted : Wanted)
  | missingField (name : String)
  | repeatedField (name : String)
  | unknownField (name : String) (known : List String)
  | tooFewItems (count : Nat) (shape : Shape)
  | tooManyItems (count : Nat)
  | noAttributeValue
  | unknownKind (name : String) (known : List String)
  | notOneMember
deriving Inhabited

def Wanted.words : Wanted → String
  | .text => "a string"
  | .flag => "a boolean"
  | .list => "a sequence"
  | .map => "a map"
  | .nothing => "unit"
  | .kind => "string or map"
  | .record name => "struct " ++ name

/-- A value as a message names it: scalars are shown, lists and objects are not. -/
def foundText : Json → String
  | .null => "null"
  | .bool b => "boolean `" ++ (if b then "true" else "false") ++ "`"
  | .int i => "integer `" ++ toString i ++ "`"
  | .double shown => "floating point `" ++ shown ++ "`"
  | .str s => "string " ++ Text.visible s
  | .arr _ => "sequence"
  | .obj _ => "map"
  | .unreadable => "unreadable value"

/-- A name as messages quote it. -/
def ticked (name : String) : String := "`" ++ name ++ "`"

def oneOf (names : List String) : String := "one of " ++ Text.separated ", " (names.map ticked)

def Fault.message : Fault → String
  | .wrongType found wanted => "invalid type: " ++ foundText found ++ ", expected " ++ wanted.words
  | .missingField name => "missing field " ++ ticked name
  | .repeatedField name => "duplicate field " ++ ticked name
  | .unknownField name known => "unknown field " ++ ticked name ++ ", expected " ++ oneOf known
  | .tooFewItems count shape =>
    "invalid length " ++ toString count ++ ", expected struct " ++ shape.name ++ " with "
      ++ toString shape.fields.length ++ " elements"
  | .tooManyItems count =>
    "invalid length " ++ toString count ++ ", expected fewer elements in array"
  | .noAttributeValue => "data did not match any variant of untagged enum MarkerValue"
  | .unknownKind name known => "unknown variant " ++ ticked name ++ ", expected " ++ oneOf known
  | .notOneMember => "invalid value: map, expected map with a single key"

end MapBacked.Exchange
