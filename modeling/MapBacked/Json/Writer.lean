import MapBacked.Json.Basic
import MapBacked.Text.List
import MapBacked.Text.Literal

/-!
# Writing JSON text

The text of a value on one line: members and items in their order, quotes, backslashes and controls
in strings escaped, every other character as it is.
-/

namespace MapBacked.Json

def escape (c : Char) : List Char :=
  if c = '"' then ['\\', '"']
  else if c = '\\' then ['\\', '\\']
  else if c.toNat < 0x20 then '\\' :: 'u' :: Text.hexDigits4 c.toNat
  else [c]

def quoted (s : String) : String := String.ofList ('"' :: (s.toList.flatMap escape ++ ['"']))

mutual

/-- The text of a value. A place that denotes no value has no text of its own. -/
def text : Json → String
  | .null => "null"
  | .bool b => if b then "true" else "false"
  | .int i => toString i
  | .double shown => shown
  | .str s => quoted s
  | .arr items => "[" ++ Text.separated "," (itemTexts items) ++ "]"
  | .obj members => "\x7b" ++ Text.separated "," (memberTexts members) ++ "\x7d"
  | .unreadable => "null"
termination_by structural j => j

def itemTexts : List Json → List String
  | [] => []
  | j :: rest => j.text :: itemTexts rest
termination_by structural items => items

def memberTexts : List (String × Json) → List String
  | [] => []
  | (name, j) :: rest => (quoted name ++ ":" ++ j.text) :: memberTexts rest
termination_by structural members => members

end

end MapBacked.Json
