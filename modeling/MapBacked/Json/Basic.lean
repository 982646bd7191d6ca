import MapBacked.NameMap

/-!
# JSON values

The values that requests, answers and configured models are exchanged in. Members of an object keep
the order they are written in. Integers are numbers written without fraction and exponent that fit
into 64 bits, signed or unsigned; every other number is a double, kept as the text it is shown with.

A document can hold literals that have the right form and yet denote no value: numbers beyond the
doubles, half a surrogate pair in a string, nesting beyond the limit. Such a place reads as
`unreadable`. It does no harm where nobody looks, and whoever looks at it refuses it.
-/

namespace MapBacked

inductive Json where
  | null
  | bool (b : Bool)
  | int (i : Int)
  | double (shown : String)
  | str (s : String)
  | arr (items : List Json)
  | obj (members : List (String × Json))
  | unreadable

namespace Json

instance : Inhabited Json := ⟨.null⟩

mutual

/-- Whether every place of the document denotes a value. -/
def isReadable : Json → Bool
  | .unreadable => false
  | .arr items => allReadable items
  | .obj members => membersReadable members
  | _ => true
termination_by structural j => j

def allReadable : List Json → Bool
  | [] => true
  | j :: rest => j.isReadable && allReadable rest
termination_by structural items => items

def membersReadable : List (String × Json) → Bool
  | [] => true
  | (_, j) :: rest => j.isReadable && membersReadable rest
termination_by structural members => members

end

mutual

/-- The value with the members of every object in order of their names, the last one of a repeated
name taken. -/
def sorted : Json → Json
  | .arr items => .arr (sortedItems items)
  | .obj members => .obj (NameMap.ofList (sortedMembers members)).entries
  | j => j
termination_by structural j => j

def sortedItems : List Json → List Json
  | [] => []
  | j :: rest => j.sorted :: sortedItems rest
termination_by structural items => items

def sortedMembers : List (String × Json) → List (String × Json)
  | [] => []
  | (name, j) :: rest => (name, j.sorted) :: sortedMembers rest
termination_by structural members => members

end

/-- The value of the first member with a name. -/
def member? (members : List (String × Json)) (name : String) : Option Json :=
  NameMap.findEntry name members

/-- The member of an object; anything else has none. -/
def get? (j : Json) (name : String) : Option Json :=
  match j with
  | .obj members => member? members name
  | _ => none

end Json

end MapBacked
