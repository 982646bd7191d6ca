import MapBacked.Text.List

/-!
# Members of a contract

A member of an interface, as far as it matters who implements it: its name, parameter and return
types in the interface's own type variables, and how it is declared there. Two members may share a
name, so signatures are told apart by all four parts, and `compare` goes through them in turn.
-/

namespace MapBacked

/-- How a member is declared. Only an abstract one obliges the implementing class. -/
inductive MethodKind where
  | abstract
  | default
  | objectInherited
  | static
deriving DecidableEq, Inhabited

namespace MethodKind

/-- Whether an implementing class has to provide the member. -/
def isAbstract : MethodKind → Bool
  | .abstract => true
  | _ => false

/-- The position in the order of kinds, which is the order of their names. -/
def rank : MethodKind → Nat
  | .abstract => 0
  | .default => 1
  | .objectInherited => 2
  | .static => 3

def name : MethodKind → String
  | .abstract => "Abstract"
  | .default => "Default"
  | .objectInherited => "ObjectInherited"
  | .static => "Static"

def all : List MethodKind := [.abstract, .default, .objectInherited, .static]

def ofName? (s : String) : Option MethodKind := all.find? (·.name = s)

end MethodKind

/-- A member of an interface. -/
structure MethodSig where
  name : String
  params : List String
  returnType : String
  kind : MethodKind
deriving DecidableEq, Inhabited

namespace MethodSig

def arity (m : MethodSig) : Nat := m.params.length

/-- The member's name and parameter types. -/
def text (m : MethodSig) : String := m.name ++ "(" ++ Text.separated ", " m.params ++ ")"

/-- Orders lists of texts from the left; a list that ends first comes first. -/
def compareTexts : List String → List String → Ordering
  | [], [] => .eq
  | [], _ :: _ => .lt
  | _ :: _, [] => .gt
  | s :: ss, t :: ts => (Ord.compare s t).then (compareTexts ss ts)

/-- Orders members by name, parameters, return type and kind. -/
def compare (a b : MethodSig) : Ordering :=
  (Ord.compare a.name b.name).then <|
  (compareTexts a.params b.params).then <|
  (Ord.compare a.returnType b.returnType).then <|
  Ord.compare a.kind.rank b.kind.rank

instance : Ord MethodSig := ⟨compare⟩

end MethodSig

end MapBacked
