import MapBacked.Types.Ref

/-!
# Declarations of types

A declaration names a type, its parameters and its direct supertypes, the latter written in terms
of the parameters. What a use of the type inherits is read through the use (`supertypesFor`): its
arguments take the places of the parameters, and a use that leaves the arguments of a generic type
out inherits the supertypes without theirs.
-/

namespace MapBacked

/-- A declared type: its parameters and its direct supertypes, in source order. -/
structure TypeDecl where
  name : String
  typeParameters : List String
  supertypes : List TypeRef
deriving DecidableEq, Inhabited

namespace TypeDecl

def new (name : String) : TypeDecl := ⟨name, [], []⟩

/-- Sets the parameters, replacing the ones there were. -/
def withParams (d : TypeDecl) (params : List String) : TypeDecl := { d with typeParameters := params }

/-- Adds a direct supertype after the ones there are. -/
def extending (d : TypeDecl) (supertype : TypeRef) : TypeDecl :=
  { d with supertypes := d.supertypes ++ [supertype] }

/-- The direct supertypes of a use of the declared type. -/
def supertypesFor (d : TypeDecl) (usage : TypeRef) : List TypeRef :=
  if usage.isRaw && !d.typeParameters.isEmpty then d.supertypes.map TypeRef.erased
  else d.supertypes.map (TypeRef.substitute d.typeParameters usage.args)

/-- A raw use of a generic type inherits its supertypes without their arguments. -/
theorem supertypesFor_of_raw {d : TypeDecl} {usage : TypeRef} (h : usage.args = [])
    (hd : d.typeParameters ≠ []) : d.supertypesFor usage = d.supertypes.map TypeRef.erased := by
  simp [supertypesFor, TypeRef.isRaw, h, hd]

/-- A use with arguments puts them in the places of the parameters. -/
theorem supertypesFor_of_args {d : TypeDecl} {usage : TypeRef} (h : usage.args ≠ []) :
    d.supertypesFor usage = d.supertypes.map (TypeRef.substitute d.typeParameters usage.args) := by
  simp [supertypesFor, TypeRef.isRaw, h]

end TypeDecl

end MapBacked
