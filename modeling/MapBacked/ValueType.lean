import MapBacked.Marker
import MapBacked.Types.Ref

/-!
# Value types and requests

What a host hands over: a value type with its accessors, in the order in which the generated
constructor takes them, and a request that says which class is to be generated for it.
-/

namespace MapBacked

/-- An abstract accessor. The property's name comes from the host and need not be the method's. -/
structure Accessor where
  property : String
  method : String
  returnType : String
  markers : List Marker

namespace Accessor

/-- The accessor whose method is named like its property. -/
def new (property returnType : String) : Accessor := ⟨property, property, returnType, []⟩

def withMethod (a : Accessor) (method : String) : Accessor := { a with method := method }

def withMarker (a : Accessor) (m : Marker) : Accessor := { a with markers := a.markers ++ [m] }

/-- The expression that reads the property off an instance. -/
def invocation (a : Accessor) : String := a.method ++ "()"

end Accessor

/-- The declaration of a value type. -/
structure ValueType where
  package : String
  name : String
  typeParameters : List String
  supertypes : List TypeRef
  properties : List Accessor

namespace ValueType

def new (package name : String) : ValueType := ⟨package, name, [], [], []⟩

def withParams (v : ValueType) (params : List String) : ValueType :=
  { v with typeParameters := params }

def extending (v : ValueType) (supertype : TypeRef) : ValueType :=
  { v with supertypes := v.supertypes ++ [supertype] }

def withProperty (v : ValueType) (a : Accessor) : ValueType :=
  { v with properties := v.properties ++ [a] }

/-- The name with the package in front; the default package has no name to put there. -/
def qualifiedName (v : ValueType) : String :=
  if v.package.isEmpty then v.name else v.package ++ "." ++ v.name

end ValueType

/-- Everything that is needed to generate one class. -/
structure GenerationRequest where
  valueType : ValueType
  packageName : String
  className : String
  classToExtend : String
  isFinal : Bool

/-- The request for a class in the value type's own package. -/
def GenerationRequest.inOwnPackage (valueType : ValueType) (className classToExtend : String)
    (isFinal : Bool) : GenerationRequest :=
  ⟨valueType, valueType.package, className, classToExtend, isFinal⟩

end MapBacked
