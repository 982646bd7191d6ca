import MapBacked.Property.Resolution

/-!
# Class descriptors

Everything the class template needs to know about one class: the request's names, the type
parameters as they are written behind a class name, whether the mutators take erased parameter
types, and the resolved properties in order.
-/

namespace MapBacked

/-- One class to be rendered. -/
structure ClassDescriptor where
  packageName : String
  className : String
  typeParameters : String
  superclassName : String
  isFinal : Bool
  rawMap : Bool
  properties : List PropertySpec
deriving DecidableEq, Inhabited

/-- Describes the class of a request for a value type of the given usage. -/
def describeClass (table : MarkerTable) (usage : MapUsage) (r : GenerationRequest) :
    Logged ClassDescriptor := do
  let properties ← resolveAll table r.valueType.properties
  Logged.tell (.descriptorBuilt r.className properties.length)
  return ⟨r.packageName, r.className, Text.bracketed r.valueType.typeParameters, r.classToExtend,
    r.isFinal, usage.isRaw, properties⟩

end MapBacked
