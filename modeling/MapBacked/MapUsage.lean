/-!
# How a value type is a map

A value type can be given a map-backed class when it reaches the map interface in one of two ways:
with exactly the arguments the generated members are written for, or raw, in which case those
members are written with erased parameter types.
-/

namespace MapBacked

/-- The two ways to reach the map interface. -/
inductive MapUsage where
  | parameterized
  | raw
deriving DecidableEq, Inhabited

namespace MapUsage

/-- Whether the interface is reached without arguments. -/
def isRaw : MapUsage → Bool
  | .raw => true
  | .parameterized => false

def text : MapUsage → String
  | .parameterized => "Map<String, Object>"
  | .raw => "raw Map"

end MapUsage

end MapBacked
