import MapBacked.Types.Table

/-!
# The map types that are always known

The dictionary interface and the classes around it, so that a host has to describe its own types
only. Each generic type of the family takes a key and a value type and hands both on to its
supertypes; the two types from `java.lang` are there because they are the arguments asked for.
-/

namespace MapBacked

/-! ## Names -/

def objectName : String := "java.lang.Object"
def stringName : String := "java.lang.String"
def mapName : String := "java.util.Map"
def abstractMapName : String := "java.util.AbstractMap"
def sortedMapName : String := "java.util.SortedMap"
def navigableMapName : String := "java.util.NavigableMap"
def hashMapName : String := "java.util.HashMap"
def linkedHashMapName : String := "java.util.LinkedHashMap"
def treeMapName : String := "java.util.TreeMap"
def concurrentMapName : String := "java.util.concurrent.ConcurrentMap"
def concurrentHashMapName : String := "java.util.concurrent.ConcurrentHashMap"

/-! ## Declarations -/

/-- A use of a family member with the key and value parameters as they are. -/
def ofKeyAndValue (name : String) : TypeRef := ⟨name, [.plain "K", .plain "V"]⟩

/-- A family member: generic in key and value, and below the given members. -/
def familyMember (name : String) (supertypes : List String) : TypeDecl :=
  ⟨name, ["K", "V"], supertypes.map ofKeyAndValue⟩

def mapFamily : List TypeDecl :=
  [familyMember mapName [],
   familyMember abstractMapName [mapName],
   familyMember sortedMapName [mapName],
   familyMember navigableMapName [sortedMapName],
   familyMember hashMapName [abstractMapName, mapName],
   familyMember linkedHashMapName [hashMapName, mapName],
   familyMember treeMapName [abstractMapName, navigableMapName],
   familyMember concurrentMapName [mapName],
   familyMember concurrentHashMapName [abstractMapName, concurrentMapName],
   ⟨objectName, [], []⟩,
   ⟨stringName, [], [.plain objectName]⟩]

def TypeTable.mapFamily : TypeTable := .ofList MapBacked.mapFamily

def Resolver.mapFamily : Resolver := .ofTable .mapFamily

/-- The use that a value type has to reach: text keys, arbitrary values. -/
def targetMap : TypeRef := ⟨mapName, [.plain stringName, .plain objectName]⟩

end MapBacked
