import Mathlib.Data.List.Forall2
import MapBacked.Proofs.ClassText.Tree
import MapBacked.Proofs.Gate.Rounds
import MapBacked.Proofs.Generation.Outcome
import MapBacked.Proofs.Property.Roles

/-!
# What a class depends on

Two requests come to the same class, under whatever engine and template, when they ask for the same
names and their accessors declare the same properties, with the same markers in each role
(`GenerationRequest.Alike`). Everything else can be different. The types that are known and the
value type's own name and supertypes come in with one word, the usage in which it reaches the map
interface; and how markers of different roles are interleaved, and what markers without a rule stand
among them, does not come in at all.
-/

namespace MapBacked

/-- Two requests that ask for the same names, for accessors that come to the same. -/
structure GenerationRequest.Alike (table : MarkerTable) (r r' : GenerationRequest) : Prop where
  packageName : r.packageName = r'.packageName
  className : r.className = r'.className
  classToExtend : r.classToExtend = r'.classToExtend
  isFinal : r.isFinal = r'.isFinal
  typeParameters : r.valueType.typeParameters = r'.valueType.typeParameters
  properties : List.Forall₂ (Accessor.Alike table) r.valueType.properties r'.valueType.properties

variable {table : MarkerTable} {types types' : Resolver} {r r' : GenerationRequest}

theorem map_resolveProperty_of_alike {as as' : List Accessor}
    (h : List.Forall₂ (Accessor.Alike table) as as') :
    (as.map fun a => (resolveProperty table a.property a).value)
      = as'.map fun a => (resolveProperty table a.property a).value := by
  induction h with
  | nil => rfl
  | cons ha _ ih => rw [List.map_cons, List.map_cons, ha.value_resolveProperty, ih]

theorem GenerationRequest.Alike.value_describeClass (h : r.Alike table r') (u : MapUsage) :
    (describeClass table u r).value = (describeClass table u r').value := by
  rw [MapBacked.value_describeClass, MapBacked.value_describeClass, h.packageName, h.className,
    h.classToExtend, h.isFinal, h.typeParameters, map_resolveProperty_of_alike h.properties]

/-- **What a class depends on.** Requests that are alike, for value types of the same usage, come to
the same text or to the same fault of the template. -/
theorem result_generate_of_alike {E : Template.Engine} (renderer : Renderer E) {u : MapUsage}
    (hu : mapUsage r.valueType types = some u) (hu' : mapUsage r'.valueType types' = some u)
    (h : r.Alike table r') :
    (generate types table renderer r).result = (generate types' table renderer r').result := by
  rw [result_generate_of_accepted hu, result_generate_of_accepted hu', h.value_describeClass]

/-! ## Two requests -/

/-- A request for a class with one property, for a value type of the given package. -/
def noteRequest (package : String) (supertype : TypeRef) (markers : List Marker) :
    GenerationRequest :=
  ⟨⟨package, package ++ "Note", ["T"], [supertype], [⟨"note", "getNote", "T", markers⟩]⟩,
    "com.example", "AutoValue_Note", "$AutoValue_Note", true⟩

/-- A value type that is a raw map itself, its markers one role behind the other. -/
def sortedNote : GenerationRequest :=
  noteRequest "a" (.plain mapName)
    [.new "a.Nullable", .new "b.Nullable", marked "Field" "x", marked "Query" "y",
     marked "MapKey" "z"]

/-- One that is a raw map by way of a base, with the markers interleaved and others among them. -/
def mixedNote : GenerationRequest :=
  noteRequest "b" (.plain "Base")
    [marked "MapKey" "z", .new "Other", .new "a.Nullable", marked "Field" "x", .new "b.Nullable",
     marked "Other" "w", marked "Query" "y"]

/-- The types that are known of the base. -/
def noteTypes : Resolver := .ofTable (.ofList [⟨"Base", [], [.plain mapName]⟩])

/-- The built-in template, compiled. -/
def noteRenderer : Renderer .ofTrees := ⟨ClassTemplate.tree⟩

theorem result_generate_of_alike_notes :
    mapUsage sortedNote.valueType ⟨[]⟩ = some .raw ∧
    mapUsage mixedNote.valueType noteTypes = some .raw ∧
    sortedNote.Alike .builtin mixedNote ∧
    (generate ⟨[]⟩ .builtin noteRenderer sortedNote).result
      = (generate noteTypes .builtin noteRenderer mixedNote).result := by
  have hbase : noteTypes.declaration "Base" = some ⟨"Base", [], [.plain mapName]⟩ := by decide
  have hsorted : mapUsage sortedNote.valueType ⟨[]⟩ = some .raw :=
    Gate.mapUsage_of_run .refl (.decided rfl rfl)
  have hmixed : mapUsage mixedNote.valueType noteTypes = some .raw :=
    Gate.mapUsage_of_run (.single (.known (by decide) (by decide) hbase)) (.decided rfl rfl)
  have halike : sortedNote.Alike .builtin mixedNote := by
    exact ⟨rfl, rfl, rfl, rfl, rfl, .cons ⟨rfl, rfl, rfl, rfl, rfl, rfl⟩ .nil⟩
  exact ⟨hsorted, hmixed, halike, result_generate_of_alike noteRenderer hsorted hmixed halike⟩

end MapBacked
