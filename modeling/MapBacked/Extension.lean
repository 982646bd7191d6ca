import MapBacked.Generation
import MapBacked.Method.Contract

/-!
# The extension a host talks to

An extension is what a host keeps: the types that are known, the rules of the markers, and a class
template of its own if one is configured. It starts from a configuration or not at all, and once it
has started nothing that is asked of it changes it. A host lays its own types over the known ones.
-/

namespace MapBacked

/-- What a host has set up. -/
structure Extension (E : Template.Engine) where
  types : Resolver
  markers : MarkerTable
  renderer : Option (Renderer E)

namespace Extension

variable {E : Template.Engine}

/-- The extension without a configuration. -/
def new (E : Template.Engine) : Extension E := ⟨.mapFamily, .builtin, none⟩

def ofConfig (E : Template.Engine) (fs : FileSystem) (c : Config) : Attempt (Extension E) := do
  let e : Extension E := ⟨.mapFamily, .ofConfig c.markers, ← Renderer.ofConfig E fs c⟩
  Attempt.tell (.extensionConfigured e.markers.size e.renderer.isSome)
  return e

/-- The extension of the configuration in a directory. -/
def discover (E : Template.Engine) (toml : Toml.Decoder) (fs : FileSystem) (dir : Path) :
    Attempt (Extension E) := do
  ofConfig E fs (← Attempt.ofExcept .config (Config.discover toml fs dir))

/-- Lays types over the ones that are known. -/
def withTypes (e : Extension E) (t : TypeTable) : Extension E :=
  { e with types := .layered t e.types }

def applicable (e : Extension E) (v : ValueType) : Logged Bool := do
  return (← checkApplicability v e.types).isSome

/-- The members a generated class implements. -/
def consumed (_ : Extension E) : List MethodSig := consumedMethods

def memberNames (_ : Extension E) : List String := capabilities

def generate (e : Extension E) (r : GenerationRequest) : Attempt String := do
  let renderer ← match e.renderer with
    | some renderer => pure renderer
    | none => Renderer.embedded E
  MapBacked.generate e.types e.markers renderer r

end Extension

end MapBacked
