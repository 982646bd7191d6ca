import MapBacked.Attempt
import MapBacked.Gate
import MapBacked.Renderer

/-!
# Generating a class

A request goes through the gate, then becomes a descriptor, then a text. A value type that the gate
refuses is described by nothing and rendered by nothing, and a template that has a fault gives no
text at all.
-/

namespace MapBacked

variable {E : Template.Engine}

/-! ## Where a renderer comes from -/

/-- The renderer of the built-in template, whose fault is not one of a template that was given. -/
def Renderer.embedded (E : Template.Engine) : Attempt (Renderer E) :=
  Attempt.ofExcept (fun cause => .embeddedTemplate (Failure.template cause).message) (builtin E)

def Renderer.load (E : Template.Engine) (fs : FileSystem) (path : Path) :
    Attempt (Renderer E) := do
  let source ← Attempt.ofExcept (.templateUnreadable path) (fs.read path)
  Attempt.tell (.templateRead path)
  Attempt.ofExcept .template (ofSource E source)

/-- The renderer a configuration asks for, if it asks for one. -/
def Renderer.ofConfig (E : Template.Engine) (fs : FileSystem) (c : Config) :
    Attempt (Option (Renderer E)) :=
  match c.templatePath with
  | some path => do return some (← Renderer.load E fs path)
  | none => pure none

/-! ## Rendering and generating -/

def Renderer.render (r : Renderer E) (d : ClassDescriptor) : Attempt String := do
  let text ← Attempt.ofExcept .template (r.text d)
  Attempt.tell (.classRendered d.className text.utf8ByteSize)
  return text

def generate (types : Resolver) (table : MarkerTable) (renderer : Renderer E)
    (r : GenerationRequest) : Attempt String := do
  match ← checkApplicability r.valueType types with
  | none => throw (.inapplicable r.valueType.qualifiedName)
  | some usage =>
    let d ← describeClass table usage r
    let text ← renderer.render d
    Attempt.tell (.classGenerated r.valueType.qualifiedName r.className)
    return text

end MapBacked
