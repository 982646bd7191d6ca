import MapBacked.ClassTemplate
import MapBacked.Descriptor
import MapBacked.Template.Engine

/-!
# Renderers

A renderer is a class template that an engine has compiled. It turns descriptors into the text of a
class; a descriptor's texts are values of the template's names and nothing in them is taken for
template language.
-/

namespace MapBacked

/-- A class template that was compiled. -/
structure Renderer (E : Template.Engine) where
  template : E.Compiled

namespace Renderer

def ofSource (E : Template.Engine) (source : String) : Except String (Renderer E) := do
  return ⟨← E.compile source⟩

/-- The renderer of the built-in template. -/
def builtin (E : Template.Engine) : Except String (Renderer E) := ofSource E ClassTemplate.source

end Renderer

/-! ## Descriptors as values -/

/-- A property as a value of the template language. -/
def PropertySpec.toValue (p : PropertySpec) : Template.Value :=
  .record [("key", .text p.key), ("name", .text p.name), ("type", .text p.type),
    ("value", .text p.value), ("nullable", .text p.nullable)]

/-- What the names of a class template are bound to. -/
def ClassDescriptor.scope (d : ClassDescriptor) : Template.Scope :=
  .ofList [("packageName", .text d.packageName), ("className", .text d.className),
    ("typeParameters", .text d.typeParameters), ("classToExtend", .text d.superclassName),
    ("isFinal", .bool d.isFinal), ("rawMap", .bool d.rawMap),
    ("properties", .list (d.properties.map PropertySpec.toValue))]

/-- The text of a class, if the template has no fault. -/
def Renderer.text {E : Template.Engine} (r : Renderer E) (d : ClassDescriptor) :
    Except String String :=
  E.render r.template d.scope

end MapBacked
