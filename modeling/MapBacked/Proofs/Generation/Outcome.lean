import MapBacked.Extension

/-!
# How a generation comes out

The gate decides which of two ways a generation goes. A refused value type is named in the failure
and nothing is rendered (`result_generate_of_refused`). For an accepted one the result is that of
rendering its description, and the events that follow make no difference to it
(`result_generate_of_accepted`). The description takes the request's names as they are and has one
property for each accessor, in their order (`value_describeClass`).

An extension without a template of its own has the built-in one compiled first. If its engine cannot
do that the gate is not even asked (`Extension.generate_of_builtin_fault`).
-/

namespace MapBacked

variable {E : Template.Engine} {types : Resolver} {table : MarkerTable} {renderer : Renderer E}
  {r : GenerationRequest}

theorem result_generate_of_refused (h : mapUsage r.valueType types = none) :
    (generate types table renderer r).result
      = .error (.inapplicable r.valueType.qualifiedName) := by
  unfold generate checkApplicability
  rw [Attempt.result_bind, h]
  rfl

theorem result_generate_of_accepted {u : MapUsage} (h : mapUsage r.valueType types = some u) :
    (generate types table renderer r).result
      = (renderer.render (describeClass table u r).value).result := by
  unfold generate checkApplicability
  rw [Attempt.result_bind, h]
  show (do
    let text ← renderer.render (describeClass table u r).value
    Attempt.tell (.classGenerated r.valueType.qualifiedName r.className)
    return text : Attempt String).result = _
  rw [Attempt.result_bind]
  cases (renderer.render (describeClass table u r).value).result <;> rfl

/-- There is one property for each accessor, in their order. -/
theorem value_resolveAll (table : MarkerTable) (as : List Accessor) :
    (resolveAll table as).value = as.map fun a => (resolveProperty table a.property a).value := by
  induction as with
  | nil => rfl
  | cons a as ih =>
    rw [List.map_cons, ← ih]
    rfl

theorem value_describeClass (table : MarkerTable) (u : MapUsage) (r : GenerationRequest) :
    (describeClass table u r).value
      = { packageName := r.packageName
          className := r.className
          typeParameters := Text.bracketed r.valueType.typeParameters
          superclassName := r.classToExtend
          isFinal := r.isFinal
          rawMap := u.isRaw
          properties := r.valueType.properties.map fun a =>
            (resolveProperty table a.property a).value } := by
  rw [← value_resolveAll]
  rfl

/-! ## An extension -/

namespace Extension

variable {e : Extension E}

theorem generate_of_renderer (he : e.renderer = some renderer) (r : GenerationRequest) :
    e.generate r = MapBacked.generate e.types e.markers renderer r := by
  unfold Extension.generate
  rw [he]
  rfl

/-- Without a template of its own an extension generates with the built-in one. -/
theorem generate_of_builtin (hb : Renderer.builtin E = .ok renderer) (he : e.renderer = none)
    (r : GenerationRequest) :
    e.generate r = MapBacked.generate e.types e.markers renderer r := by
  unfold Extension.generate Renderer.embedded
  rw [he, hb]
  rfl

theorem generate_of_builtin_fault {cause : String} (hb : Renderer.builtin E = .error cause)
    (he : e.renderer = none) (r : GenerationRequest) :
    e.generate r = throw (.embeddedTemplate (Failure.template cause).message) := by
  unfold Extension.generate Renderer.embedded
  rw [he, hb]
  rfl

end Extension

end MapBacked
