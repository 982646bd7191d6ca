import MapBacked.Proofs.Types.Names
import MapBacked.Types.Decl

/-!
# Substitution after substitution

On the way up a hierarchy every step puts arguments in the places of parameters, and those arguments
were written in the variables of the declaration below. Whether these are replaced before the step
or after it must not matter: a supertype of an instance is the instance of the supertype.

It does not matter so long as nothing is captured. A variable that the first substitution has no
argument for stays, and if the second one knows it, it is replaced after the step and was not there
to be replaced before it. This is all that can go wrong (`TypeRef.substitute_substitute_iff`), for
lists of arguments that are too short or too long and for parameters that are listed twice.
-/

namespace MapBacked

namespace TypeRef

variable {params params' : List String} {args args' : List TypeRef}

/-- The names without arguments that the first substitution has nothing for are left alone by the
second one too. -/
def NoCapture (params : List String) (args : List TypeRef) (params' : List String)
    (args' : List TypeRef) (t : TypeRef) : Prop :=
  ∀ name ∈ t.bareNames, binding? params args name = none →
    (plain name).substitute params' args' = plain name

instance (t : TypeRef) : Decidable (t.NoCapture params args params' args') :=
  inferInstanceAs (Decidable (∀ name ∈ t.bareNames, _))

theorem noCapture_iff {t : TypeRef} (h : t.args ≠ []) :
    t.NoCapture params args params' args'
      ↔ ∀ a ∈ t.args, a.NoCapture params args params' args' :=
  forall_bareNames_iff h

/-- The position that a name is bound to depends on the parameters alone. -/
theorem binding?_map (f : TypeRef → TypeRef) (name : String) :
    binding? params (args.map f) name = (binding? params args name).map f := by
  unfold binding?
  cases params.idxOf? name with
  | none => rfl
  | some i => exact List.getElem?_map

theorem substitute_substitute_plain_iff (name : String) :
    ((plain name).substitute params args).substitute params' args'
        = (plain name).substitute params (args.map (substitute params' args'))
      ↔ (plain name).NoCapture params args params' args' := by
  rw [NoCapture, forall_bareNames_plain, substitute_plain, substitute_plain params, binding?_map]
  cases hb : binding? params args name with
  | none =>
    -- the variable is still there for the second substitution
    simp
  | some a =>
    -- it has given way to its argument on both sides
    simp

/-- **Substitutions compose.** Two substitutions come to the one that makes the second in the
arguments of the first, if nothing is captured, and only then. -/
theorem substitute_substitute_iff (t : TypeRef) :
    (t.substitute params args).substitute params' args'
        = t.substitute params (args.map (substitute params' args'))
      ↔ t.NoCapture params args params' args' := by
  induction t using inductionOn with
  | step name as ih =>
    by_cases has : as = []
    · subst has
      exact substitute_substitute_plain_iff name
    · have hne : (mk name as).args ≠ [] := has
      have hmap : (mk name (as.map (substitute params args))).args ≠ [] := by simpa using has
      rw [noCapture_iff hne, substitute_of_args_ne_nil hne, substitute_of_args_ne_nil hmap,
        substitute_of_args_ne_nil hne, List.map_map]
      constructor
      · intro h a ha
        have hargs := congrArg TypeRef.args h
        exact (ih a ha).1 (List.map_inj_left.1 hargs a ha)
      · intro h
        have hargs := List.map_inj_left.2 fun a ha => (ih a ha).2 (h a ha)
        exact congrArg (mk name) hargs

end TypeRef

/-- A use with arguments has as many after a substitution, so both ways up go through them. -/
theorem TypeDecl.supertypesFor_substitute_iff {params : List String} {args : List TypeRef}
    {usage : TypeRef} (h : usage.args ≠ []) (d : TypeDecl) :
    d.supertypesFor (usage.substitute params args)
        = (d.supertypesFor usage).map (TypeRef.substitute params args)
      ↔ ∀ s ∈ d.supertypes, s.NoCapture d.typeParameters usage.args params args := by
  have hargs : (usage.substitute params args).args = usage.args.map (.substitute params args) := by
    rw [TypeRef.substitute_of_args_ne_nil h]
  have hne : (usage.substitute params args).args ≠ [] := by
    rw [hargs]
    simpa using h
  rw [supertypesFor_of_args hne, supertypesFor_of_args h, hargs, List.map_map, List.map_inj_left]
  constructor
  · intro hs s hmem
    exact TypeRef.substitute_substitute_iff s |>.1 (hs s hmem).symm
  · intro hs s hmem
    exact (TypeRef.substitute_substitute_iff s |>.2 (hs s hmem)).symm

/-- **To instantiate and to climb commute.** -/
theorem substitution_composes (params params' : List String) (args args' : List TypeRef) :
    (∀ t : TypeRef, t.NoCapture params args params' args' ↔
      (t.substitute params args).substitute params' args'
        = t.substitute params (args.map (TypeRef.substitute params' args'))) ∧
    (∀ (d : TypeDecl) (usage : TypeRef), usage.args ≠ [] →
      ((∀ s ∈ d.supertypes, s.NoCapture d.typeParameters usage.args params' args') ↔
        d.supertypesFor (usage.substitute params' args')
          = (d.supertypesFor usage).map (TypeRef.substitute params' args'))) := by
  constructor
  · intro t
    exact (TypeRef.substitute_substitute_iff t).symm
  · intro d usage h
    exact (d.supertypesFor_substitute_iff h).symm

/-- A variable that the first substitution has no argument for is captured by the second. -/
example : ¬ (TypeRef.mk "Map" [.plain "K", .plain "V"]).NoCapture ["K"] [.plain "X"] ["V"]
    [.plain "Y"] := by decide

/-- An index lists one of its parameters twice, and a variable that is none of them. -/
def indexDecl : TypeDecl :=
  ⟨"Index", ["K", "V", "K"], [⟨"Map", [.plain "K", ⟨"Pair", [.plain "V", .plain "W"]⟩]⟩, .plain "K"]⟩

/-- A use of it with an argument for the first position only. -/
def shortIndex : TypeRef := ⟨"Index", [⟨"List", [.plain "X"]⟩]⟩

/-- The second substitution has no argument for `K` either, so `V` and `W` stay in both. -/
theorem substitution_composes_short :
    shortIndex.args ≠ [] ∧
    (∀ s ∈ indexDecl.supertypes, s.NoCapture indexDecl.typeParameters shortIndex.args
      ["X", "K"] [.plain "Y"]) ∧
    indexDecl.supertypesFor (shortIndex.substitute ["X", "K"] [.plain "Y"])
      = [⟨"Map", [⟨"List", [.plain "Y"]⟩, ⟨"Pair", [.plain "V", .plain "W"]⟩]⟩,
         ⟨"List", [.plain "Y"]⟩] := by
  have hargs : shortIndex.args ≠ [] := by decide
  have hfree : ∀ s ∈ indexDecl.supertypes, s.NoCapture indexDecl.typeParameters shortIndex.args
      ["X", "K"] [.plain "Y"] := by decide
  obtain ⟨-, hclimb⟩ := substitution_composes indexDecl.typeParameters ["X", "K"] shortIndex.args
    [.plain "Y"]
  refine ⟨hargs, hfree, ?_⟩
  rw [(hclimb indexDecl shortIndex hargs).1 hfree]
  decide

end MapBacked
