import MapBacked.Types.Ref

/-!
# The names written in a use

A use of a type holds uses in turn, to any depth. What is so of a use as soon as it is so of its
arguments is so of every use (`TypeRef.inductionOn`), which spares the mutual recursion through the
list of arguments wherever a property is stated of one use at a time.

Two lists of names are read off a use: those that are written anywhere in it (`namesIn`), and those
that stand without arguments (`bareNames`), which are the only ones that can be type variables.
-/

namespace MapBacked.TypeRef

@[elab_as_elim]
theorem inductionOn {p : TypeRef → Prop} (t : TypeRef)
    (step : ∀ name args, (∀ a ∈ args, p a) → p ⟨name, args⟩) : p t := by
  obtain ⟨name, args⟩ := t
  apply step name args
  intro a ha
  exact inductionOn a step
termination_by t

mutual

/-- The names that are written in a use, at any depth. -/
def namesIn : TypeRef → List String
  | ⟨name, args⟩ => name :: namesInAll args
termination_by structural t => t

def namesInAll : List TypeRef → List String
  | [] => []
  | t :: ts => t.namesIn ++ namesInAll ts
termination_by structural ts => ts

end

mutual

/-- The names that stand without arguments in a use, at any depth. -/
def bareNames : TypeRef → List String
  | ⟨name, []⟩ => [name]
  | ⟨_, a :: as⟩ => a.bareNames ++ bareNamesAll as
termination_by structural t => t

def bareNamesAll : List TypeRef → List String
  | [] => []
  | t :: ts => t.bareNames ++ bareNamesAll ts
termination_by structural ts => ts

end

theorem namesInAll_eq_flatMap (ts : List TypeRef) : namesInAll ts = ts.flatMap namesIn := by
  induction ts with
  | nil => rfl
  | cons t ts ih => rw [namesInAll, ih, List.flatMap_cons]

theorem bareNamesAll_eq_flatMap (ts : List TypeRef) : bareNamesAll ts = ts.flatMap bareNames := by
  induction ts with
  | nil => rfl
  | cons t ts ih => rw [bareNamesAll, ih, List.flatMap_cons]

theorem forall_namesIn_iff {p : String → Prop} {name : String} {args : List TypeRef} :
    (∀ n ∈ namesIn ⟨name, args⟩, p n) ↔ p name ∧ ∀ a ∈ args, ∀ n ∈ a.namesIn, p n := by
  rw [namesIn, List.forall_mem_cons, namesInAll_eq_flatMap, List.forall_mem_flatMap]

theorem forall_bareNames_plain {p : String → Prop} {name : String} :
    (∀ n ∈ (plain name).bareNames, p n) ↔ p name := by
  rw [plain, bareNames, List.forall_mem_singleton]

/-- A use with arguments does not stand without any itself. -/
theorem forall_bareNames_iff {p : String → Prop} {t : TypeRef} (h : t.args ≠ []) :
    (∀ n ∈ t.bareNames, p n) ↔ ∀ a ∈ t.args, ∀ n ∈ a.bareNames, p n := by
  obtain ⟨name, as⟩ := t
  cases as with
  | nil => exact absurd rfl h
  | cons a as =>
    rw [bareNames, bareNamesAll_eq_flatMap, ← List.flatMap_cons, List.forall_mem_flatMap]

end MapBacked.TypeRef
