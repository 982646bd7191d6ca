import MapBacked.Types.Table

/-!
# The names of the supertypes

A use reads the supertypes of its declaration through its arguments, and that changes their
arguments. It changes their names as well only where the declaration lists one of its own type
variables as a supertype, since whatever stands in the place of the variable brings its own name.
Declarations that list none (`ExtendsNoVariable`) pass the same names on to every use
(`TypeDecl.map_name_supertypesFor`). So how far the arguments of the uses have grown is of no
consequence for anything that goes by names.
-/

namespace MapBacked

/-- None of the direct supertypes is a type variable of the declaration. -/
def TypeDecl.ExtendsNoVariable (d : TypeDecl) : Prop :=
  ∀ s ∈ d.supertypes, s.args = [] → s.name ∉ d.typeParameters

/-- No declaration that can be looked up lists a type variable of its own as a supertype. -/
def Resolver.ExtendsNoVariable (types : Resolver) : Prop :=
  ∀ name d, types.declaration name = some d → d.ExtendsNoVariable

instance (d : TypeDecl) : Decidable d.ExtendsNoVariable :=
  inferInstanceAs (Decidable (∀ s ∈ d.supertypes, _))

/-- What is so of the declarations in the tables is so of those that can be looked up. -/
theorem Resolver.of_declaration {types : Resolver} {p : TypeDecl → Prop}
    (h : ∀ t ∈ types.layers, ∀ e ∈ t.decls.entries, p e.2) {name : String} {d : TypeDecl}
    (hd : types.declaration name = some d) : p d := by
  obtain ⟨t, ht, hfound⟩ := List.exists_of_findSome?_eq_some hd
  exact h t ht (name, d) (NameMap.mem_entries_of_get? hfound)

/-- It is enough to look through the tables. -/
theorem Resolver.extendsNoVariable_of_layers {types : Resolver}
    (h : ∀ t ∈ types.layers, ∀ e ∈ t.decls.entries, e.2.ExtendsNoVariable) :
    types.ExtendsNoVariable :=
  fun _ _ hd => Resolver.of_declaration h hd

namespace TypeRef

variable {params : List String} {args : List TypeRef} {t : TypeRef}

theorem binding?_of_notMem {name : String} (h : name ∉ params) :
    binding? params args name = none := by
  rw [binding?, List.idxOf?_eq_none_iff.2 h]
  rfl

/-- Only a type variable can lose its name. -/
theorem substitute_name (h : t.args = [] → t.name ∉ params) :
    (t.substitute params args).name = t.name := by
  by_cases ht : t.args = []
  · obtain ⟨name, as⟩ := t
    obtain rfl : as = [] := ht
    rw [substitute, binding?_of_notMem (h rfl)]
    rfl
  · rw [substitute_of_args_ne_nil ht]

theorem erased_of_raw (h : t.args = []) : t.erased = t := by
  obtain ⟨name, as⟩ := t
  obtain rfl : as = [] := h
  rfl

theorem erased_eq_of_name {s : TypeRef} (h : s.name = t.name) : s.erased = t.erased :=
  congrArg plain h

mutual

/-- Without parameters there is nothing to replace. -/
theorem substitute_nil (args : List TypeRef) : ∀ t : TypeRef, t.substitute [] args = t
  | ⟨_, []⟩ => rfl
  | ⟨name, a :: as⟩ => by
    rw [substitute, substitute_nil args a, substituteAll_nil args as]

theorem substituteAll_nil (args : List TypeRef) : ∀ ts : List TypeRef, substituteAll [] args ts = ts
  | [] => rfl
  | t :: ts => by
    rw [substituteAll, substitute_nil args t, substituteAll_nil args ts]

end

end TypeRef

namespace TypeDecl

variable {d : TypeDecl}

/-- A declaration that is not generic has the same supertypes for every use. -/
theorem supertypesFor_of_not_generic (h : d.typeParameters = []) (usage : TypeRef) :
    d.supertypesFor usage = d.supertypes := by
  have hid : TypeRef.substitute [] usage.args = id := funext (TypeRef.substitute_nil usage.args)
  have hraw : ¬ (usage.isRaw && !d.typeParameters.isEmpty) = true := by simp [h]
  rw [supertypesFor, if_neg hraw, h, hid, List.map_id]

/-- **Every use inherits the names that the declaration lists.** -/
theorem map_name_supertypesFor (h : d.ExtendsNoVariable) (usage : TypeRef) :
    (d.supertypesFor usage).map TypeRef.name = d.supertypes.map TypeRef.name := by
  unfold supertypesFor
  split
  · -- a raw use of a generic declaration: erasure leaves the names alone
    rw [List.map_map]
    rfl
  · rw [List.map_map]
    exact List.map_congr_left fun s hs => TypeRef.substitute_name (h s hs)

theorem exists_supertype_of_mem (h : d.ExtendsNoVariable) {usage t : TypeRef}
    (ht : t ∈ d.supertypesFor usage) : ∃ s ∈ d.supertypes, s.name = t.name := by
  have hmem : t.name ∈ (d.supertypesFor usage).map TypeRef.name := List.mem_map_of_mem ht
  rw [map_name_supertypesFor h] at hmem
  exact List.mem_map.1 hmem

theorem exists_mem_of_supertype (h : d.ExtendsNoVariable) (usage : TypeRef) {s : TypeRef}
    (hs : s ∈ d.supertypes) : ∃ t ∈ d.supertypesFor usage, t.name = s.name := by
  have hmem : s.name ∈ d.supertypes.map TypeRef.name := List.mem_map_of_mem hs
  rw [← map_name_supertypesFor h usage] at hmem
  exact List.mem_map.1 hmem

end TypeDecl

end MapBacked
