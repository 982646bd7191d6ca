import MapBacked.Gate

/-!
# The uses above a list of uses

`Above types start` is what the supertypes in `start` lead to: themselves, and with every use other
than one of the map interface the supertypes of its declaration, read through the use. It is the
least such set, says nothing about an order and visits nothing, so it is what the walk of the gate
has to be measured against.

Three comparisons are made here. `Above.mono` puts the uses above one list under those above another,
`Above.of_declarations` keeps them when a resolver knows more declarations, and `Above.reorder`
carries them along when declarations list their supertypes in another order.
`Above.mem_of_closed` is the way to bound them in a given hierarchy: any list that holds the start
and is closed under inheriting holds them all.
-/

namespace MapBacked

/-- The uses that the listed ones reach by inheriting. Nothing is inherited through the map
interface itself. -/
inductive Above (types : Resolver) (start : List TypeRef) : TypeRef → Prop where
  | listed {t : TypeRef} (h : t ∈ start) : Above types start t
  | inherited {r t : TypeRef} {d : TypeDecl} (hr : Above types start r) (hn : r.name ≠ mapName)
      (hd : types.declaration r.name = some d) (ht : t ∈ d.supertypesFor r) : Above types start t

namespace Above

variable {types : Resolver} {start start' : List TypeRef} {r t : TypeRef} {d : TypeDecl}

/-- A list that is itself above another one leads to nothing new. -/
theorem mono (hs : ∀ s ∈ start, Above types start' s) (h : Above types start t) :
    Above types start' t := by
  induction h with
  | listed h => exact hs _ h
  | inherited _ hn hd ht ih => exact .inherited ih hn hd ht

theorem cons (h : Above types start t) : Above types (r :: start) t :=
  h.mono fun _ hs => .listed (List.mem_cons_of_mem _ hs)

/-- Putting the supertypes of a use in its place leads to nothing new. -/
theorem of_expanded (hn : r.name ≠ mapName) (hd : types.declaration r.name = some d)
    (h : Above types (d.supertypesFor r ++ start) t) : Above types (r :: start) t := by
  refine h.mono fun s hs => ?_
  rcases List.mem_append.1 hs with hs | hs
  · exact .inherited (.listed List.mem_cons_self) hn hd hs
  · exact .listed (List.mem_cons_of_mem _ hs)

/-- What one resolver declares another one may, too, and then nothing above is lost. -/
theorem of_declarations {types' : Resolver}
    (hd : ∀ n d, types.declaration n = some d → types'.declaration n = some d)
    (h : Above types start t) : Above types' start t := by
  induction h with
  | listed h => exact .listed h
  | inherited _ hn hdecl ht ih => exact .inherited ih hn (hd _ _ hdecl) ht

/-- A list that holds the start and whatever its members inherit holds everything above. -/
theorem mem_of_closed {all : List TypeRef} (hs : ∀ s ∈ start, s ∈ all)
    (hc : ∀ r ∈ all, r.name ≠ mapName → ∀ d ∈ types.declaration r.name,
      ∀ s ∈ d.supertypesFor r, s ∈ all)
    (h : Above types start t) : t ∈ all := by
  induction h with
  | listed h => exact hs _ h
  | inherited _ hn hd ht ih => exact hc _ ih hn _ hd _ ht

end Above

/-! ## Declarations of two resolvers -/

namespace Resolver

variable {types types' : Resolver} {R : TypeDecl → TypeDecl → Prop} {name : String} {d : TypeDecl}

/-- Where the declarations of two resolvers are related name by name, a declaration of the first has
one of the second beside it. -/
theorem exists_declaration_of_rel
    (h : ∀ n, Option.Rel R (types.declaration n) (types'.declaration n))
    (hd : types.declaration name = some d) :
    ∃ d', types'.declaration name = some d' ∧ R d d' := by
  have hr := h name
  rw [hd] at hr
  generalize types'.declaration name = other at hr
  cases hr with
  | some hr => exact ⟨_, rfl, hr⟩

theorem declaration_eq_none_of_rel
    (h : ∀ n, Option.Rel R (types.declaration n) (types'.declaration n))
    (hd : types.declaration name = none) : types'.declaration name = none := by
  have hr := h name
  rw [hd] at hr
  generalize types'.declaration name = other at hr
  cases hr with
  | none => rfl

end Resolver

/-! ## The order of the supertypes -/

/-- Two declarations that differ at most in the order in which they list their supertypes. -/
structure TypeDecl.Reorders (d d' : TypeDecl) : Prop where
  name : d.name = d'.name
  typeParameters : d.typeParameters = d'.typeParameters
  supertypes : d.supertypes.Perm d'.supertypes

/-- Two resolvers that know the same names, and whose declarations differ at most in that order. -/
def Resolver.Reorders (types types' : Resolver) : Prop :=
  ∀ name, Option.Rel TypeDecl.Reorders (types.declaration name) (types'.declaration name)

/-- A use of a reordered declaration inherits the same uses, in another order. -/
theorem TypeDecl.Reorders.supertypesFor_perm {d d' : TypeDecl} (h : d.Reorders d') (t : TypeRef) :
    (d.supertypesFor t).Perm (d'.supertypesFor t) := by
  unfold TypeDecl.supertypesFor
  rw [h.typeParameters]
  split
  · exact h.supertypes.map _
  · exact h.supertypes.map _

theorem TypeDecl.Reorders.symm {d d' : TypeDecl} (h : d.Reorders d') : d'.Reorders d :=
  ⟨h.name.symm, h.typeParameters.symm, h.supertypes.symm⟩

theorem Resolver.Reorders.symm {types types' : Resolver} (h : types.Reorders types') :
    types'.Reorders types := by
  intro name
  have hr := h name
  generalize types.declaration name = a at hr ⊢
  generalize types'.declaration name = b at hr ⊢
  cases hr with
  | none => exact .none
  | some hd => exact .some hd.symm

/-- No order of the supertypes changes what is above. -/
theorem Above.reorder {types types' : Resolver} {start start' : List TypeRef} {t : TypeRef}
    (ht : types.Reorders types') (hs : start.Perm start') (h : Above types start t) :
    Above types' start' t := by
  induction h with
  | listed h => exact .listed (hs.mem_iff.1 h)
  | inherited _ hn hd hm ih =>
    obtain ⟨d', hd', hr⟩ := Resolver.exists_declaration_of_rel ht hd
    exact .inherited ih hn hd' ((hr.supertypesFor_perm _).mem_iff.1 hm)

end MapBacked
