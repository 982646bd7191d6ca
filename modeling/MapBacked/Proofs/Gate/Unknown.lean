import MapBacked.Proofs.Gate.Rounds
import MapBacked.Proofs.Gate.Supertypes
import MapBacked.Proofs.NameMap

/-!
# Types that nobody declares

A supertype that the resolver does not know contributes nothing. It takes its turn in the walk, and
its name counts as seen from then on, but it leads nowhere. So the walk without it makes the same
finds in the same order, wherever it was written, and also where one name stands for several uses.

Two walks are compared in `Gate.Thinned`. Pending are the same uses but for unknown ones, and of the
names that are declared the same ones were seen. A round of the first walk is answered by one round
of the second or by none (`Gate.Thinned.round`). What a declaration hands on to a use has to be the
same but for unknown ones, too. That needs declarations that list no type variables: then every use
inherits the names that are listed, and whether a use is unknown is a matter of its name.
-/

namespace MapBacked

open Relation

variable {types types' : Resolver}

/-! ## Leaving unknown uses out -/

namespace Resolver

/-- The use is one of the map interface, or the resolver has a declaration for it. -/
def knows (types : Resolver) (t : TypeRef) : Bool :=
  t.name = mapName || (types.declaration t.name).isSome

/-- The second list is the first one without some of the uses that the resolver does not know. -/
inductive Thins (types : Resolver) : List TypeRef → List TypeRef → Prop where
  | nil : Thins types [] []
  | kept {t : TypeRef} {ts ts' : List TypeRef} (h : Thins types ts ts') :
      Thins types (t :: ts) (t :: ts')
  | dropped {t : TypeRef} {ts ts' : List TypeRef} (ht : types.knows t = false)
      (h : Thins types ts ts') : Thins types (t :: ts) ts'

theorem knows_eq_false_iff {t : TypeRef} :
    types.knows t = false ↔ t.name ≠ mapName ∧ types.declaration t.name = none := by
  simp [knows]

theorem knows_of_name {s t : TypeRef} (h : s.name = t.name) : types.knows s = types.knows t := by
  rw [knows, h, knows]

theorem Thins.append {ts ts' us us' : List TypeRef} (h : types.Thins ts ts')
    (hu : types.Thins us us') : types.Thins (ts ++ us) (ts' ++ us') := by
  induction h with
  | nil => exact hu
  | kept _ ih => exact .kept ih
  | dropped ht _ ih => exact .dropped ht ih

/-- Nothing but the names counts, so the uses may be changed in whatever else they have. -/
theorem Thins.map {ts ts' : List TypeRef} (h : types.Thins ts ts') {f : TypeRef → TypeRef}
    (hf : ∀ t ∈ ts, (f t).name = t.name) : types.Thins (ts.map f) (ts'.map f) := by
  induction h with
  | nil => exact .nil
  | kept _ ih => exact .kept (ih fun t ht => hf t (List.mem_cons_of_mem _ ht))
  | dropped ht _ ih =>
    have hname := hf _ List.mem_cons_self
    refine .dropped ?_ (ih fun t ht => hf t (List.mem_cons_of_mem _ ht))
    rw [knows_of_name hname, ht]

theorem thins_filter (types : Resolver) (ts : List TypeRef) :
    types.Thins ts (ts.filter types.knows) := by
  induction ts with
  | nil => exact .nil
  | cons t ts ih =>
    cases ht : types.knows t with
    | true =>
      rw [List.filter_cons_of_pos ht]
      exact .kept ih
    | false =>
      rw [List.filter_cons_of_neg (by simp [ht])]
      exact .dropped ht ih

end Resolver

/-- Two declarations that differ at most in that the second leaves out supertypes that the resolver
does not know. -/
structure TypeDecl.ThinsTo (types : Resolver) (d d' : TypeDecl) : Prop where
  typeParameters : d'.typeParameters = d.typeParameters
  supertypes : types.Thins d.supertypes d'.supertypes

/-- Two resolvers that know the same names, the second one leaving out supertypes that are unknown
to the first. -/
def Resolver.ThinsTo (types types' : Resolver) : Prop :=
  ∀ name, Option.Rel (TypeDecl.ThinsTo types) (types.declaration name) (types'.declaration name)

theorem TypeDecl.ThinsTo.thins_supertypesFor {d d' : TypeDecl} (h : d.ThinsTo types d')
    (hd : d.ExtendsNoVariable) (t : TypeRef) :
    types.Thins (d.supertypesFor t) (d'.supertypesFor t) := by
  unfold supertypesFor
  rw [h.typeParameters]
  split
  · exact h.supertypes.map fun s _ => rfl
  · exact h.supertypes.map fun s hs => TypeRef.substitute_name (hd s hs)

/-! ## All of them at once -/

/-- The declaration with those of its supertypes that pass. -/
def TypeDecl.keeping (keep : TypeRef → Bool) (d : TypeDecl) : TypeDecl :=
  { d with supertypes := d.supertypes.filter keep }

def TypeTable.keeping (keep : TypeRef → Bool) (t : TypeTable) : TypeTable where
  decls := t.decls.map (TypeDecl.keeping keep)
  named := by
    intro e he
    obtain ⟨e', he', rfl⟩ := List.mem_map.1 he
    exact t.named e' he'

def Resolver.keeping (keep : TypeRef → Bool) (types : Resolver) : Resolver :=
  ⟨types.layers.map (TypeTable.keeping keep)⟩

def ValueType.keeping (keep : TypeRef → Bool) (v : ValueType) : ValueType :=
  { v with supertypes := v.supertypes.filter keep }

theorem Resolver.declaration_keeping (keep : TypeRef → Bool) (types : Resolver) (name : String) :
    (types.keeping keep).declaration name
      = (types.declaration name).map (TypeDecl.keeping keep) := by
  have htable : (fun t : TypeTable => (t.keeping keep).declaration name)
      = fun t => (t.declaration name).map (TypeDecl.keeping keep) :=
    funext fun t => NameMap.get?_map (TypeDecl.keeping keep) t.decls name
  rw [declaration, keeping, List.findSome?_map, declaration, List.map_findSome?]
  exact congrArg (List.findSome? · types.layers) htable

theorem Resolver.thinsTo_keeping (types : Resolver) : types.ThinsTo (types.keeping types.knows) := by
  intro name
  rw [declaration_keeping]
  cases types.declaration name with
  | none => exact .none
  | some d => exact .some ⟨rfl, thins_filter types d.supertypes⟩

/-! ## Walks side by side -/

namespace Gate

variable {p p' q : Position} {seen seen' : List String}

/-- Of the names that are declared the two lists have the same ones. -/
def SameKnown (types : Resolver) (seen seen' : List String) : Prop :=
  ∀ n, types.declaration n ≠ none → (n ∈ seen' ↔ n ∈ seen)

theorem SameKnown.cons (h : SameKnown types seen seen') (n : String) :
    SameKnown types (n :: seen) (n :: seen') := by
  intro m hm
  rw [List.mem_cons, List.mem_cons, h m hm]

/-- A name that is not declared may be added on either side. -/
theorem SameKnown.cons_left (h : SameKnown types seen seen') {n : String}
    (hn : types.declaration n = none) : SameKnown types (n :: seen) seen' := by
  intro m hm
  have hne : m ≠ n := fun he => hm (he ▸ hn)
  rw [h m hm, List.mem_cons, or_iff_right hne]

theorem SameKnown.cons_right (h : SameKnown types seen seen') {n : String}
    (hn : types.declaration n = none) : SameKnown types seen (n :: seen') := by
  intro m hm
  have hne : m ≠ n := fun he => hm (he ▸ hn)
  rw [List.mem_cons, or_iff_right hne, h m hm]

/-- Two positions that differ at most in unknown uses, and in names that nobody declares. -/
structure Thinned (types : Resolver) (p p' : Position) : Prop where
  seen : SameKnown types p.seen p'.seen
  pending : types.Thins p.pending p'.pending

/-- A use that nobody declares is passed over, be it for the first time or again. -/
theorem exists_round_of_unknown {t : TypeRef} (hn : t.name ≠ mapName)
    (hd : types.declaration t.name = none) (hd' : types'.declaration t.name = none)
    (h : SameKnown types seen seen') (pending : List TypeRef) :
    ∃ seen₁, Round types' ⟨seen', t :: pending⟩ ⟨seen₁, pending⟩ ∧
      SameKnown types seen seen₁ := by
  by_cases hs : t.name ∈ seen'
  · exact ⟨seen', .repeated hn hs, h⟩
  · exact ⟨t.name :: seen', .unknown hn hs hd', h.cons_right hd⟩

/-- **Side by side.** When the walk with the unknown uses goes on, the one without them does the
same round or none. -/
theorem Thinned.round (ht : types.ThinsTo types') (hv : types.ExtendsNoVariable)
    (hr : Round types p q) (h : Thinned types p p') :
    ∃ q', ReflTransGen (Round types') p' q' ∧ Thinned types q q' := by
  obtain ⟨seen', pending'⟩ := p'
  obtain ⟨hseen, hpending⟩ := h
  cases hr with
  | undecided hn hd =>
    cases hpending with
    | kept hrest => exact ⟨_, .single (.undecided hn hd), hseen, hrest⟩
    | dropped hu hrest => exact absurd hn (Resolver.knows_eq_false_iff.1 hu).1
  | @repeated seen t pending hn hs =>
    cases hpending with
    | dropped hu hrest => exact ⟨_, .refl, hseen, hrest⟩
    | kept hrest =>
      cases hd : types.declaration t.name with
      | none =>
        -- the first walk has come by the name, but the second one may have left it out
        have hd' := Resolver.declaration_eq_none_of_rel ht hd
        obtain ⟨seen₁, hround, hsame⟩ := exists_round_of_unknown hn hd hd' hseen _
        exact ⟨_, .single hround, hsame, hrest⟩
      | some d =>
        have hs' : t.name ∈ seen' := (hseen t.name (by simp [hd])).2 hs
        exact ⟨_, .single (.repeated hn hs'), hseen, hrest⟩
  | @known seen t pending d hn hs hd =>
    cases hpending with
    | dropped hu hrest =>
      have hnone := (Resolver.knows_eq_false_iff.1 hu).2
      rw [hd] at hnone
      cases hnone
    | kept hrest =>
      have hs' : t.name ∉ seen' := fun hm => hs ((hseen t.name (by simp [hd])).1 hm)
      obtain ⟨d', hd', hthin⟩ := Resolver.exists_declaration_of_rel ht hd
      have hsuper := hthin.thins_supertypesFor (hv _ _ hd) t
      exact ⟨_, .single (.known hn hs' hd'), hseen.cons _, hsuper.append hrest⟩
  | @unknown seen t pending hn hs hd =>
    have hseen₁ : SameKnown types (t.name :: seen) seen' := hseen.cons_left hd
    cases hpending with
    | dropped hu hrest => exact ⟨_, .refl, hseen₁, hrest⟩
    | kept hrest =>
      have hd' := Resolver.declaration_eq_none_of_rel ht hd
      obtain ⟨seen₁, hround, hsame⟩ := exists_round_of_unknown hn hd hd' hseen₁ _
      exact ⟨_, .single hround, hsame, hrest⟩

theorem Thinned.run (ht : types.ThinsTo types') (hv : types.ExtendsNoVariable)
    (hrun : ReflTransGen (Round types) p q) (h : Thinned types p p') :
    ∃ q', ReflTransGen (Round types') p' q' ∧ Thinned types q q' := by
  induction hrun with
  | refl => exact ⟨p', .refl, h⟩
  | tail _ hr ih =>
    obtain ⟨q', hq', hthin⟩ := ih
    obtain ⟨r', hr', hthin'⟩ := hthin.round ht hv hr
    exact ⟨r', hq'.trans hr', hthin'⟩

/-- The walk without the unknown uses ends where the other one does, with the same answer. -/
theorem Thinned.ended {u : Option MapUsage} (h : Thinned types p p') (hu : Ended p u) :
    Ended p' u := by
  obtain ⟨seen', pending'⟩ := p'
  obtain ⟨hseen, hpending⟩ := h
  cases hu with
  | exhausted =>
    cases hpending with
    | nil => exact .exhausted
  | decided hn hd =>
    cases hpending with
    | kept hrest => exact .decided hn hd
    | dropped hu hrest => exact absurd hn (Resolver.knows_eq_false_iff.1 hu).1

end Gate

variable {v v' : ValueType}

theorem mapUsage_of_thinsTo (ht : types.ThinsTo types') (hv : types.ExtendsNoVariable)
    (hs : types.Thins v.supertypes v'.supertypes) : mapUsage v' types' = mapUsage v types := by
  obtain ⟨p, u, hrun, hend⟩ := Gate.exists_ended types (.start v)
  have hstart : Gate.Thinned types (.start v) (.start v') := ⟨fun _ _ => Iff.rfl, hs⟩
  obtain ⟨p', hrun', hthin⟩ := hstart.run ht hv hrun
  rw [Gate.mapUsage_of_run hrun hend, Gate.mapUsage_of_run hrun' (hthin.ended hend)]

/-- **Unknown supertypes contribute nothing.** Where declarations list no type variables as
supertypes, the answer of the gate is the same when every supertype that the resolver does not know
is left out, those of the value type and those of the declarations, and when any choice of them
is. -/
theorem mapUsage_without_unknown (hv : types.ExtendsNoVariable) (v : ValueType) :
    mapUsage (v.keeping types.knows) (types.keeping types.knows) = mapUsage v types ∧
    ∀ types' v', types.ThinsTo types' → types.Thins v.supertypes v'.supertypes →
      mapUsage v' types' = mapUsage v types := by
  constructor
  · exact mapUsage_of_thinsTo types.thinsTo_keeping hv (types.thins_filter v.supertypes)
  · intro types' v' ht hs
    exact mapUsage_of_thinsTo ht hv hs

/-! ## A hierarchy with gaps -/

/-- A base that is a map from texts to its parameter, and a type below it, both with supertypes that
nobody declares around the others. -/
def gaps : Resolver := .ofTable (.ofList
  [⟨"Base", ["X"], [.plain "Lost", ⟨mapName, [.plain stringName, .plain "X"]⟩,
     ⟨"Gone", [.plain "X"]⟩]⟩,
   ⟨"Left", [], [.plain "Gone", ⟨"Base", [.plain objectName]⟩, .plain "Lost"]⟩])

/-- A value type that inherits the base with two different arguments. -/
def gapsType : ValueType :=
  ⟨"", "Gaps", [], [.plain "Lost", .plain "Left", .plain "Gone", ⟨"Base", [.plain stringName]⟩], []⟩

/-- Which use of the base is come by first decides, and that is the same one without the supertypes
that nobody declares, and when one of them is left. -/
theorem mapUsage_without_unknown_gaps :
    gaps.ExtendsNoVariable ∧ mapUsage gapsType gaps = some .parameterized ∧
    (gapsType.keeping gaps.knows).supertypes
      = [.plain "Left", ⟨"Base", [.plain stringName]⟩] ∧
    mapUsage (gapsType.keeping gaps.knows) (gaps.keeping gaps.knows) = some .parameterized ∧
    mapUsage { gapsType with
      supertypes := [.plain "Left", .plain "Gone", ⟨"Base", [.plain stringName]⟩] }
        (gaps.keeping gaps.knows) = some .parameterized := by
  have hv : gaps.ExtendsNoVariable := Resolver.extendsNoVariable_of_layers (by decide)
  have hleft : gaps.declaration "Left"
      = some ⟨"Left", [], [.plain "Gone", ⟨"Base", [.plain objectName]⟩, .plain "Lost"]⟩ := by decide
  have hbase : gaps.declaration "Base"
      = some ⟨"Base", ["X"], [.plain "Lost", ⟨mapName, [.plain stringName, .plain "X"]⟩,
          ⟨"Gone", [.plain "X"]⟩]⟩ := by decide
  have hrun : ReflTransGen (Gate.Round gaps) (.start gapsType)
      ⟨["Base", "Gone", "Left", "Lost"], [targetMap, ⟨"Gone", [.plain objectName]⟩, .plain "Lost",
        .plain "Gone", ⟨"Base", [.plain stringName]⟩]⟩ :=
    .head (.unknown (by decide) (by decide) (by decide)) <|
    .head (.known (by decide) (by decide) hleft) <|
    .head (.unknown (by decide) (by decide) (by decide)) <|
    .head (.known (by decide) (by decide) hbase) <|
    .head (.repeated (by decide) (by decide)) .refl
  have hwith : mapUsage gapsType gaps = some .parameterized :=
    Gate.mapUsage_of_run hrun (.decided rfl (by decide))
  have hthins : gaps.Thins gapsType.supertypes
      [.plain "Left", .plain "Gone", ⟨"Base", [.plain stringName]⟩] :=
    .dropped (by decide) (.kept (.kept (.kept .nil)))
  obtain ⟨hall, hsome⟩ := mapUsage_without_unknown hv gapsType
  refine ⟨hv, hwith, by decide, hall.trans hwith, ?_⟩
  exact (hsome _ _ gaps.thinsTo_keeping hthins).trans hwith

end MapBacked
