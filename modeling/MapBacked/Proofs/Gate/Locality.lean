import MapBacked.Proofs.Gate.Lookups

/-!
# The gate depends on what it looked up

The names that a walk looks up are all it ever learns of a resolver. A resolver that answers them in
the same way takes every round of the walk in the same way (`Gate.Round.of_agreesOn`): a round reads
the declaration of one name, and this is a name that the walk has come by from then on. So it is
enough to know what a run looked up in order to make it again, although that is known at its end
only (`Gate.run_of_agreesOn`).

Hosts that load declarations when they are asked for, or keep the ones that were asked for once,
rely on that.
-/

namespace MapBacked

open Relation

/-- The other resolver answers the given names in the same way. -/
def Resolver.AgreesOn (types types' : Resolver) (names : List String) : Prop :=
  ∀ n ∈ names, types'.declaration n = types.declaration n

instance (types types' : Resolver) (names : List String) :
    Decidable (types.AgreesOn types' names) :=
  inferInstanceAs (Decidable (∀ n ∈ names, _))

namespace Gate

variable {types types' : Resolver} {p q : Position}

theorem Round.seen_subset (hr : Round types p q) : p.seen ⊆ q.seen := by
  cases hr with
  | undecided hn hd => exact List.Subset.refl _
  | repeated hn hs => exact List.Subset.refl _
  | known hn hs hd => exact List.subset_cons_self _ _
  | unknown hn hs hd => exact List.subset_cons_self _ _

/-- A round is made in the same way by a resolver that agrees on the names come by afterwards. -/
theorem Round.of_agreesOn (hr : Round types p q) (ha : types.AgreesOn types' q.seen) :
    Round types' p q := by
  cases hr with
  | undecided hn hd => exact .undecided hn hd
  | repeated hn hs => exact .repeated hn hs
  | known hn hs hd =>
    rw [← ha _ List.mem_cons_self] at hd
    exact .known hn hs hd
  | unknown hn hs hd =>
    rw [← ha _ List.mem_cons_self] at hd
    exact .unknown hn hs hd

/-- A run is made in the same way by a resolver that agrees on the names come by at its end. -/
theorem run_of_agreesOn (h : ReflTransGen (Round types) p q) (ha : types.AgreesOn types' q.seen) :
    ReflTransGen (Round types') p q := by
  -- from the end: what the resolvers agree on there they agreed on before
  induction h with
  | refl => exact .refl
  | tail _ hr ih =>
    have hbefore := ih fun n hn => ha n (hr.seen_subset hn)
    exact .tail hbefore (hr.of_agreesOn ha)

theorem outcome_eq_of_agreesOn {v : ValueType} (ha : types.AgreesOn types' (mapLookups v types)) :
    mapUsage v types' = mapUsage v types ∧ mapLookups v types' = mapLookups v types := by
  refine outcome_eq_of_same_run fun q hrun ⟨u, hend⟩ => run_of_agreesOn hrun ?_
  intro n hn
  refine ha n ?_
  rw [mapLookups_of_run hrun hend]
  exact List.mem_reverse.2 hn

end Gate

/-- **The gate depends on what it looked up.** A resolver that answers the names that were looked up
in the same way leads to the same answer, after the same look-ups. So it makes no difference what is
declared under the name of the map interface or under a name that was not looked up, be it in place
of another declaration or in a table laid over the ones there are. -/
theorem gate_depends_on_lookups (types : Resolver) (v : ValueType) :
    (∀ types', types.AgreesOn types' (mapLookups v types) →
      mapUsage v types' = mapUsage v types ∧ mapLookups v types' = mapLookups v types) ∧
    (∀ n, n = mapName ∨ n ∉ mapLookups v types → ∀ types' : Resolver,
      (∀ m, m ≠ n → types'.declaration m = types.declaration m) →
      mapUsage v types' = mapUsage v types ∧ mapLookups v types' = mapLookups v types) ∧
    (∀ t : TypeTable, (∀ n ∈ mapLookups v types, t.declaration n = none) →
      mapUsage v (.layered t types) = mapUsage v types ∧
      mapLookups v (.layered t types) = mapLookups v types) := by
  refine ⟨fun types' ha => Gate.outcome_eq_of_agreesOn ha, ?other, ?laid⟩
  case other =>
    intro n hn types' hsame
    refine Gate.outcome_eq_of_agreesOn fun m hm => hsame m ?_
    rintro rfl
    rcases hn with rfl | hn
    · exact (mapLookups_distinct types v).2 hm
    · exact hn hm
  case laid =>
    intro t ht
    refine Gate.outcome_eq_of_agreesOn fun m hm => ?_
    rw [Resolver.declaration_layered, ht m hm]
    rfl

/-! ## A walk that ends early -/

/-- The declaration that the walk below comes by. -/
def headDecl : TypeDecl := ⟨"Head", [], [targetMap]⟩

/-- A resolver with a second declaration, which is not looked up. -/
def headAndTail : Resolver := .ofTable (.ofList [headDecl, ⟨"Tail", [], [.plain mapName]⟩])

/-- Declarations that lead in a circle, one of them for the map interface. -/
def circle : TypeTable := .ofList
  [⟨"Tail", [], [.plain mapName]⟩, ⟨mapName, ["K", "V"], [.plain "Tail"]⟩]

def headAndTailType : ValueType := ⟨"", "HeadAndTail", [], [.plain "Head", .plain "Tail"], []⟩

/-- The first supertype decides, so that a resolver of its declaration alone does as well, and so
does one that declares the second supertype, or the map interface, in whatever way. -/
theorem gate_depends_on_lookups_early :
    mapLookups headAndTailType headAndTail = ["Head"] ∧
    mapUsage headAndTailType (.ofTable (.ofList [headDecl])) = some .parameterized ∧
    mapUsage headAndTailType (.ofTable (.ofList [headDecl, ⟨"Tail", [], []⟩]))
      = some .parameterized ∧
    mapUsage headAndTailType (.layered circle headAndTail) = some .parameterized ∧
    mapLookups headAndTailType (.layered circle headAndTail) = ["Head"] := by
  have hhead : headAndTail.declaration "Head" = some headDecl := by decide
  have hrun : ReflTransGen (Gate.Round headAndTail) (.start headAndTailType)
      ⟨["Head"], [targetMap, .plain "Tail"]⟩ :=
    .head (.known (by decide) (by decide) hhead) .refl
  have hend : Gate.Ended ⟨["Head"], [targetMap, .plain "Tail"]⟩ (some .parameterized) :=
    .decided rfl (by decide)
  have hu : mapUsage headAndTailType headAndTail = some .parameterized :=
    Gate.mapUsage_of_run hrun hend
  have hlookups : mapLookups headAndTailType headAndTail = ["Head"] :=
    Gate.mapLookups_of_run hrun hend
  obtain ⟨hagree, hother, hlaid⟩ := gate_depends_on_lookups headAndTail headAndTailType
  rw [hlookups] at hagree hother hlaid
  obtain ⟨halone, -⟩ := hagree (.ofTable (.ofList [headDecl])) (by decide)
  obtain ⟨htail, -⟩ := hother "Tail" (.inr (by decide))
    (.ofTable (.ofList [headDecl, ⟨"Tail", [], []⟩])) fun m hm => by
      simp [headAndTail, TypeTable.ofList, TypeTable.declaration_insert, headDecl, hm.symm]
  obtain ⟨hcircle, hcircleLookups⟩ := hlaid circle (by decide)
  exact ⟨hlookups, halone.trans hu, htail.trans hu, hcircle.trans hu, hcircleLookups⟩

end MapBacked
