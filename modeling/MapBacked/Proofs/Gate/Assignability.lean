import MapBacked.Proofs.Gate.Walk

/-!
# The gate decides assignability

`mapUsage` walks with a memory of names, while assignability is about uses: a value type is
assignable if a use of the map interface that fits is above it (`Above`). This file relates the two.

> An answer is always right. No answer is right whenever every name but that of the map interface
> stands for one use (`OneUsePerName`), and where it stands for one use, too, the answer follows
> from what is above alone.

The last part is why no order counts, neither of the value type's supertypes nor of those of a
declaration, although the walk depends on both for the way it takes.
-/

namespace MapBacked

variable {types types' : Resolver} {v v' : ValueType}

theorem above_of_mapUsage {u : MapUsage} (h : mapUsage v types = some u) :
    Above types v.supertypes u.reference :=
  Gate.above_of_walk h

/-- Where names stand for one use, no answer means that no use above would do. -/
theorem not_above_of_mapUsage (h1 : OneUsePerName types v.supertypes (· ≠ mapName))
    (h : mapUsage v types = none) (u : MapUsage) : ¬ Above types v.supertypes u.reference := by
  obtain ⟨expanded, he⟩ := Gate.exhausted_of_walk h
  intro ha
  exact Gate.not_settled_reference u (Gate.settled_of_above he h1 ha)

/-- Where every name stands for one use, the answer can be read off what is above. -/
theorem mapUsage_eq_some_iff (h1 : OneUsePerName types v.supertypes fun _ => True)
    (u : MapUsage) : mapUsage v types = some u ↔ Above types v.supertypes u.reference := by
  constructor
  · exact above_of_mapUsage
  · intro ha
    cases hu : mapUsage v types with
    | none => exact absurd ha (not_above_of_mapUsage (h1.weaken fun _ _ => trivial) hu u)
    | some w =>
      -- the answer stands for a use above as well, so the two are the same use
      have hname : w.reference.name = u.reference.name := by
        rw [Gate.reference_name, Gate.reference_name]
      have hw := h1 _ _ (above_of_mapUsage hu) ha trivial hname
      rw [Gate.reference_injective hw]

/-- The uses above decide the answer, where every name stands for one of them. -/
theorem mapUsage_congr (h1 : OneUsePerName types v.supertypes fun _ => True)
    (ha : ∀ t, Above types v.supertypes t ↔ Above types' v'.supertypes t) :
    mapUsage v' types' = mapUsage v types := by
  have h1' : OneUsePerName types' v'.supertypes fun _ => True := fun a b hb hc =>
    h1 a b ((ha a).2 hb) ((ha b).2 hc)
  refine Option.ext fun u => ?_
  rw [mapUsage_eq_some_iff h1, mapUsage_eq_some_iff h1', ha]

theorem above_reorder_iff (ht : types.Reorders types') (hs : v.supertypes.Perm v'.supertypes)
    (t : TypeRef) : Above types v.supertypes t ↔ Above types' v'.supertypes t :=
  ⟨.reorder ht hs, .reorder ht.symm hs.symm⟩

/-- **The gate decides assignability.** The answers are sound for every hierarchy, complete where
names other than the map interface's stand for one use, and independent of every order where all
names do. -/
theorem mapUsage_assignability (types : Resolver) (v : ValueType) :
    (mapUsage v types = some .raw → Above types v.supertypes (.plain mapName)) ∧
    (mapUsage v types = some .parameterized → Above types v.supertypes targetMap) ∧
    (OneUsePerName types v.supertypes (· ≠ mapName) → mapUsage v types = none →
      ¬ Above types v.supertypes (.plain mapName) ∧ ¬ Above types v.supertypes targetMap) ∧
    (OneUsePerName types v.supertypes (fun _ => True) →
      (mapUsage v types = some .raw ↔ Above types v.supertypes (.plain mapName)) ∧
      (mapUsage v types = some .parameterized ↔ Above types v.supertypes targetMap) ∧
      (∀ types' v', (∀ t, Above types v.supertypes t ↔ Above types' v'.supertypes t) →
        mapUsage v' types' = mapUsage v types) ∧
      (∀ types' v', types.Reorders types' → v.supertypes.Perm v'.supertypes →
        mapUsage v' types' = mapUsage v types)) := by
  refine ⟨above_of_mapUsage, above_of_mapUsage, fun h1 h => ?_, fun h1 => ?_⟩
  · exact ⟨not_above_of_mapUsage h1 h .raw, not_above_of_mapUsage h1 h .parameterized⟩
  · refine ⟨mapUsage_eq_some_iff h1 .raw, mapUsage_eq_some_iff h1 .parameterized, ?_, ?_⟩
    · intro types' v' ha
      exact mapUsage_congr h1 ha
    · intro types' v' ht hs
      exact mapUsage_congr h1 (above_reorder_iff ht hs)

/-! ## A diamond -/

/-- A generic base that leaves the type of the values open, and two types that fix it, one of them
beside a type that nobody declares. `flip` turns the order of the supertypes around. -/
def diamond (flip : Bool) : Resolver := .ofTable (.ofList
  [⟨"Base", ["X"], [⟨mapName, [.plain stringName, .plain "X"]⟩]⟩,
   ⟨"Left", [], if flip then [.plain "Absent", ⟨"Base", [.plain objectName]⟩]
    else [⟨"Base", [.plain objectName]⟩, .plain "Absent"]⟩,
   ⟨"Right", [], [⟨"Base", [.plain objectName]⟩]⟩])

/-- A value type with both sides of the diamond as its supertypes. -/
def diamondType (flip : Bool) : ValueType :=
  ⟨"", "Diamond", [],
    if flip then [.plain "Right", .plain "Left"] else [.plain "Left", .plain "Right"], []⟩

/-- A value type below the base that asks for texts as values. -/
def narrowType : ValueType := ⟨"", "Narrow", [], [⟨"Base", [.plain stringName]⟩], []⟩

theorem diamond_reorders : (diamond false).Reorders (diamond true) := by
  intro name
  simp only [diamond, Resolver.declaration_ofTable, TypeTable.ofList, List.foldl_cons,
    List.foldl_nil, TypeTable.declaration_insert, TypeTable.declaration_empty]
  split
  · exact .some ⟨rfl, rfl, .refl _⟩
  · split
    · exact .some ⟨rfl, rfl, List.Perm.swap _ _ _⟩
    · split
      · exact .some ⟨rfl, rfl, .refl _⟩
      · exact .none

/-- Names stand for one use if they occur once in a closed list. -/
theorem OneUsePerName.of_closed (all : List TypeRef) {start : List TypeRef}
    (hs : ∀ s ∈ start, s ∈ all)
    (hc : ∀ r ∈ all, r.name ≠ mapName → ∀ d ∈ types.declaration r.name,
      ∀ s ∈ d.supertypesFor r, s ∈ all)
    {names : String → Prop}
    (hone : ∀ a ∈ all, ∀ b ∈ all, names a.name → a.name = b.name → a = b) :
    OneUsePerName types start names := by
  intro a b ha hb hn hname
  exact hone a (ha.mem_of_closed hs hc) b (hb.mem_of_closed hs hc) hn hname

/-- The diamond reaches the map interface on two ways, and the answer is the same for its flipped
form; the narrow type reaches it with other arguments, and has no answer. -/
theorem mapUsage_assignability_diamond :
    mapUsage (diamondType false) (diamond false) = some .parameterized ∧
    mapUsage (diamondType true) (diamond true) = some .parameterized ∧
    ¬ Above (diamond false) narrowType.supertypes (.plain mapName) ∧
    ¬ Above (diamond false) narrowType.supertypes targetMap := by
  have hone : OneUsePerName (diamond false) (diamondType false).supertypes fun _ => True :=
    .of_closed [.plain "Left", .plain "Right", ⟨"Base", [.plain objectName]⟩,
      .plain "Absent", targetMap] (by decide) (by decide) (by decide)
  have htarget : Above (diamond false) (diamondType false).supertypes targetMap := by
    have hright : Above (diamond false) (diamondType false).supertypes (.plain "Right") :=
      .listed (by decide)
    have hbase : Above (diamond false) (diamondType false).supertypes
        ⟨"Base", [.plain objectName]⟩ :=
      .inherited hright (by decide) (d := ⟨"Right", [], [⟨"Base", [.plain objectName]⟩]⟩)
        (by decide) (by decide)
    exact .inherited hbase (by decide)
      (d := ⟨"Base", ["X"], [⟨mapName, [.plain stringName, .plain "X"]⟩]⟩) (by decide) (by decide)
  obtain ⟨_, _, _, hfull⟩ := mapUsage_assignability (diamond false) (diamondType false)
  obtain ⟨_, hparam, _, horder⟩ := hfull hone
  have hanswer : mapUsage (diamondType false) (diamond false) = some .parameterized :=
    hparam.2 htarget
  have hflip : mapUsage (diamondType true) (diamond true)
      = mapUsage (diamondType false) (diamond false) :=
    horder _ _ diamond_reorders (List.Perm.swap _ _ _)
  have hnarrow : OneUsePerName (diamond false) narrowType.supertypes (· ≠ mapName) :=
    .of_closed [⟨"Base", [.plain stringName]⟩,
      ⟨mapName, [.plain stringName, .plain stringName]⟩] (by decide) (by decide) (by decide)
  -- one look-up leads to a use of the map interface that decides nothing
  have hrefused : mapUsage narrowType (diamond false) = none := by
    have hbase : (diamond false).declaration "Base"
        = some ⟨"Base", ["X"], [⟨mapName, [.plain stringName, .plain "X"]⟩]⟩ := by decide
    rw [mapUsage, Gate.walkFrom, narrowType, Gate.walk_known (by decide) (by decide) hbase,
      Walk.usage_afterLookup]
    show (Gate.walk _ _ [⟨mapName, [.plain stringName, .plain stringName]⟩]).usage = none
    rw [Gate.walk_undecided rfl (by decide), Gate.walk]
    rfl
  obtain ⟨_, _, hnone, _⟩ := mapUsage_assignability (diamond false) narrowType
  exact ⟨hanswer, hflip.trans hanswer, hnone hnarrow hrefused⟩

end MapBacked
