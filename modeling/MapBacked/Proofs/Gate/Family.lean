import MapBacked.Proofs.Gate.Assignability
import MapBacked.Proofs.Gate.Supertypes
import MapBacked.Proofs.Types.Table

/-!
# The gate over the map family

A host that brings no types of its own still has the map family. What the gate answers for a value
type with one supertype has a closed form there (`familyUsage`), although the family is no chain:
most of its members come to the map interface on several ways, of up to three steps.

The ways do not differ because every step hands on the same two arguments. A missing one is handed
on as the parameter that it should stand for and surplus ones are dropped, and once that has
happened a further step changes nothing (`handedOn_handedOn`). A name stands for one use then, since
a member is declared behind those that it extends and cannot come back above itself
(`rank_lt_of_mem`). So the gate decides assignability, and there is one use of the map interface to
be assigned to.
-/

namespace MapBacked

/-- The members of the family that are below the map interface. -/
def familyNames : List String :=
  [abstractMapName, sortedMapName, navigableMapName, hashMapName, linkedHashMapName, treeMapName,
   concurrentMapName, concurrentHashMapName]

/-- The answer of the gate for one supertype, if nothing but the family is known. The map interface
itself has to carry the two arguments that are asked for, while a member below it has to carry them
in front. -/
def familyUsage (r : TypeRef) : Option MapUsage :=
  if r.name = mapName then
    if r.args = [] then some .raw
    else if r.args = [.plain stringName, .plain objectName] then some .parameterized
    else none
  else if r.name ∈ familyNames then
    if r.args = [] then some .raw
    else if [.plain stringName, .plain objectName] <+: r.args then some .parameterized
    else none
  else none

/-! ## The arguments -/

/-- The arguments that a use of a family member hands on to its supertypes. -/
def handedOn : List TypeRef → List TypeRef
  | [] => []
  | [key] => [key, .plain "V"]
  | key :: value :: _ => [key, value]

/-- Every further step hands on the same. -/
theorem handedOn_handedOn (args : List TypeRef) : handedOn (handedOn args) = handedOn args := by
  rcases args with _ | ⟨key, _ | ⟨value, rest⟩⟩ <;> rfl

theorem handedOn_eq_nil_iff {args : List TypeRef} : handedOn args = [] ↔ args = [] := by
  rcases args with _ | ⟨key, _ | ⟨value, rest⟩⟩ <;> simp [handedOn]

/-- The parameter that stands for a missing value is not the argument that is asked for. -/
theorem handedOn_eq_target_iff {args : List TypeRef} :
    handedOn args = [.plain stringName, .plain objectName]
      ↔ [.plain stringName, .plain objectName] <+: args := by
  have hparam : TypeRef.plain "V" ≠ .plain objectName := by decide
  rcases args with _ | ⟨key, _ | ⟨value, rest⟩⟩
  · simp [handedOn]
  · simp [handedOn, hparam]
  · simp [handedOn, List.cons_prefix_cons, eq_comm]

theorem supertypesFor_familyMember (name : String) (supertypes : List String) (usage : TypeRef) :
    (familyMember name supertypes).supertypesFor usage
      = supertypes.map fun n => ⟨n, handedOn usage.args⟩ := by
  obtain ⟨n, args⟩ := usage
  rw [familyMember]
  rcases args with _ | ⟨key, rest⟩
  · rw [TypeDecl.supertypesFor_of_raw rfl (by simp), List.map_map]
    rfl
  · rw [TypeDecl.supertypesFor_of_args (by simp), List.map_map]
    cases rest with
    | nil => rfl
    | cons value rest => rfl

/-! ## The declarations -/

theorem declaration_mapFamily (n : String) :
    Resolver.mapFamily.declaration n = lastNamed? n mapFamily := by
  rw [Resolver.mapFamily, Resolver.declaration_ofTable, TypeTable.mapFamily,
    TypeTable.declaration_ofList]

theorem mem_mapFamily_of_declaration {n : String} {d : TypeDecl}
    (h : Resolver.mapFamily.declaration n = some d) : d ∈ mapFamily ∧ d.name = n := by
  rw [declaration_mapFamily] at h
  simpa using List.mem_of_getLast? h

theorem exists_declaration_of_member {n : String} (h : n ∈ familyNames) :
    ∃ d, Resolver.mapFamily.declaration n = some d := by
  have hlisted : ∀ n ∈ familyNames, ∃ d ∈ mapFamily, d.name = n := by decide
  obtain ⟨d, hd, hname⟩ := hlisted n h
  rw [declaration_mapFamily]
  have hsome : mapFamily.filter (·.name = n) ≠ [] :=
    List.ne_nil_of_mem (List.mem_filter.2 ⟨hd, by simpa using hname⟩)
  exact ⟨_, List.getLast?_eq_some_getLast hsome⟩

/-- The place at which a name is declared. -/
def familyRank (n : String) : Nat := (mapFamily.map (·.name)).idxOf n

/-- A type is declared behind those that it extends. -/
theorem rank_lt_of_mem :
    ∀ d ∈ mapFamily, ∀ s ∈ d.supertypes, familyRank s.name < familyRank d.name := by decide

/-- A member below the map interface is generic in key and value and extends members only. -/
theorem eq_familyMember : ∀ d ∈ mapFamily, d.name ∈ familyNames →
    d = familyMember d.name (d.supertypes.map TypeRef.name) := by decide

theorem supertypes_of_member : ∀ d ∈ mapFamily, d.name ∈ familyNames →
    d.supertypes ≠ [] ∧ ∀ s ∈ d.supertypes, s.name ∈ mapName :: familyNames := by decide

theorem ne_mapName_of_member {n : String} (h : n ∈ familyNames) : n ≠ mapName := by
  rintro rfl
  exact absurd h (by decide)

/-- What is no member extends no member. -/
theorem supertypes_of_other : ∀ d ∈ mapFamily, d.name ∉ mapName :: familyNames →
    ∀ s ∈ d.supertypes, s.name ∉ mapName :: familyNames := by decide

theorem extendsNoVariable_of_mem : ∀ d ∈ mapFamily, d.ExtendsNoVariable := by decide

/-! ## What is above a member -/

/-- The second use is one of a member further up, with the arguments that the first one hands on. -/
structure HandsOnTo (r t : TypeRef) : Prop where
  args : t.args = handedOn r.args
  member : t.name ∈ mapName :: familyNames
  rank : familyRank t.name < familyRank r.name

variable {r s t : TypeRef} {d : TypeDecl}

theorem HandsOnTo.trans (h : HandsOnTo r s) (h' : HandsOnTo s t) : HandsOnTo r t where
  args := by rw [h'.args, h.args, handedOn_handedOn]
  member := h'.member
  rank := h'.rank.trans h.rank

/-- No name comes back above itself. -/
theorem HandsOnTo.name_ne (h : HandsOnTo r t) : t.name ≠ r.name := by
  intro hname
  have hrank := h.rank
  rw [hname] at hrank
  exact lt_irrefl _ hrank

theorem supertypesFor_of_member (hd : d ∈ mapFamily) (hn : d.name ∈ familyNames) (usage : TypeRef) :
    d.supertypesFor usage = d.supertypes.map fun s => ⟨s.name, handedOn usage.args⟩ := by
  conv_lhs => rw [eq_familyMember d hd hn, supertypesFor_familyMember, List.map_map]
  rfl

theorem handsOnTo_of_mem (hr : r.name ∈ familyNames)
    (hd : Resolver.mapFamily.declaration r.name = some d) (ht : t ∈ d.supertypesFor r) :
    HandsOnTo r t := by
  obtain ⟨hmem, hname⟩ := mem_mapFamily_of_declaration hd
  rw [← hname] at hr
  rw [supertypesFor_of_member hmem hr] at ht
  obtain ⟨s, hs, rfl⟩ := List.mem_map.1 ht
  obtain ⟨-, hmembers⟩ := supertypes_of_member d hmem hr
  have hrank := rank_lt_of_mem d hmem s hs
  rw [hname] at hrank
  exact ⟨rfl, hmembers s hs, hrank⟩

theorem exists_handsOnTo (hr : r.name ∈ familyNames) :
    ∃ s, Above .mapFamily [r] s ∧ HandsOnTo r s := by
  obtain ⟨d, hd⟩ := exists_declaration_of_member hr
  obtain ⟨hmem, hname⟩ := mem_mapFamily_of_declaration hd
  have hmember : d.name ∈ familyNames := hname ▸ hr
  obtain ⟨hsome, -⟩ := supertypes_of_member d hmem hmember
  obtain ⟨s, hs⟩ := List.exists_mem_of_ne_nil _ hsome
  have hmemFor : ⟨s.name, handedOn r.args⟩ ∈ d.supertypesFor r := by
    rw [supertypesFor_of_member hmem hmember]
    exact List.mem_map_of_mem hs
  exact ⟨_, .inherited (.listed List.mem_cons_self) (ne_mapName_of_member hr) hd hmemFor,
    handsOnTo_of_mem hr hd hmemFor⟩

theorem mem_familyNames_of_ne (hn : s.name ≠ mapName) (h : s.name ∈ mapName :: familyNames) :
    s.name ∈ familyNames := (List.mem_cons.1 h).resolve_left hn

/-- Every use above a use of a member is that use or has the arguments that it hands on. -/
theorem eq_or_handsOnTo_of_above (hr : r.name ∈ familyNames) (h : Above .mapFamily [r] t) :
    t = r ∨ HandsOnTo r t := by
  induction h with
  | listed h => exact .inl (List.mem_singleton.1 h)
  | inherited _ hn hd ht ih =>
    rcases ih with rfl | ih
    · exact .inr (handsOnTo_of_mem hr hd ht)
    · exact .inr (ih.trans (handsOnTo_of_mem (mem_familyNames_of_ne hn ih.member) hd ht))

theorem oneUsePerName_of_member (hr : r.name ∈ familyNames) :
    OneUsePerName .mapFamily [r] fun _ => True := by
  intro a b ha hb _ hname
  rcases eq_or_handsOnTo_of_above hr ha with rfl | ha
  · rcases eq_or_handsOnTo_of_above hr hb with rfl | hb
    · rfl
    · exact absurd hname.symm hb.name_ne
  · rcases eq_or_handsOnTo_of_above hr hb with rfl | hb
    · exact absurd hname ha.name_ne
    · obtain ⟨n, args⟩ := a
      obtain ⟨m, args'⟩ := b
      obtain rfl : n = m := hname
      obtain rfl : args = args' := ha.args.trans hb.args.symm
      rfl

/-- The map interface is above every member. The induction goes up by way of any of the supertypes,
since all of them stand before the member. -/
theorem above_map_of_member (hr : r.name ∈ familyNames) :
    Above .mapFamily [r] ⟨mapName, handedOn r.args⟩ := by
  induction hk : familyRank r.name using Nat.strong_induction_on generalizing r with
  | _ k ih =>
    obtain ⟨s, habove, hon⟩ := exists_handsOnTo hr
    by_cases hn : s.name = mapName
    · obtain ⟨n, args⟩ := s
      obtain rfl : n = mapName := hn
      rw [← hon.args]
      exact habove
    · have hmap := ih _ (hk ▸ hon.rank) (mem_familyNames_of_ne hn hon.member) rfl
      rw [hon.args, handedOn_handedOn] at hmap
      exact hmap.mono fun u hu => List.mem_singleton.1 hu ▸ habove

/-! ## What is above any other type -/

theorem not_member_of_above (hr : r.name ∉ mapName :: familyNames)
    (h : Above .mapFamily [r] t) : t.name ∉ mapName :: familyNames := by
  induction h with
  | listed h =>
    rw [List.mem_singleton.1 h]
    exact hr
  | inherited _ _ hd ht ih =>
    obtain ⟨hmem, hname⟩ := mem_mapFamily_of_declaration hd
    obtain ⟨s, hs, hname'⟩ := TypeDecl.exists_supertype_of_mem (extendsNoVariable_of_mem _ hmem) ht
    rw [← hname] at ih
    rw [← hname']
    exact supertypes_of_other _ hmem ih s hs

theorem eq_of_above_map (hr : r.name = mapName) (h : Above .mapFamily [r] t) : t = r := by
  induction h with
  | listed h => exact List.mem_singleton.1 h
  | inherited _ hn _ _ ih =>
    rw [ih] at hn
    exact absurd hr hn

/-! ## The answer -/

/-- Where names stand for one use, a use of the map interface above decides. -/
theorem mapUsage_eq_decide? {types : Resolver} {v : ValueType}
    (h1 : OneUsePerName types v.supertypes fun _ => True) (hn : t.name = mapName)
    (h : Above types v.supertypes t) : mapUsage v types = Gate.decide? t := by
  refine Option.ext fun u => ?_
  rw [mapUsage_eq_some_iff h1, Gate.decide?_eq_some_iff hn]
  constructor
  · intro ha
    exact h1 _ _ h ha trivial (hn.trans (Gate.reference_name u).symm)
  · rintro rfl
    exact h

theorem decide?_eq (t : TypeRef) : Gate.decide? t
    = if t.args = [] then some .raw
    else if t.args = [.plain stringName, .plain objectName] then some .parameterized
    else none := by
  split
  · next hraw => exact Gate.decide?_raw hraw
  · next hraw =>
    split
    · next htarget => exact Gate.decide?_parameterized htarget
    · next htarget => exact Gate.decide?_other hraw htarget

/-- **The gate over the map family in closed form.** For a value type with one supertype the answer
is read off the name and the arguments of that, however many and however deep these are. That an
argument is named like a parameter of the family makes no difference. -/
theorem mapUsage_over_mapFamily (v : ValueType) (r : TypeRef) :
    mapUsage { v with supertypes := [r] } .mapFamily = familyUsage r := by
  unfold familyUsage
  split
  · next hr =>
    -- nothing is inherited through the map interface
    have h1 : OneUsePerName .mapFamily [r] fun _ => True := by
      intro a b ha hb _ _
      rw [eq_of_above_map hr ha, eq_of_above_map hr hb]
    rw [mapUsage_eq_decide? h1 hr (.listed List.mem_cons_self), decide?_eq]
  · next hr =>
    split
    · next hmember =>
      rw [mapUsage_eq_decide? (oneUsePerName_of_member hmember) rfl (above_map_of_member hmember),
        decide?_eq]
      simp only [handedOn_eq_nil_iff, handedOn_eq_target_iff]
    · next hother =>
      have hno : r.name ∉ mapName :: familyNames := by
        intro hmem
        exact hother ((List.mem_cons.1 hmem).resolve_left hr)
      cases hu : mapUsage { v with supertypes := [r] } .mapFamily with
      | none => rfl
      | some u =>
        have hmap := not_member_of_above hno (above_of_mapUsage hu)
        rw [Gate.reference_name] at hmap
        exact absurd List.mem_cons_self hmap

end MapBacked
