import MapBacked.Proofs.Gate.Walk

/-!
# The gate searches depth first

The walk of the gate keeps one list of pending uses, in which the supertypes of a use stand in front
of the siblings that it had. This file says what that comes to without such a list, as a recursion
that goes through a list of uses from left to right (`Gate.search`). It searches above a use
completely before it turns to the next one, and hands on which names were visited, so that none is
searched twice.

That the two are the same has to be said of a list with something behind it (`Gate.walk_append`),
since this is how the walk goes up: the siblings wait behind the supertypes, and it is only when
nothing was found above that their turn comes. Where several uses of the map interface are above,
the first one decides in the order in which a search that nothing stops meets them (`Gate.tour`,
`mapUsage_eq_some_iff_first`).
-/

namespace MapBacked

/-- The direct supertypes of a use. One that nobody declares has none. -/
def Resolver.inherited (types : Resolver) (t : TypeRef) : List TypeRef :=
  match types.declaration t.name with
  | some d => d.supertypesFor t
  | none => []

/-- Goes on with another walk where this one found nothing. -/
def Walk.andThen (w next : Walk) : Walk :=
  match w.usage with
  | some _ => w
  | none => ⟨next.usage, w.lookups ++ next.lookups⟩

namespace Gate

variable {types : Resolver} {visited : List String} {t : TypeRef} {u : MapUsage}

/-! ## The recursion -/

theorem measure_inherited_lt (hs : t.name ∉ visited) (rest : List TypeRef) :
    Prod.Lex (· < ·) (· < ·)
      ((types.unseen (t.name :: visited)).length, (types.inherited t).length)
      ((types.unseen visited).length, (t :: rest).length) := by
  cases hd : types.declaration t.name with
  | some d =>
    have hk := Resolver.mem_knownNames_of_declaration hd
    exact .left _ _ (Resolver.unseen_cons_lt hk hs)
  | none =>
    -- no name may be used up, but then there is nothing above
    have hnone : types.inherited t = [] := by rw [Resolver.inherited, hd]
    rw [hnone]
    rcases Nat.lt_or_eq_of_le (Resolver.unseen_cons_le types visited t.name) with hlt | heq
    · exact .left _ _ hlt
    · rw [heq]
      exact .right _ (Nat.succ_pos _)

/-- Whatever more was visited above a use, beside it there is less left to search. -/
theorem measure_beside_lt (more : List String) (rest : List TypeRef) :
    Prod.Lex (· < ·) (· < ·)
      ((types.unseen (more ++ t.name :: visited)).length, rest.length)
      ((types.unseen visited).length, (t :: rest).length) := by
  have hle : (types.unseen (more ++ t.name :: visited)).length ≤ (types.unseen visited).length := by
    induction more with
    | nil => exact Resolver.unseen_cons_le types visited t.name
    | cons n more ih => exact Nat.le_trans (Resolver.unseen_cons_le types _ n) ih
  rcases Nat.lt_or_eq_of_le hle with hlt | heq
  · exact .left _ _ hlt
  · rw [heq]
    exact .right _ (Nat.lt_succ_self _)

/-- Searches the uses from left to right, and above each of them before the next one. A use of the
map interface ends the search if it is raw or carries exactly the wanted arguments, and is passed
over otherwise. Any other name is looked up when it is visited first, so that the names visited
after a search are those in `visited` and those that it looked up. -/
def search (types : Resolver) (visited : List String) : List TypeRef → Walk
  | [] => .done none
  | t :: rest =>
    if t.name = mapName then
      if t.args = [] then .done (some .raw)
      else if t.args = [.plain stringName, .plain objectName] then .done (some .parameterized)
      else search types visited rest
    else if t.name ∈ visited then search types visited rest
    else
      let above := search types (t.name :: visited) (types.inherited t)
      let beside := search types (above.lookups.reverse ++ t.name :: visited) rest
      (above.andThen beside).afterLookup t.name
termination_by ts => ((types.unseen visited).length, ts.length)
decreasing_by
  · exact .right _ (Nat.lt_succ_self _)
  · exact .right _ (Nat.lt_succ_self _)
  · exact measure_inherited_lt ‹_› rest
  · exact measure_beside_lt _ rest

/-! ## The walk is the search -/

theorem walk_unseen {pending : List TypeRef} {seen : List String} (hn : t.name ≠ mapName)
    (hs : t.name ∉ seen) :
    walk types seen (t :: pending)
      = (walk types (t.name :: seen) (types.inherited t ++ pending)).afterLookup t.name := by
  cases hd : types.declaration t.name with
  | some d =>
    rw [walk_known hn hs hd, Resolver.inherited, hd]
  | none =>
    rw [walk_unknown hn hs hd, Resolver.inherited, hd]
    rfl

theorem walk_decided {pending : List TypeRef} {seen : List String} (hn : t.name = mapName)
    (hd : decide? t = some u) : walk types seen (t :: pending) = .done (some u) := by
  rw [walk, if_pos hn, hd]

/-- Going on above a use and then beside it is going on with both, once its name was visited. -/
theorem andThen_afterLookup_andThen (n : String) (above beside : Walk) (next : List String → Walk)
    (visited : List String) :
    ((above.andThen beside).afterLookup n).andThen
        (next (((above.andThen beside).afterLookup n).lookups.reverse ++ visited))
      = (above.andThen (beside.andThen (next
          (beside.lookups.reverse ++ (above.lookups.reverse ++ n :: visited))))).afterLookup n := by
  obtain ⟨_ | u, ls⟩ := above
  · obtain ⟨_ | u, ls'⟩ := beside
    · simp [Walk.andThen, Walk.afterLookup]
    · simp [Walk.andThen, Walk.afterLookup]
  · rfl

/-- **The walk is the search**, and then goes on with what stands behind. The induction is on the
search; what is pending has to be arbitrary, since the siblings are put before it on the way up. -/
theorem walk_append (types : Resolver) (visited : List String) (ts pending : List TypeRef) :
    walk types visited (ts ++ pending)
      = (search types visited ts).andThen
          (walk types ((search types visited ts).lookups.reverse ++ visited) pending) := by
  fun_induction search types visited ts generalizing pending with
  | case1 visited => rfl
  | case2 visited t rest hn ha =>
    rw [List.cons_append, walk_decided hn (decide?_raw ha)]
    rfl
  | case3 visited t rest hn hr hp =>
    rw [List.cons_append, walk_decided hn (decide?_parameterized hp)]
    rfl
  | case4 visited t rest hn hr hp ih =>
    rw [List.cons_append, walk_undecided hn (decide?_other hr hp)]
    exact ih pending
  | case5 visited t rest hn hs ih =>
    rw [List.cons_append, walk_seen hn hs]
    exact ih pending
  | case6 visited t rest hn hs above beside ihabove ihbeside =>
    rw [List.cons_append, walk_unseen hn hs, ihabove, ihbeside]
    exact (andThen_afterLookup_andThen t.name above beside (fun seen => walk types seen pending)
      visited).symm

/-! ## Which use decides -/

/-- The uses that are met, and the names that are visited for the first time, each in order. -/
structure Tour where
  met : List TypeRef
  marked : List String

/-- The search with nothing to stop it. -/
def tour (types : Resolver) (visited : List String) : List TypeRef → Tour
  | [] => ⟨[], []⟩
  | t :: rest =>
    if t.name = mapName ∨ t.name ∈ visited then
      let beside := tour types visited rest
      ⟨t :: beside.met, beside.marked⟩
    else
      let above := tour types (t.name :: visited) (types.inherited t)
      let beside := tour types (above.marked.reverse ++ t.name :: visited) rest
      ⟨t :: above.met ++ beside.met, t.name :: above.marked ++ beside.marked⟩
termination_by ts => ((types.unseen visited).length, ts.length)
decreasing_by
  · exact .right _ (Nat.lt_succ_self _)
  · rename_i h
    exact measure_inherited_lt (fun hm => h (.inr hm)) rest
  · exact measure_beside_lt _ rest

theorem tour_passed (h : t.name = mapName ∨ t.name ∈ visited) (rest : List TypeRef) :
    tour types visited (t :: rest)
      = ⟨t :: (tour types visited rest).met, (tour types visited rest).marked⟩ := by
  rw [tour, if_pos h]

/-- The usage that a use stands for, if it stands for one. -/
def usageOf? (t : TypeRef) : Option MapUsage :=
  if t.name = mapName then decide? t else none

theorem usageOf?_eq_some_iff : usageOf? t = some u ↔ t = u.reference := by
  unfold usageOf?
  split
  · next hn => exact decide?_eq_some_iff hn
  · next hn =>
    constructor
    · intro h
      cases h
    · rintro rfl
      exact absurd (reference_name u) hn

/-- A search comes to the usage of the first use on the tour that stands for one. If there is no
such use it makes the whole tour. -/
structure Follows (w : Walk) (r : Tour) : Prop where
  usage : w.usage = r.met.findSome? usageOf?
  lookups : w.usage = none → w.lookups = r.marked

namespace Follows

variable {w w' : Walk} {r r' : Tour}

theorem decided (hu : usageOf? t = some u) : Follows (.done (some u)) ⟨t :: r.met, r.marked⟩ where
  usage := by
    rw [List.findSome?_cons, hu]
    rfl
  lookups := by
    intro h
    cases h

theorem passed (hu : usageOf? t = none) (h : Follows w r) : Follows w ⟨t :: r.met, r.marked⟩ where
  usage := by rw [h.usage, List.findSome?_cons, hu]
  lookups := h.lookups

/-- Beside a use the search goes on only if it found nothing above, so only then it has to follow
the tour there. -/
theorem expanded (hu : usageOf? t = none) (h : Follows w r) (h' : w.usage = none → Follows w' r') :
    Follows ((w.andThen w').afterLookup t.name)
      ⟨t :: r.met ++ r'.met, t.name :: r.marked ++ r'.marked⟩ := by
  have hmet : (t :: r.met ++ r'.met).findSome? usageOf?
      = w.usage.or (r'.met.findSome? usageOf?) := by
    rw [List.cons_append, List.findSome?_cons, hu, List.findSome?_append, h.usage]
  cases hw : w.usage with
  | some u =>
    have hstop : w.andThen w' = w := by rw [Walk.andThen, hw]
    rw [hstop]
    constructor
    · rw [hmet, hw, Walk.usage_afterLookup, hw]
      rfl
    · intro hnone
      rw [Walk.usage_afterLookup, hw] at hnone
      cases hnone
  | none =>
    have hboth : w.andThen w' = ⟨w'.usage, r.marked ++ w'.lookups⟩ := by
      rw [Walk.andThen, hw, h.lookups hw]
    have hbeside := h' hw
    rw [hboth]
    constructor
    · rw [hmet, hw, ← hbeside.usage]
      rfl
    · intro hnone
      rw [Walk.lookups_afterLookup, hbeside.lookups hnone]
      rfl

end Follows

theorem usageOf?_of_name_ne (hn : t.name ≠ mapName) : usageOf? t = none := if_neg hn

theorem usageOf?_of_name (hn : t.name = mapName) : usageOf? t = decide? t := if_pos hn

theorem follows_search (types : Resolver) (visited : List String) (ts : List TypeRef) :
    Follows (search types visited ts) (tour types visited ts) := by
  fun_induction search types visited ts with
  | case1 visited =>
    rw [tour]
    exact ⟨rfl, fun _ => rfl⟩
  | case2 visited t rest hn ha =>
    rw [tour_passed (.inl hn)]
    apply Follows.decided
    rw [usageOf?_of_name hn, decide?_raw ha]
  | case3 visited t rest hn hr hp =>
    rw [tour_passed (.inl hn)]
    apply Follows.decided
    rw [usageOf?_of_name hn, decide?_parameterized hp]
  | case4 visited t rest hn hr hp ih =>
    rw [tour_passed (.inl hn)]
    refine .passed ?_ ih
    rw [usageOf?_of_name hn, decide?_other hr hp]
  | case5 visited t rest hn hs ih =>
    rw [tour_passed (.inr hs)]
    exact .passed (usageOf?_of_name_ne hn) ih
  | case6 visited t rest hn hs above beside ihabove ihbeside =>
    rw [tour, if_neg (by simp [hn, hs])]
    refine .expanded (usageOf?_of_name_ne hn) ihabove fun hnone => ?_
    rw [← ihabove.lookups hnone]
    exact ihbeside

end Gate

theorem walkFrom_eq_search (types : Resolver) (v : ValueType) :
    Gate.walkFrom types v = Gate.search types [] v.supertypes := by
  have h := Gate.walk_append types [] v.supertypes []
  rw [List.append_nil] at h
  rw [Gate.walkFrom, h]
  cases hw : Gate.search types [] v.supertypes with
  | mk usage lookups =>
    cases usage with
    | some u => rfl
    | none =>
      rw [Gate.walk, Walk.andThen, Walk.usage_done, Walk.lookups_done, List.append_nil]

theorem mapUsage_eq_some_iff_first (types : Resolver) (v : ValueType) (u : MapUsage) :
    mapUsage v types = some u ↔
      ∃ before after, (Gate.tour types [] v.supertypes).met = before ++ u.reference :: after ∧
        ∀ t ∈ before, ∀ w, t ≠ MapUsage.reference w := by
  have hfirst := (Gate.follows_search types [] v.supertypes).usage
  rw [← walkFrom_eq_search] at hfirst
  rw [mapUsage, hfirst, List.findSome?_eq_some_iff]
  constructor
  · rintro ⟨before, t, after, hmet, ht, hbefore⟩
    obtain rfl := Gate.usageOf?_eq_some_iff.1 ht
    refine ⟨before, after, hmet, ?_⟩
    rintro s hs w rfl
    have hnone := hbefore _ hs
    rw [Gate.usageOf?_eq_some_iff.2 rfl] at hnone
    cases hnone
  · rintro ⟨before, after, hmet, hbefore⟩
    refine ⟨before, u.reference, after, hmet, Gate.usageOf?_eq_some_iff.2 rfl, ?_⟩
    intro s hs
    cases hw : Gate.usageOf? s with
    | none => rfl
    | some w => exact absurd (Gate.usageOf?_eq_some_iff.1 hw) (hbefore s hs w)

/-- **The walk of the gate is a search from left to right.** The answer and the names that are
looked up, in their order, are those of the recursion that searches above a use completely before it
turns to the next one. So where several uses of the map interface are above, the usage is that of
the first use, in the order in which such a search meets them when nothing stops it, that stands for
one. -/
theorem gate_searches_depth_first (types : Resolver) (v : ValueType) :
    mapUsage v types = (Gate.search types [] v.supertypes).usage ∧
    mapLookups v types = (Gate.search types [] v.supertypes).lookups ∧
    ∀ u, mapUsage v types = some u ↔
      ∃ before after, (Gate.tour types [] v.supertypes).met = before ++ u.reference :: after ∧
        ∀ t ∈ before, ∀ w, t ≠ MapUsage.reference w := by
  have hwalk := walkFrom_eq_search types v
  refine ⟨?usage, ?lookups, mapUsage_eq_some_iff_first types v⟩
  case usage => rw [mapUsage, hwalk]
  case lookups => rw [mapLookups, hwalk]

/-! ## Two uses of the map interface -/

/-- A type that is a map from texts to its parameter, behind a supertype that nobody declares. -/
def branch : Resolver := .ofTable (.ofList
  [⟨"Branch", ["X"], [.plain "Absent", ⟨mapName, [.plain stringName, .plain "X"]⟩]⟩])

/-- A value type below the branch and below the raw map. -/
def branchFirst : ValueType :=
  ⟨"", "First", [], [⟨"Branch", [.plain objectName]⟩, .plain mapName], []⟩

def branchLast : ValueType :=
  ⟨"", "Last", [], [.plain mapName, ⟨"Branch", [.plain objectName]⟩], []⟩

/-- Of the two uses of the map interface the one in the branch decides if the branch is listed
first, although it is one level further up. -/
theorem gate_searches_depth_first_branch :
    mapUsage branchFirst branch = some .parameterized ∧
    mapUsage branchLast branch = some .raw := by
  obtain ⟨-, -, hfirst⟩ := gate_searches_depth_first branch branchFirst
  obtain ⟨-, -, hlast⟩ := gate_searches_depth_first branch branchLast
  have hbranch : branch.inherited ⟨"Branch", [⟨objectName, []⟩]⟩ = [⟨"Absent", []⟩, targetMap] := by
    decide
  have habsent : branch.inherited ⟨"Absent", []⟩ = [] := by decide
  have htour : (Gate.tour branch [] branchFirst.supertypes).met
      = [⟨"Branch", [.plain objectName]⟩, .plain "Absent"] ++ targetMap :: [.plain mapName] := by
    simp [branchFirst, Gate.tour, hbranch, habsent, TypeRef.plain, mapName, targetMap]
  have hbefore : ∀ t ∈ [⟨"Branch", [.plain objectName]⟩, TypeRef.plain "Absent"],
      ∀ w, t ≠ MapUsage.reference w := by
    intro t ht w
    cases w with
    | raw => revert t; decide
    | parameterized => revert t; decide
  have htour' : (Gate.tour branch [] branchLast.supertypes).met
      = [] ++ .plain mapName :: [⟨"Branch", [.plain objectName]⟩, .plain "Absent", targetMap] := by
    simp [branchLast, Gate.tour, hbranch, habsent, TypeRef.plain, mapName, targetMap]
  refine ⟨(hfirst _).2 ⟨_, _, htour, hbefore⟩, (hlast _).2 ⟨_, _, htour', ?_⟩⟩
  intro t ht
  cases ht

end MapBacked
