import MapBacked.Proofs.Gate.Above

/-!
# What a walk of the gate leaves behind

Two facts about every run of `Gate.walk`, from whatever names were seen and whatever is pending.

* A walk with an answer found it above the pending uses (`Gate.above_of_walk`).
* A walk without one expanded a list of uses that covers everything: each name was expanded once,
  and what is pending, and what an expanded use inherits, is settled (`Gate.Exhausted`). Settled
  means that the name was come by, or that the use is one of the map interface that decides nothing.

The second fact speaks of names, since that is what the walk remembers. Only where one name stands
for one use (`OneUsePerName`) does it say something about uses again: then every use above is
settled (`Gate.settled_of_above`).
-/

namespace MapBacked

/-- The use of the map interface that a usage stands for. -/
def MapUsage.reference : MapUsage → TypeRef
  | .raw => .plain mapName
  | .parameterized => targetMap

namespace Gate

variable {types : Resolver} {seen : List String} {pending : List TypeRef}

/-- A use of the map interface decides for the usage that it stands for, and for no other. -/
theorem decide?_eq_some_iff {t : TypeRef} (hn : t.name = mapName) {u : MapUsage} :
    decide? t = some u ↔ t = u.reference := by
  obtain ⟨name, args⟩ := t
  obtain rfl : name = mapName := hn
  unfold decide?
  cases args with
  | nil => cases u <;> simp [MapUsage.reference, TypeRef.plain, targetMap, TypeRef.isRaw]
  | cons a as => cases u <;> simp [MapUsage.reference, TypeRef.plain, targetMap, TypeRef.isRaw]

theorem decide?_raw {t : TypeRef} (ha : t.args = []) : decide? t = some .raw := by
  rw [decide?, if_pos (TypeRef.isRaw_iff.2 ha)]

theorem decide?_parameterized {t : TypeRef}
    (ha : t.args = [.plain stringName, .plain objectName]) :
    decide? t = some .parameterized := by
  rw [decide?, TypeRef.isRaw, ha]
  rfl

theorem decide?_other {t : TypeRef} (hr : t.args ≠ [])
    (hp : t.args ≠ [.plain stringName, .plain objectName]) : decide? t = none := by
  rw [decide?, if_neg, if_neg]
  · exact hp
  · rw [TypeRef.isRaw_iff]
    exact hr

theorem reference_name (u : MapUsage) : u.reference.name = mapName := by
  cases u <;> rfl

theorem reference_injective {u w : MapUsage} (h : u.reference = w.reference) : u = w := by
  cases u <;> cases w <;> first | rfl | exact absurd h (by decide)

/-! ## One visit -/

section Visit

variable {t : TypeRef}

theorem walk_undecided (hn : t.name = mapName) (hd : decide? t = none) :
    walk types seen (t :: pending) = walk types seen pending := by
  rw [walk, if_pos hn, hd]

theorem walk_seen (hn : t.name ≠ mapName) (hs : t.name ∈ seen) :
    walk types seen (t :: pending) = walk types seen pending := by
  rw [walk, if_neg hn, if_pos hs]

theorem walk_known (hn : t.name ≠ mapName) (hs : t.name ∉ seen) {d : TypeDecl}
    (hd : types.declaration t.name = some d) :
    walk types seen (t :: pending)
      = (walk types (t.name :: seen) (d.supertypesFor t ++ pending)).afterLookup t.name := by
  rw [walk, if_neg hn, if_neg hs]
  split
  · next d' hd' =>
    rw [hd] at hd'
    cases hd'
    rfl
  · next hd' =>
    rw [hd] at hd'
    cases hd'

theorem walk_unknown (hn : t.name ≠ mapName) (hs : t.name ∉ seen)
    (hd : types.declaration t.name = none) :
    walk types seen (t :: pending) = (walk types (t.name :: seen) pending).afterLookup t.name := by
  rw [walk, if_neg hn, if_neg hs]
  split
  · next d' hd' =>
    rw [hd] at hd'
    cases hd'
  · rfl

end Visit

/-- **Soundness.** The usage that a walk answers with stands for a use above the pending ones. -/
theorem above_of_walk {u : MapUsage} (h : (walk types seen pending).usage = some u) :
    Above types pending u.reference := by
  fun_induction walk types seen pending with
  | case1 seen => exact absurd h (by simp)
  | case2 seen t pending hn usage hd =>
    simp only [Walk.usage_done, Option.some.injEq] at h
    subst h
    rw [← (decide?_eq_some_iff hn).1 hd]
    exact .listed List.mem_cons_self
  | case3 seen t pending hn hd ih => exact (ih h).cons
  | case4 seen t pending hn hs ih => exact (ih h).cons
  | case5 seen t pending hn hs d hd ih => exact .of_expanded hn hd (ih h)
  | case6 seen t pending hn hs hd ih => exact (ih h).cons

/-! ## Walks without an answer -/

/-- A use that needs no further visit: its name was come by, before the walk or on it, or it is a
use of the map interface that decides nothing. -/
def Settled (seen : List String) (expanded : List TypeRef) (t : TypeRef) : Prop :=
  if t.name = mapName then decide? t = none
  else t.name ∈ seen ∨ ∃ r ∈ expanded, r.name = t.name

/-- The uses that a walk expanded when it ends without an answer. -/
structure Exhausted (types : Resolver) (seen : List String) (pending expanded : List TypeRef) :
    Prop where
  lookups : (walk types seen pending).lookups = expanded.map TypeRef.name
  above : ∀ r ∈ expanded, Above types pending r
  pending : ∀ t ∈ pending, Settled seen expanded t
  inherited : ∀ r ∈ expanded, ∀ d, types.declaration r.name = some d →
    ∀ t ∈ d.supertypesFor r, Settled seen expanded t

theorem Settled.of_seen {expanded : List TypeRef} {r t : TypeRef}
    (h : Settled (r.name :: seen) expanded t) : Settled seen (r :: expanded) t := by
  unfold Settled at h ⊢
  split at h
  · next hn => rw [if_pos hn]; exact h
  · next hn =>
    rw [if_neg hn]
    rcases h with h | ⟨s, hs, hr⟩
    · -- either the name was seen before, or it is the one that just was
      rcases List.mem_cons.1 h with h | h
      · exact .inr ⟨r, List.mem_cons_self, h.symm⟩
      · exact .inl h
    · exact .inr ⟨s, List.mem_cons_of_mem _ hs, hr⟩

/-- A settled use may be put in front of what is pending: the walk passes over it. -/
theorem Exhausted.cons_settled {expanded : List TypeRef} {t : TypeRef}
    (hw : (walk types seen (t :: pending)).lookups = (walk types seen pending).lookups)
    (ht : Settled seen expanded t) (h : Exhausted types seen pending expanded) :
    Exhausted types seen (t :: pending) expanded where
  lookups := hw.trans h.lookups
  above := fun r hr => (h.above r hr).cons
  pending := fun s hs => by
    rcases List.mem_cons.1 hs with rfl | hs
    · exact ht
    · exact h.pending s hs
  inherited := h.inherited

/-- A use that is expanded may be put in front of what is pending, where what it inherits was: from
then on its name counts as seen. -/
theorem Exhausted.cons_expanded (found : List TypeRef) {expanded : List TypeRef} {t : TypeRef}
    (hn : t.name ≠ mapName)
    (hw : (walk types seen (t :: pending)).lookups
      = t.name :: (walk types (t.name :: seen) (found ++ pending)).lookups)
    (hf : ∀ d, types.declaration t.name = some d → ∀ s ∈ d.supertypesFor t, s ∈ found)
    (ha : ∀ r, Above types (found ++ pending) r → Above types (t :: pending) r)
    (h : Exhausted types (t.name :: seen) (found ++ pending) expanded) :
    Exhausted types seen (t :: pending) (t :: expanded) where
  lookups := by rw [hw, h.lookups, List.map_cons]
  above := fun r hr => by
    rcases List.mem_cons.1 hr with rfl | hr
    · exact .listed List.mem_cons_self
    · exact ha r (h.above r hr)
  pending := fun s hs => by
    rcases List.mem_cons.1 hs with rfl | hs
    · rw [Settled, if_neg hn]
      exact .inr ⟨s, List.mem_cons_self, rfl⟩
    · exact (h.pending s (List.mem_append_right _ hs)).of_seen
  inherited := fun r hr d hd s hs => by
    rcases List.mem_cons.1 hr with rfl | hr
    · exact (h.pending s (List.mem_append_left _ (hf d hd s hs))).of_seen
    · exact (h.inherited r hr d hd s hs).of_seen

/-- **Exhaustion.** A walk without an answer has settled what was pending and what the uses that it
expanded inherit. -/
theorem exhausted_of_walk (h : (walk types seen pending).usage = none) :
    ∃ expanded, Exhausted types seen pending expanded := by
  fun_induction walk types seen pending with
  | case1 seen => exact ⟨[], by simp [walk], by simp, by simp, by simp⟩
  | case2 seen t pending hn usage hd => exact absurd h (by simp)
  | case3 seen t pending hn hd ih =>
    obtain ⟨expanded, he⟩ := ih h
    refine ⟨expanded, he.cons_settled ?_ ?_⟩
    · rw [walk_undecided hn hd]
    · rw [Settled, if_pos hn, hd]
  | case4 seen t pending hn hs ih =>
    obtain ⟨expanded, he⟩ := ih h
    refine ⟨expanded, he.cons_settled ?_ ?_⟩
    · rw [walk_seen hn hs]
    · rw [Settled, if_neg hn]
      exact .inl hs
  | case5 seen t pending hn hs d hd ih =>
    obtain ⟨expanded, he⟩ := ih h
    -- the supertypes of the declaration are pending from here on, in front of the others
    refine ⟨t :: expanded, he.cons_expanded _ hn ?_ ?_ fun r hr => .of_expanded hn hd hr⟩
    · rw [walk_known hn hs hd]
      rfl
    · intro d' hd' s hs'
      rw [hd] at hd'
      cases hd'
      exact hs'
  | case6 seen t pending hn hs hd ih =>
    obtain ⟨expanded, he⟩ := ih h
    -- a name that nobody declares has no supertypes, but counts as looked up
    refine ⟨t :: expanded, Exhausted.cons_expanded [] hn ?_ ?_ (fun r hr => hr.cons) he⟩
    · rw [walk_unknown hn hs hd]
      rfl
    · intro d' hd'
      rw [hd] at hd'
      cases hd'

/-! ## One use per name -/

end Gate

/-- Whether each of the given names stands for one use among those above. The host language asks for
that: a type inherits a generic type with one list of arguments. -/
def OneUsePerName (types : Resolver) (start : List TypeRef) (names : String → Prop) : Prop :=
  ∀ a b, Above types start a → Above types start b → names a.name → a.name = b.name → a = b

theorem OneUsePerName.weaken {types : Resolver} {start : List TypeRef} {p q : String → Prop}
    (h : OneUsePerName types start q) (hpq : ∀ n, p n → q n) : OneUsePerName types start p :=
  fun a b ha hb hn he => h a b ha hb (hpq _ hn) he

namespace Gate

variable {types : Resolver} {start : List TypeRef} {t : TypeRef}

/-- **Completeness.** Where names stand for one use, a walk without an answer settled every use
above. The induction is on how the use is reached: the use that was expanded under the name of its
inheritor can only be that inheritor, so what it inherits was settled with it. -/
theorem settled_of_above {expanded : List TypeRef} (he : Exhausted types [] start expanded)
    (h1 : OneUsePerName types start (· ≠ mapName)) (h : Above types start t) :
    Settled [] expanded t := by
  induction h with
  | listed h => exact he.pending _ h
  | inherited hr hn hd ht ih =>
    rw [Settled, if_neg hn] at ih
    rcases ih with hs | ⟨s, hs, hname⟩
    · exact absurd hs (by simp)
    · have heq := h1 _ _ hr (he.above s hs) hn hname.symm
      subst heq
      exact he.inherited _ hs _ hd _ ht

/-- A use that stands for a usage is never settled: a walk that comes by it has its answer. -/
theorem not_settled_reference {seen : List String} {expanded : List TypeRef} (u : MapUsage) :
    ¬ Settled seen expanded u.reference := by
  rw [Settled, if_pos (reference_name u), (decide?_eq_some_iff (reference_name u)).2 rfl]
  simp

end Gate

end MapBacked
