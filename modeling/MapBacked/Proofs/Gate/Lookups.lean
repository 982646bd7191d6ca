import Mathlib.Data.List.Nodup
import MapBacked.Proofs.Gate.Rounds
import MapBacked.Proofs.Gate.Supertypes

/-!
# Which names the gate looks up

Every name is looked up once at most, and that of the map interface never: what a walk came by is a
list without repetitions, in every round (`Gate.Round.distinct`).

Which names these are can be said without a walk, as long as declarations list no type variables as
supertypes. `NameAbove` is what the names of the value type's supertypes lead to, declaration by
declaration; it knows nothing of arguments. A walk stays within these names, and one that finds
nothing looks all of them up.
-/

namespace MapBacked

open Relation

/-- The names that the listed uses lead to. Nothing is inherited through the map interface. -/
inductive NameAbove (types : Resolver) (start : List TypeRef) : String → Prop where
  | listed {t : TypeRef} (h : t ∈ start) : NameAbove types start t.name
  | inherited {n : String} {d : TypeDecl} {s : TypeRef} (h : NameAbove types start n)
      (hn : n ≠ mapName) (hd : types.declaration n = some d) (hs : s ∈ d.supertypes) :
      NameAbove types start s.name

namespace Gate

variable {types : Resolver} {start : List TypeRef} {p q : Position}

/-! ## Each name once -/

/-- The names are different ones, and none is that of the map interface. -/
structure Distinct (names : List String) : Prop where
  nodup : names.Nodup
  notMem : mapName ∉ names

theorem Distinct.cons {n : String} {names : List String} (h : Distinct names) (hn : n ≠ mapName)
    (hs : n ∉ names) : Distinct (n :: names) where
  nodup := List.nodup_cons.2 ⟨hs, h.nodup⟩
  notMem := by
    intro hm
    rcases List.mem_cons.1 hm with hm | hm
    · exact hn hm.symm
    · exact h.notMem hm

theorem Round.distinct (hr : Round types p q) (h : Distinct p.seen) : Distinct q.seen := by
  cases hr with
  | undecided hn hd => exact h
  | repeated hn hs => exact h
  | known hn hs hd => exact h.cons hn hs
  | unknown hn hs hd => exact h.cons hn hs

/-! ## No other names -/

/-- The position has to do with names above the start only. -/
structure Within (types : Resolver) (start : List TypeRef) (p : Position) : Prop where
  seen : ∀ n ∈ p.seen, NameAbove types start n
  pending : ∀ t ∈ p.pending, NameAbove types start t.name

theorem Round.within (hv : types.ExtendsNoVariable) (hr : Round types p q)
    (h : Within types start p) : Within types start q := by
  cases hr with
  | undecided hn hd => exact ⟨h.seen, fun t ht => h.pending t (List.mem_cons_of_mem _ ht)⟩
  | repeated hn hs => exact ⟨h.seen, fun t ht => h.pending t (List.mem_cons_of_mem _ ht)⟩
  | @known seen t pending d hn hs hd =>
    have ht : NameAbove types start t.name := h.pending t List.mem_cons_self
    refine ⟨List.forall_mem_cons.2 ⟨ht, h.seen⟩, fun r hr => ?_⟩
    rcases List.mem_append.1 hr with hr | hr
    · -- whatever the arguments are, the name is one that the declaration lists
      obtain ⟨s, hs, hname⟩ := TypeDecl.exists_supertype_of_mem (hv _ _ hd) hr
      rw [← hname]
      exact .inherited ht hn hd hs
    · exact h.pending r (List.mem_cons_of_mem _ hr)
  | unknown hn hs hd =>
    have ht := h.pending _ List.mem_cons_self
    exact ⟨List.forall_mem_cons.2 ⟨ht, h.seen⟩,
      fun r hr => h.pending r (List.mem_cons_of_mem _ hr)⟩

/-! ## All names, where nothing is found -/

theorem Settled.mem_names {expanded : List TypeRef} {t : TypeRef} (h : Settled [] expanded t)
    (hn : t.name ≠ mapName) : t.name ∈ expanded.map TypeRef.name := by
  rw [Settled, if_neg hn] at h
  rcases h with h | ⟨r, hr, hname⟩
  · exact absurd h (by simp)
  · rw [← hname]
    exact List.mem_map_of_mem hr

/-- A walk without an answer expanded a use of every name above. The induction is on how the name is
reached; that its use was expanded gives the names that the declaration lists. -/
theorem mem_names_of_nameAbove {expanded : List TypeRef} (hv : types.ExtendsNoVariable)
    (he : Exhausted types [] start expanded) {n : String} (h : NameAbove types start n)
    (hn : n ≠ mapName) : n ∈ expanded.map TypeRef.name := by
  induction h with
  | listed ht => exact (he.pending _ ht).mem_names hn
  | @inherited m d s _ hm hd hs ih =>
    obtain ⟨r, hr, rfl⟩ := List.mem_map.1 (ih hm)
    obtain ⟨t, ht, hname⟩ := TypeDecl.exists_mem_of_supertype (hv _ _ hd) r hs
    rw [← hname] at hn ⊢
    exact (he.inherited r hr d hd t ht).mem_names hn

end Gate

variable {types : Resolver} {v : ValueType}

/-- The names that are looked up are those that a run comes by, so what every round keeps of the
latter holds of them. -/
theorem exists_run_mapLookups (types : Resolver) (v : ValueType) :
    ∃ p, ReflTransGen (Gate.Round types) (.start v) p ∧ mapLookups v types = p.seen.reverse := by
  obtain ⟨p, u, hrun, hend⟩ := Gate.exists_ended types (.start v)
  exact ⟨p, hrun, Gate.mapLookups_of_run hrun hend⟩

/-- No name is looked up twice, and that of the map interface is not looked up. -/
theorem mapLookups_distinct (types : Resolver) (v : ValueType) :
    (mapLookups v types).Nodup ∧ mapName ∉ mapLookups v types := by
  obtain ⟨p, hrun, hseen⟩ := exists_run_mapLookups types v
  have hstart : Gate.Distinct [] := ⟨List.nodup_nil, List.not_mem_nil⟩
  have hp : Gate.Distinct p.seen :=
    Gate.invariant_of_run (I := fun p => Gate.Distinct p.seen) Gate.Round.distinct hrun hstart
  rw [hseen]
  exact ⟨List.nodup_reverse.2 hp.nodup, fun hm => hp.notMem (List.mem_reverse.1 hm)⟩

theorem nameAbove_of_mem_mapLookups (hv : types.ExtendsNoVariable) {n : String}
    (h : n ∈ mapLookups v types) : NameAbove types v.supertypes n := by
  obtain ⟨p, hrun, hseen⟩ := exists_run_mapLookups types v
  have hstart : Gate.Within types v.supertypes (.start v) :=
    ⟨fun n hn => absurd hn List.not_mem_nil, fun t ht => .listed ht⟩
  have hp : Gate.Within types v.supertypes p :=
    Gate.invariant_of_run (Gate.Round.within hv) hrun hstart
  rw [hseen] at h
  exact hp.seen n (List.mem_reverse.1 h)

theorem mem_mapLookups_of_nameAbove (hv : types.ExtendsNoVariable) (hu : mapUsage v types = none)
    {n : String} (h : NameAbove types v.supertypes n) (hn : n ≠ mapName) :
    n ∈ mapLookups v types := by
  obtain ⟨expanded, he⟩ := Gate.exhausted_of_walk hu
  have hlookups : mapLookups v types = expanded.map TypeRef.name := he.lookups
  rw [hlookups]
  exact Gate.mem_names_of_nameAbove hv he h hn

theorem mem_mapLookups_iff (hv : types.ExtendsNoVariable) (hu : mapUsage v types = none)
    (n : String) : n ∈ mapLookups v types ↔ NameAbove types v.supertypes n ∧ n ≠ mapName := by
  constructor
  · intro hn
    refine ⟨nameAbove_of_mem_mapLookups hv hn, ?_⟩
    rintro rfl
    exact (mapLookups_distinct types v).2 hn
  · rintro ⟨hn, hne⟩
    exact mem_mapLookups_of_nameAbove hv hu hn hne

/-- **The walk ends, and asks once for each name.** No run of rounds goes on for ever. From the
supertypes of a value type an end is reached, and at every end that is reached the answer is that of
the gate, and the names that were come by are the ones it looked up: different ones, without that of
the map interface. Where declarations list no type variables as supertypes these are names above the
value type, and all of them but the map interface's when there is no answer. -/
theorem walk_ends_and_asks_once (types : Resolver) (v : ValueType) :
    (∀ run : ℕ → Gate.Position, ∃ i, ¬ Gate.Round types (run i) (run (i + 1))) ∧
    (∃ p u, ReflTransGen (Gate.Round types) (.start v) p ∧ Gate.Ended p u) ∧
    (∀ p u, ReflTransGen (Gate.Round types) (.start v) p → Gate.Ended p u →
      u = mapUsage v types ∧ p.seen.reverse = mapLookups v types) ∧
    (mapLookups v types).Nodup ∧ mapName ∉ mapLookups v types ∧
    (types.ExtendsNoVariable →
      (∀ n ∈ mapLookups v types, NameAbove types v.supertypes n) ∧
      (mapUsage v types = none →
        ∀ n, n ∈ mapLookups v types ↔ NameAbove types v.supertypes n ∧ n ≠ mapName)) := by
  obtain ⟨hnodup, hmap⟩ := mapLookups_distinct types v
  refine ⟨Gate.exists_not_round types, Gate.exists_ended types _, ?outcome, hnodup, hmap, ?names⟩
  case outcome =>
    intro p u hrun hend
    exact ⟨(Gate.mapUsage_of_run hrun hend).symm, (Gate.mapLookups_of_run hrun hend).symm⟩
  case names =>
    intro hv
    refine ⟨?_, mem_mapLookups_iff hv⟩
    intro n hn
    exact nameAbove_of_mem_mapLookups hv hn

/-! ## A type that grows -/

/-- A generic type that extends itself with ever larger arguments, and beside itself a type that is
a map of other things than are asked for. -/
def growing : Resolver := .ofTable (.ofList
  [⟨"A", ["X"], [⟨"A", [⟨"List", [.plain "X"]⟩]⟩, ⟨"B", [.plain "X"]⟩]⟩,
   ⟨"B", ["X"], [⟨mapName, [.plain "X", .plain "X"]⟩, .plain "Absent"]⟩])

def growingType : ValueType := ⟨"", "Growing", [], [⟨"A", [.plain stringName]⟩], []⟩

/-- The walk up the growing type finds nothing, and has looked up whatever there is to look up. -/
theorem walk_ends_and_asks_once_growing :
    growing.ExtendsNoVariable ∧ mapUsage growingType growing = none ∧
    mapLookups growingType growing = ["A", "B", "Absent"] ∧
    ∀ n, n ∈ ["A", "B", "Absent"] ↔
      NameAbove growing growingType.supertypes n ∧ n ≠ mapName := by
  have hv : growing.ExtendsNoVariable := Resolver.extendsNoVariable_of_layers (by decide)
  have hA : growing.declaration "A"
      = some ⟨"A", ["X"], [⟨"A", [⟨"List", [.plain "X"]⟩]⟩, ⟨"B", [.plain "X"]⟩]⟩ := by decide
  have hB : growing.declaration "B"
      = some ⟨"B", ["X"], [⟨mapName, [.plain "X", .plain "X"]⟩, .plain "Absent"]⟩ := by decide
  have hrun : ReflTransGen (Gate.Round growing) (.start growingType)
      ⟨["Absent", "B", "A"], []⟩ :=
    .head (.known (by decide) (by decide) hA) <|
    -- the larger use of the type itself comes first, and is passed over
    .head (.repeated (by decide) (by decide)) <| .head (.known (by decide) (by decide) hB) <|
    .head (.undecided rfl (by decide)) <| .head (.unknown (by decide) (by decide) (by decide)) .refl
  have hu : mapUsage growingType growing = none := Gate.mapUsage_of_run hrun .exhausted
  have hlookups : mapLookups growingType growing = ["A", "B", "Absent"] :=
    Gate.mapLookups_of_run hrun .exhausted
  obtain ⟨-, -, -, -, -, hnames⟩ := walk_ends_and_asks_once growing growingType
  obtain ⟨-, hall⟩ := hnames hv
  have hiff := hall hu
  rw [hlookups] at hiff
  exact ⟨hv, hu, hlookups, hiff⟩

end MapBacked
