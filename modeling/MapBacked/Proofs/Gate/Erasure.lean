import Mathlib.Data.List.Forall2
import MapBacked.Proofs.Gate.Rounds
import MapBacked.Proofs.Gate.Supertypes

/-!
# Uses without their arguments

Leaving the arguments of a supertype out is never what makes a value type inapplicable. Two walks
are compared: one from the supertypes as they are written, and one from the same supertypes, some of
them without their arguments. They come by the same names round by round (`Gate.Erased.round`),
because declarations that list no type variables hand on the same names whatever the arguments are.
So the second walk visits a use of the map interface wherever the first one does, with the same
arguments or with none, and a use with none decides. It may have an answer earlier than the first,
and where the first one has an answer it has one, too.
-/

namespace MapBacked

open Relation

/-- The use as it is, or without its arguments. -/
def TypeRef.ErasesTo (t t' : TypeRef) : Prop := t' = t ∨ t' = t.erased

theorem TypeRef.ErasesTo.name {t t' : TypeRef} (h : t.ErasesTo t') : t'.name = t.name := by
  rcases h with rfl | rfl
  · rfl
  · rfl

theorem forall₂_erasesTo_self (ts : List TypeRef) : List.Forall₂ TypeRef.ErasesTo ts ts :=
  List.forall₂_same.2 fun _ _ => .inl rfl

/-- A use without arguments inherits what the use with them does, in the same order, and some of it
without arguments. -/
theorem TypeDecl.supertypesFor_erasesTo {d : TypeDecl} (hd : d.ExtendsNoVariable) {t t' : TypeRef}
    (h : t.ErasesTo t') :
    List.Forall₂ TypeRef.ErasesTo (d.supertypesFor t) (d.supertypesFor t') := by
  rcases h with rfl | rfl
  · exact forall₂_erasesTo_self _
  · by_cases hraw : t.args = []
    · rw [TypeRef.erased_of_raw hraw]
      exact forall₂_erasesTo_self _
    · by_cases hgeneric : d.typeParameters = []
      · -- a declaration that is not generic takes no notice of arguments
        rw [supertypesFor_of_not_generic hgeneric, supertypesFor_of_not_generic hgeneric]
        exact forall₂_erasesTo_self _
      · rw [supertypesFor_of_args hraw, supertypesFor_of_raw rfl hgeneric]
        refine List.forall₂_map_left_iff.2 (List.forall₂_map_right_iff.2 ?_)
        refine List.forall₂_same.2 fun s hs => .inr ?_
        exact TypeRef.erased_eq_of_name (TypeRef.substitute_name (hd s hs)).symm

namespace Gate

variable {types : Resolver} {p p' q : Position}

theorem decide?_erased (t : TypeRef) : decide? t.erased = some .raw := rfl

/-- Two positions that differ at most in that some pending uses lack their arguments. -/
structure Erased (p p' : Position) : Prop where
  seen : p'.seen = p.seen
  pending : List.Forall₂ TypeRef.ErasesTo p.pending p'.pending

/-- The other position has a use to visit, too, and it is the same one but for its arguments. -/
theorem Erased.exists_cons {seen : List String} {t : TypeRef} {pending : List TypeRef}
    (he : Erased ⟨seen, t :: pending⟩ p') :
    ∃ t' pending', p' = ⟨seen, t' :: pending'⟩ ∧ t.ErasesTo t' ∧
      List.Forall₂ TypeRef.ErasesTo pending pending' := by
  obtain ⟨seen', all'⟩ := p'
  obtain ⟨hseen, hpending⟩ := he
  obtain rfl : seen' = seen := hseen
  obtain ⟨t', pending', ht, hrest, rfl⟩ := List.forall₂_cons_left_iff.1 hpending
  exact ⟨t', pending', rfl, ht, hrest⟩

/-- **In step.** When the walk with the arguments goes on, the other one has found the raw
interface, or it goes on in the same way. -/
theorem Erased.round (hv : types.ExtendsNoVariable) (he : Erased p p') (hr : Round types p q) :
    Ended p' (some .raw) ∨ ∃ q', Round types p' q' ∧ Erased q q' := by
  cases hr with
  | @undecided seen t pending hn hd =>
    obtain ⟨t', pending', rfl, ht, hrest⟩ := he.exists_cons
    -- the use of the interface decides nothing as it is, but it does without its arguments
    rcases ht with rfl | rfl
    · exact .inr ⟨_, .undecided hn hd, rfl, hrest⟩
    · exact .inl (.decided hn (decide?_erased t))
  | @repeated seen t pending hn hs =>
    obtain ⟨t', pending', rfl, ht, hrest⟩ := he.exists_cons
    rw [← ht.name] at hn hs
    exact .inr ⟨_, .repeated hn hs, rfl, hrest⟩
  | @known seen t pending d hn hs hd =>
    obtain ⟨t', pending', rfl, ht, hrest⟩ := he.exists_cons
    have hsuper := TypeDecl.supertypesFor_erasesTo (hv _ _ hd) ht
    rw [← ht.name] at hn hs hd ⊢
    exact .inr ⟨_, .known hn hs hd, rfl, List.rel_append hsuper hrest⟩
  | @unknown seen t pending hn hs hd =>
    obtain ⟨t', pending', rfl, ht, hrest⟩ := he.exists_cons
    rw [← ht.name] at hn hs hd ⊢
    exact .inr ⟨_, .unknown hn hs hd, rfl, hrest⟩

/-- Where the walk with the arguments has found the interface, the other one has, too. -/
theorem Erased.ended {u : MapUsage} (he : Erased p p') (h : Ended p (some u)) :
    ∃ u', Ended p' (some u') := by
  cases h with
  | @decided seen t pending u hn hd =>
    obtain ⟨t', pending', rfl, ht, -⟩ := he.exists_cons
    rcases ht with rfl | rfl
    · exact ⟨u, .decided hn hd⟩
    · exact ⟨.raw, .decided hn (decide?_erased t)⟩

/-- A run that finds the interface has a run beside it that finds it without the arguments. The
induction is on the rounds that are left. -/
theorem Erased.run {u : MapUsage} (hv : types.ExtendsNoVariable) (he : Erased p p')
    (hrun : ReflTransGen (Round types) p q) (hend : Ended q (some u)) :
    ∃ q' u', ReflTransGen (Round types) p' q' ∧ Ended q' (some u') := by
  induction hrun using ReflTransGen.head_induction_on generalizing p' with
  | refl =>
    obtain ⟨u', hu'⟩ := he.ended hend
    exact ⟨p', u', .refl, hu'⟩
  | head hr _ ih =>
    rcases he.round hv hr with hraw | ⟨r', hr', he'⟩
    · exact ⟨p', .raw, .refl, hraw⟩
    · obtain ⟨q', u', hq', hu'⟩ := ih he'
      exact ⟨q', u', .head hr' hq', hu'⟩

end Gate

/-- **Leaving arguments out never revokes applicability.** Where declarations list no type variables
as supertypes, a value type that reaches the map interface reaches it, too, when any of its direct
supertypes are written without their arguments. -/
theorem mapUsage_isSome_of_erased {types : Resolver} {v v' : ValueType}
    (hv : types.ExtendsNoVariable)
    (he : List.Forall₂ TypeRef.ErasesTo v.supertypes v'.supertypes)
    (h : (mapUsage v types).isSome) : (mapUsage v' types).isSome := by
  obtain ⟨u, hu⟩ := Option.isSome_iff_exists.1 h
  obtain ⟨p, w, hrun, hend⟩ := Gate.exists_ended types (.start v)
  have hw : w = some u := by rw [← Gate.mapUsage_of_run hrun hend, hu]
  subst hw
  have hstart : Gate.Erased (.start v) (.start v') := ⟨rfl, he⟩
  obtain ⟨p', u', hrun', hend'⟩ := hstart.run hv hrun hend
  rw [Gate.mapUsage_of_run hrun' hend']
  rfl

/-! ## A hierarchy in which the answer changes -/

/-- A base that is a map from texts to its parameter, and a list of it. -/
def bounded : Resolver := .ofTable (.ofList
  [⟨"Base", ["X"], [⟨"List", [.plain "X"]⟩, ⟨mapName, [.plain stringName, .plain "X"]⟩]⟩])

/-- A value type below the map interface with the given arguments and below the base. -/
def boundedType (args : List TypeRef) : ValueType :=
  ⟨"", "Bounded", [], [⟨mapName, args⟩, ⟨"Base", [.plain objectName]⟩], []⟩

/-- With arguments that do not fit the interface is passed over for the base, and without them it
decides. -/
theorem mapUsage_isSome_of_erased_bounded :
    bounded.ExtendsNoVariable ∧
    mapUsage (boundedType [.plain stringName, .plain stringName]) bounded = some .parameterized ∧
    (mapUsage (boundedType []) bounded).isSome := by
  have hv : bounded.ExtendsNoVariable := Resolver.extendsNoVariable_of_layers (by decide)
  have hbase : bounded.declaration "Base" = some ⟨"Base", ["X"],
      [⟨"List", [.plain "X"]⟩, ⟨mapName, [.plain stringName, .plain "X"]⟩]⟩ := by decide
  have hrun : ReflTransGen (Gate.Round bounded)
      (.start (boundedType [.plain stringName, .plain stringName]))
      ⟨["List", "Base"], [targetMap]⟩ :=
    .head (.undecided rfl (by decide)) <| .head (.known (by decide) (by decide) hbase) <|
    .head (.unknown (by decide) (by decide) (by decide)) .refl
  have hwritten : mapUsage (boundedType [.plain stringName, .plain stringName]) bounded
      = some .parameterized := Gate.mapUsage_of_run hrun (.decided rfl (by decide))
  have he : List.Forall₂ TypeRef.ErasesTo
      (boundedType [.plain stringName, .plain stringName]).supertypes
      (boundedType []).supertypes :=
    .cons (.inr rfl) (forall₂_erasesTo_self _)
  refine ⟨hv, hwritten, mapUsage_isSome_of_erased hv he ?_⟩
  rw [hwritten]
  rfl

end MapBacked
