import Mathlib.Data.Prod.Lex
import Mathlib.Logic.Relation
import Mathlib.Order.WellFounded
import MapBacked.Proofs.Gate.Walk

/-!
# The gate, round by round

The gate goes through its pending uses in rounds. This file says what one round does as a relation
between positions (`Gate.Round`) and where there is no further round (`Gate.Ended`). Neither has a
measure in it, so that a walk ends is something to be proved.

* No run goes on for ever (`Gate.wellFounded_round`): a round that finds a declaration leaves fewer
  names unseen, however many uses, and however large ones, it makes pending. Any other round leaves
  fewer uses pending.
* A position without a further round is an end (`Gate.ended_or_round`), so every run comes to one
  (`Gate.exists_ended`).
* What `Gate.walk` answers, and which names it looks up, is the same all along a run
  (`Gate.Round.outcome`), and can be read off its end (`Gate.outcome_of_run`).
* What a round keeps, a run keeps (`Gate.invariant_of_run`).
* Resolvers that make the same run answer alike (`Gate.outcome_eq_of_same_run`).
-/

namespace MapBacked.Gate

open Relation

/-- Where a walk stands: the names it came by, the last one in front, and the uses to visit next. -/
structure Position where
  seen : List String
  pending : List TypeRef

/-- The position from which the supertypes of a value type are visited. -/
def Position.start (v : ValueType) : Position := ⟨[], v.supertypes⟩

/-- One round: the first of the pending uses is visited. -/
inductive Round (types : Resolver) : Position → Position → Prop where
  | undecided {seen : List String} {t : TypeRef} {pending : List TypeRef}
      (hn : t.name = mapName) (hd : decide? t = none) :
      Round types ⟨seen, t :: pending⟩ ⟨seen, pending⟩
  | repeated {seen : List String} {t : TypeRef} {pending : List TypeRef}
      (hn : t.name ≠ mapName) (hs : t.name ∈ seen) :
      Round types ⟨seen, t :: pending⟩ ⟨seen, pending⟩
  | known {seen : List String} {t : TypeRef} {pending : List TypeRef} {d : TypeDecl}
      (hn : t.name ≠ mapName) (hs : t.name ∉ seen) (hd : types.declaration t.name = some d) :
      Round types ⟨seen, t :: pending⟩ ⟨t.name :: seen, d.supertypesFor t ++ pending⟩
  | unknown {seen : List String} {t : TypeRef} {pending : List TypeRef}
      (hn : t.name ≠ mapName) (hs : t.name ∉ seen) (hd : types.declaration t.name = none) :
      Round types ⟨seen, t :: pending⟩ ⟨t.name :: seen, pending⟩

/-- The positions at which a walk answers, and its answer there. -/
inductive Ended : Position → Option MapUsage → Prop where
  | exhausted {seen : List String} : Ended ⟨seen, []⟩ none
  | decided {seen : List String} {t : TypeRef} {pending : List TypeRef} {u : MapUsage}
      (hn : t.name = mapName) (hd : decide? t = some u) : Ended ⟨seen, t :: pending⟩ (some u)

variable {types : Resolver} {p q : Position}

/-! ## Every run ends -/

/-- How much there is left to do: the names that were not come by, then the pending uses. -/
def Position.measure (types : Resolver) (p : Position) : ℕ × ℕ :=
  ((types.unseen p.seen).length, p.pending.length)

theorem Round.measure_lt (h : Round types p q) :
    Prod.Lex (· < ·) (· < ·) (q.measure types) (p.measure types) := by
  cases h with
  | undecided hn hd => exact .right _ (Nat.lt_succ_self _)
  | repeated hn hs => exact .right _ (Nat.lt_succ_self _)
  | known hn hs hd =>
    have hk := Resolver.mem_knownNames_of_declaration hd
    exact .left _ _ (Resolver.unseen_cons_lt hk hs)
  | @unknown seen t pending hn hs hd =>
    -- the name may be one that nobody knows, and then it is the pending uses that count
    rcases Nat.lt_or_eq_of_le (Resolver.unseen_cons_le types seen t.name) with hlt | heq
    · exact .left _ _ hlt
    · unfold Position.measure
      rw [heq]
      exact .right _ (Nat.lt_succ_self _)

/-- **A round leaves less to do**, in an order in which nothing can become less for ever. -/
theorem wellFounded_round (types : Resolver) : WellFounded fun q p => Round types p q := by
  have hlex : WellFounded (Prod.Lex (· < ·) (· < ·) : ℕ × ℕ → ℕ × ℕ → Prop) :=
    WellFounded.prod_lex Nat.lt_wfRel.wf Nat.lt_wfRel.wf
  exact Subrelation.wf (fun h => Round.measure_lt h) (InvImage.wf (Position.measure types) hlex)

/-- No run goes on for ever. -/
theorem exists_not_round (types : Resolver) (run : ℕ → Position) :
    ∃ i, ¬ Round types (run i) (run (i + 1)) := by
  by_contra hforever
  push Not at hforever
  have hnone := wellFounded_iff_isEmpty_descending_chain.1 (wellFounded_round types)
  exact hnone.false ⟨run, hforever⟩

theorem ended_or_round (types : Resolver) (p : Position) :
    (∃ u, Ended p u) ∨ ∃ q, Round types p q := by
  obtain ⟨seen, pending⟩ := p
  cases pending with
  | nil => exact .inl ⟨none, .exhausted⟩
  | cons t pending =>
    by_cases hn : t.name = mapName
    · cases hd : decide? t with
      | some u => exact .inl ⟨some u, .decided hn hd⟩
      | none => exact .inr ⟨_, .undecided hn hd⟩
    · by_cases hs : t.name ∈ seen
      · exact .inr ⟨_, .repeated hn hs⟩
      · cases hd : types.declaration t.name with
        | some d => exact .inr ⟨_, .known hn hs hd⟩
        | none => exact .inr ⟨_, .unknown hn hs hd⟩

/-- Every run comes to an end. The induction is on how much is left to do. -/
theorem exists_ended (types : Resolver) (p : Position) :
    ∃ q u, ReflTransGen (Round types) p q ∧ Ended q u := by
  induction p using (wellFounded_round types).induction with
  | _ p ih =>
    rcases ended_or_round types p with ⟨u, hu⟩ | ⟨p', hp'⟩
    · exact ⟨p, u, .refl, hu⟩
    · obtain ⟨q, u, hq, hu⟩ := ih p' hp'
      exact ⟨q, u, .head hp' hq, hu⟩

/-! ## What a run keeps -/

/-- What every round keeps, a run keeps. -/
theorem invariant_of_run {I : Position → Prop} (hround : ∀ {p q}, Round types p q → I p → I q)
    (h : ReflTransGen (Round types) p q) (hp : I p) : I q := by
  induction h with
  | refl => exact hp
  | tail _ hr ih => exact hround hr ih

/-- The answer of the walk from a position, and the names that were come by when it is given. -/
def Position.outcome (types : Resolver) (p : Position) : Option MapUsage × List String :=
  ((walk types p.seen p.pending).usage, (walk types p.seen p.pending).lookups.reverse ++ p.seen)

/-- A round changes nothing about how the walk comes out. -/
theorem Round.outcome (h : Round types p q) : p.outcome types = q.outcome types := by
  cases h with
  | undecided hn hd => simp only [Position.outcome, walk_undecided hn hd]
  | repeated hn hs => simp only [Position.outcome, walk_seen hn hs]
  | known hn hs hd =>
    -- the name that was looked up moves from the look-ups to the names that were come by
    simp only [Position.outcome, walk_known hn hs hd, Walk.usage_afterLookup,
      Walk.lookups_afterLookup, List.reverse_cons, List.append_assoc, List.singleton_append]
  | unknown hn hs hd =>
    simp only [Position.outcome, walk_unknown hn hs hd, Walk.usage_afterLookup,
      Walk.lookups_afterLookup, List.reverse_cons, List.append_assoc, List.singleton_append]

theorem Ended.outcome {u : Option MapUsage} (h : Ended p u) : p.outcome types = (u, p.seen) := by
  cases h with
  | exhausted =>
    rw [Position.outcome, walk]
    rfl
  | decided hn hd =>
    rw [Position.outcome, walk, if_pos hn, hd]
    rfl

theorem outcome_of_run {u : Option MapUsage} (h : ReflTransGen (Round types) p q)
    (hq : Ended q u) : p.outcome types = (u, q.seen) := by
  have hsame : p.outcome types = q.outcome types :=
    invariant_of_run (I := fun r => p.outcome types = r.outcome types)
      (fun hr hp => hp.trans hr.outcome) h rfl
  exact hsame.trans hq.outcome

theorem mapUsage_of_run {v : ValueType} {u : Option MapUsage}
    (h : ReflTransGen (Round types) (.start v) q) (hq : Ended q u) : mapUsage v types = u :=
  congrArg Prod.fst (outcome_of_run h hq)

/-- The names are looked up in the order in which they are come by. -/
theorem mapLookups_of_run {v : ValueType} {u : Option MapUsage}
    (h : ReflTransGen (Round types) (.start v) q) (hq : Ended q u) :
    mapLookups v types = q.seen.reverse := by
  have hseen : (mapLookups v types).reverse ++ [] = q.seen :=
    congrArg Prod.snd (outcome_of_run h hq)
  rw [← hseen, List.append_nil, List.reverse_reverse]

/-- Resolvers under which the same run is made come to the same answer after the same look-ups. -/
theorem outcome_eq_of_same_run {types' : Resolver} {v : ValueType}
    (h : ∀ q, ReflTransGen (Round types) (.start v) q → (∃ u, Ended q u) →
      ReflTransGen (Round types') (.start v) q) :
    mapUsage v types' = mapUsage v types ∧ mapLookups v types' = mapLookups v types := by
  obtain ⟨q, u, hrun, hend⟩ := exists_ended types (.start v)
  have hrun' : ReflTransGen (Round types') (.start v) q := h q hrun ⟨u, hend⟩
  constructor
  · rw [mapUsage_of_run hrun hend, mapUsage_of_run hrun' hend]
  · rw [mapLookups_of_run hrun hend, mapLookups_of_run hrun' hend]

end MapBacked.Gate
