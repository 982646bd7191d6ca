import Mathlib.Data.List.Sort
import Mathlib.Order.Defs.Unbundled
import MapBacked.Proofs.Order
import MapBacked.SortedSet

/-!
# Sorted sets are canonical

Elements are put into a sorted set one by one, and each goes where the comparison sends it. That the
sequence is the same for every order of the list, and for every number of repetitions, rests on the
comparison alone: if it is a strict order without ties, the sequence is increasing and has the
elements of the list (`SortedSet.canonical`), and there is only one such sequence. Uses and members
are compared in such a way (`ordered_sets_are_canonical`).
-/

namespace MapBacked

namespace SortedSet

variable {α : Type} [Ord α]

/-- Each element is before all that follow it. -/
def Increasing (as : List α) : Prop := as.Pairwise fun a b => compare a b = .lt

/-- The sequences that lists are collected into are increasing, have the elements of the list, and
are the same for two lists exactly if these have the same elements. -/
structure Canonical (α : Type) [Ord α] : Prop where
  increasing : ∀ as : List α, Increasing (ofList as)
  mem_iff : ∀ (as : List α) (a : α), a ∈ ofList as ↔ a ∈ as
  eq_iff : ∀ as bs : List α, ofList as = ofList bs ↔ ∀ a, a ∈ as ↔ a ∈ bs

/-- The comparison is a strict total order, and two values are equal in it exactly if they are the
same. -/
structure StrictlyOrdered (α : Type) [Ord α] : Prop where
  total : IsStrictTotalOrder α fun a b => compare a b = .lt
  eq_iff : ∀ a b : α, compare a b = .eq ↔ a = b
  gt_iff : ∀ a b : α, compare a b = .gt ↔ compare b a = .lt

theorem strictlyOrdered [Std.TransOrd α] [Std.LawfulEqOrd α] : StrictlyOrdered α := by
  have heq : ∀ a b : α, compare a b = .eq ↔ a = b := fun _ _ => Std.compare_eq_iff_eq
  have hgt : ∀ a b : α, compare a b = .gt ↔ compare b a = .lt := fun _ _ =>
    Std.OrientedCmp.gt_iff_lt
  have hirrefl : ∀ a : α, ¬ compare a a = .lt := by
    intro a h
    rw [(heq a a).2 rfl] at h
    exact absurd h (by decide)
  have htrans : ∀ a b c : α, compare a b = .lt → compare b c = .lt → compare a c = .lt :=
    fun _ _ _ => Std.TransCmp.lt_trans
  have htotal : ∀ a b : α, ¬ compare a b = .lt → ¬ compare b a = .lt → a = b := by
    intro a b hab hba
    cases h : compare a b with
    | lt => exact absurd h hab
    | eq => exact (heq a b).1 h
    | gt => exact absurd ((hgt a b).1 h) hba
  have horder : IsStrictTotalOrder α fun a b => compare a b = .lt :=
    { trichotomous := htotal, irrefl := hirrefl, trans := htrans }
  exact ⟨horder, heq, hgt⟩

/-! ## Elements -/

theorem mem_insert [Std.LawfulEqOrd α] (a x : α) (s : List α) : x ∈ insert a s ↔ x = a ∨ x ∈ s := by
  induction s with
  | nil => simp [insert]
  | cons b s ih =>
    rw [insert]
    cases h : compare a b with
    | lt => exact List.mem_cons
    | eq =>
      -- the element is there already
      obtain rfl := Std.compare_eq_iff_eq.1 h
      simp
    | gt =>
      rw [List.mem_cons, List.mem_cons, ih]
      exact or_left_comm

theorem mem_foldl_insert [Std.LawfulEqOrd α] (as s : List α) (x : α) :
    x ∈ as.foldl (fun s a => insert a s) s ↔ x ∈ s ∨ x ∈ as := by
  induction as generalizing s with
  | nil => simp
  | cons a as ih =>
    rw [List.foldl_cons, ih, mem_insert, List.mem_cons, or_assoc, or_left_comm]

theorem mem_ofList [Std.LawfulEqOrd α] (as : List α) (x : α) : x ∈ ofList as ↔ x ∈ as := by
  rw [ofList, mem_foldl_insert]
  simp

/-! ## Order -/

variable [Std.TransOrd α] [Std.LawfulEqOrd α]

theorem increasing_insert (a : α) {s : List α} (hs : Increasing s) : Increasing (insert a s) := by
  induction s with
  | nil => exact List.pairwise_singleton _ a
  | cons b s ih =>
    obtain ⟨hb, htail⟩ := List.pairwise_cons.1 hs
    rw [insert]
    cases h : compare a b with
    | lt =>
      refine List.pairwise_cons.2 ⟨?_, hs⟩
      intro x hx
      rcases List.mem_cons.1 hx with rfl | hx
      · exact h
      · exact Std.TransCmp.lt_trans h (hb x hx)
    | eq => exact hs
    | gt =>
      refine List.pairwise_cons.2 ⟨?_, ih htail⟩
      intro x hx
      rcases (mem_insert a x s).1 hx with rfl | hx
      · exact Std.OrientedCmp.gt_iff_lt.1 h
      · exact hb x hx

theorem increasing_foldl_insert (as : List α) {s : List α} (hs : Increasing s) :
    Increasing (as.foldl (fun s a => insert a s) s) := by
  induction as generalizing s with
  | nil => exact hs
  | cons a as ih => exact ih (increasing_insert a hs)

theorem increasing_ofList (as : List α) : Increasing (ofList as) :=
  increasing_foldl_insert as List.Pairwise.nil

/-- An increasing sequence is determined by its elements. -/
theorem Increasing.eq_of_mem_iff {as bs : List α} (has : Increasing as) (hbs : Increasing bs)
    (h : ∀ a, a ∈ as ↔ a ∈ bs) : as = bs := by
  have htotal : IsStrictTotalOrder α fun a b => compare a b = .lt := strictlyOrdered.total
  have hanti : Std.Antisymm fun a b : α => compare a b = .lt := by
    constructor
    intro a b hab hba
    exact absurd (htotal.trans a b a hab hba) (htotal.irrefl a)
  exact List.Pairwise.eq_of_mem_iff has hbs h

theorem canonical : Canonical α where
  increasing := increasing_ofList
  mem_iff := mem_ofList
  eq_iff as bs := by
    constructor
    · intro h a
      rw [← mem_ofList as, h, mem_ofList]
    · intro h
      refine (increasing_ofList as).eq_of_mem_iff (increasing_ofList bs) ?_
      intro a
      rw [mem_ofList, mem_ofList]
      exact h a

end SortedSet

open SortedSet

/-- **Sets of uses and of members are canonical.** -/
theorem ordered_sets_are_canonical :
    (∀ t u : TypeRef, compare t u = .lt ↔ Text.utf8 t.name < Text.utf8 u.name ∨
      t.name = u.name ∧ List.Lex (fun a b => compare a b = .lt) t.args u.args) ∧
    (∀ m n : MethodSig, compare m n = .lt ↔ Text.utf8 m.name < Text.utf8 n.name ∨
      m.name = n.name ∧ (List.Lex (fun s t => Text.utf8 s < Text.utf8 t) m.params n.params ∨
      m.params = n.params ∧ (Text.utf8 m.returnType < Text.utf8 n.returnType ∨
      m.returnType = n.returnType ∧ m.kind.rank < n.kind.rank))) ∧
    StrictlyOrdered TypeRef ∧ Canonical TypeRef ∧
    StrictlyOrdered MethodSig ∧ Canonical MethodSig := by
  refine ⟨?_, ?_, strictlyOrdered, canonical, strictlyOrdered, canonical⟩
  · intro t u
    exact TypeRef.compare_eq_lt_iff t u
  · intro m n
    exact MethodSig.compare_eq_lt_iff m n

/-- A raw use comes before the same with arguments. Of the last two names the second one would be
first if they were compared by units of 16 bits. -/
example : ofList [TypeRef.plain "🗺", ⟨"b", [.plain "d"]⟩, .plain "\uff5e",
      ⟨"b", [.plain "c"]⟩, .plain "b", .plain "\uff5e", ⟨"b", [.plain "c", .plain "a"]⟩]
    = [.plain "b", ⟨"b", [.plain "c"]⟩, ⟨"b", [.plain "c", .plain "a"]⟩, ⟨"b", [.plain "d"]⟩,
      .plain "\uff5e", .plain "🗺"] := by decide

end MapBacked
