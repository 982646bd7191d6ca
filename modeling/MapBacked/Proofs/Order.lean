import MapBacked.Method.Signature
import MapBacked.Proofs.Text.Bytes
import MapBacked.Proofs.Types.Names

/-!
# The orders of uses and of members

Uses are compared by their names and then by their arguments from the left, members by their four
parts in turn. Names are compared as their bytes are (`Text.lt_iff_utf8`). Both comparisons are
orders that no two different values are equal in, so that sorting by them leaves nothing to chance.

A use is compared with others through the comparison of its arguments, so the laws of the order have
to be proved of the arguments first, and no law is there for the type as a whole before the end. The
lexicographic order of lists is therefore looked at with laws for the elements of one list only.
-/

namespace MapBacked

/-! ## Lists in lexicographic order -/

section Lists

variable {α : Type} {cmp : α → α → Ordering}

theorem compareLex_eq_iff {as bs : List α} (h : ∀ a ∈ as, ∀ b, cmp a b = .eq ↔ a = b) :
    List.compareLex cmp as bs = .eq ↔ as = bs := by
  induction as generalizing bs with
  | nil =>
    cases bs with
    | nil => simp [List.compareLex_nil_nil]
    | cons b bs => simp [List.compareLex_nil_cons]
  | cons a as ih =>
    cases bs with
    | nil => simp [List.compareLex_cons_nil]
    | cons b bs =>
      have hrest : List.compareLex cmp as bs = .eq ↔ as = bs :=
        ih fun x hx => h x (List.mem_cons_of_mem _ hx)
      rw [List.compareLex_cons_cons, Ordering.then_eq_eq, h a List.mem_cons_self, hrest,
        List.cons.injEq]

theorem compareLex_swap {as bs : List α} (h : ∀ a ∈ as, ∀ b, cmp b a = (cmp a b).swap) :
    List.compareLex cmp bs as = (List.compareLex cmp as bs).swap := by
  induction as generalizing bs with
  | nil =>
    cases bs with
    | nil => rfl
    | cons b bs => rfl
  | cons a as ih =>
    cases bs with
    | nil => rfl
    | cons b bs =>
      have hrest : List.compareLex cmp bs as = (List.compareLex cmp as bs).swap :=
        ih fun x hx => h x (List.mem_cons_of_mem _ hx)
      rw [List.compareLex_cons_cons, List.compareLex_cons_cons, Ordering.swap_then,
        h a List.mem_cons_self, hrest]

/-- In lexicographic order a list that ends first comes first. -/
theorem compareLex_eq_lt_iff {as bs : List α} (h : ∀ a b, cmp a b = .eq ↔ a = b) :
    List.compareLex cmp as bs = .lt ↔ List.Lex (fun a b => cmp a b = .lt) as bs := by
  induction as generalizing bs with
  | nil =>
    cases bs with
    | nil => simp [List.compareLex_nil_nil]
    | cons b bs => simp [List.compareLex_nil_cons]
  | cons a as ih =>
    cases bs with
    | nil => simp [List.compareLex_cons_nil]
    | cons b bs =>
      rw [List.compareLex_cons_cons, Ordering.then_eq_lt, h, ih, List.cons_lex_cons_iff]

theorem compareLex_lt_trans {as bs cs : List α} (heq : ∀ a b, cmp a b = .eq ↔ a = b)
    (h : ∀ a ∈ as, ∀ b c, cmp a b = .lt → cmp b c = .lt → cmp a c = .lt)
    (hab : List.compareLex cmp as bs = .lt) (hbc : List.compareLex cmp bs cs = .lt) :
    List.compareLex cmp as cs = .lt := by
  rw [compareLex_eq_lt_iff heq] at hab hbc ⊢
  induction hab generalizing cs with
  | nil =>
    cases hbc with
    | rel _ => exact .nil
    | cons _ => exact .nil
  | @rel a as b bs hab =>
    cases hbc with
    | rel hbc => exact .rel (h a List.mem_cons_self _ _ hab hbc)
    | cons _ => exact .rel hab
  | cons _ ih =>
    cases hbc with
    | rel hbc => exact .rel hbc
    | cons hbc => exact .cons (ih (fun x hx => h x (List.mem_cons_of_mem _ hx)) hbc)

end Lists

/-! ## Uses -/

namespace TypeRef

theorem compareAll_eq_compareLex (as bs : List TypeRef) :
    compareAll as bs = List.compareLex compare as bs := by
  induction as generalizing bs with
  | nil =>
    cases bs with
    | nil => rfl
    | cons b bs => rfl
  | cons a as ih =>
    cases bs with
    | nil => rfl
    | cons b bs => rw [compareAll, ih, List.compareLex_cons_cons]

theorem compare_eq_then (t u : TypeRef) :
    compare t u
      = (Ord.compare t.name u.name).then (List.compareLex compare t.args u.args) := by
  obtain ⟨n, as⟩ := t
  obtain ⟨m, bs⟩ := u
  rw [compare, compareAll_eq_compareLex]

theorem compare_eq_iff (t u : TypeRef) : compare t u = .eq ↔ t = u := by
  induction t using inductionOn generalizing u with
  | step name args ih =>
    obtain ⟨m, bs⟩ := u
    rw [compare_eq_then, Ordering.then_eq_eq, Std.compare_eq_iff_eq, compareLex_eq_iff ih, mk.injEq]

theorem compare_swap (t u : TypeRef) : compare u t = (compare t u).swap := by
  induction t using inductionOn generalizing u with
  | step name args ih =>
    obtain ⟨m, bs⟩ := u
    rw [compare_eq_then, compare_eq_then, Ordering.swap_then, compareLex_swap ih,
      Std.OrientedOrd.eq_swap (a := m)]

theorem compare_lt_trans (t u v : TypeRef) (htu : compare t u = .lt) (huv : compare u v = .lt) :
    compare t v = .lt := by
  induction t using inductionOn generalizing u v with
  | step name args ih =>
    obtain ⟨m, bs⟩ := u
    obtain ⟨k, cs⟩ := v
    rw [compare_eq_then, Ordering.then_eq_lt, Std.compare_eq_iff_eq] at htu huv ⊢
    rcases htu with hnm | ⟨rfl, hargs⟩
    · rcases huv with hmk | ⟨rfl, -⟩
      · exact .inl (Std.TransCmp.lt_trans hnm hmk)
      · exact .inl hnm
    · rcases huv with hmk | ⟨rfl, hargs'⟩
      · exact .inl hmk
      · exact .inr ⟨rfl, compareLex_lt_trans compare_eq_iff ih hargs hargs'⟩

instance : Std.LawfulEqOrd TypeRef where
  compare_self := (compare_eq_iff _ _).2 rfl
  eq_of_compare := (compare_eq_iff _ _).1

instance : Std.TransOrd TypeRef where
  eq_swap := compare_swap _ _
  isLE_trans {t u v} htu huv := by
    rw [Ordering.isLE_iff_eq_lt_or_eq_eq] at htu huv ⊢
    rcases htu with htu | htu
    · rcases huv with huv | huv
      · exact .inl (compare_lt_trans t u v htu huv)
      · obtain rfl := (compare_eq_iff u v).1 huv
        exact .inl htu
    · obtain rfl := (compare_eq_iff t u).1 htu
      exact huv

/-- A use comes before another one by its name, or by its arguments if the names are the same. -/
theorem compare_eq_lt_iff (t u : TypeRef) :
    Ord.compare t u = .lt ↔ Text.utf8 t.name < Text.utf8 u.name ∨
      t.name = u.name ∧ List.Lex (fun a b => Ord.compare a b = .lt) t.args u.args := by
  rw [show Ord.compare t u = compare t u from rfl, compare_eq_then, Ordering.then_eq_lt,
    Text.compare_eq_lt_iff, Std.compare_eq_iff_eq, compareLex_eq_lt_iff compare_eq_iff]
  rfl

end TypeRef

/-! ## Members -/

theorem MethodKind.rank_inj {k l : MethodKind} : k.rank = l.rank ↔ k = l := by
  constructor
  · cases k <;> cases l <;> simp [MethodKind.rank]
  · rintro rfl
    rfl

namespace MethodSig

theorem compareTexts_eq_compare (ss ts : List String) : compareTexts ss ts = Ord.compare ss ts := by
  induction ss generalizing ts with
  | nil =>
    cases ts with
    | nil => rfl
    | cons t ts => rfl
  | cons s ss ih =>
    cases ts with
    | nil => rfl
    | cons t ts => rw [compareTexts, ih, List.compare_cons_cons]

/-- The parts of a member are compared in turn. -/
theorem compare_eq_compareLex :
    compare = compareLex (compareOn name) (compareLex (compareOn params)
      (compareLex (compareOn returnType) (compareOn fun m => m.kind.rank))) := by
  funext a b
  rw [compare, compareTexts_eq_compare]
  rfl

theorem compare_eq_iff (a b : MethodSig) : compare a b = .eq ↔ a = b := by
  obtain ⟨n, ps, r, k⟩ := a
  obtain ⟨m, qs, s, l⟩ := b
  rw [compare, compareTexts_eq_compare, Ordering.then_eq_eq, Ordering.then_eq_eq,
    Ordering.then_eq_eq, Std.compare_eq_iff_eq, Std.compare_eq_iff_eq, Std.compare_eq_iff_eq,
    Std.compare_eq_iff_eq, MethodKind.rank_inj, mk.injEq]

instance : Std.LawfulEqOrd MethodSig where
  compare_self := (compare_eq_iff _ _).2 rfl
  eq_of_compare := (compare_eq_iff _ _).1

instance : Std.TransOrd MethodSig := by
  show Std.TransCmp compare
  rw [compare_eq_compareLex]
  infer_instance

/-- A member comes before another one by its name, or else its parameters, or else its return type,
or else its kind. -/
theorem compare_eq_lt_iff (a b : MethodSig) :
    Ord.compare a b = .lt ↔ Text.utf8 a.name < Text.utf8 b.name ∨ a.name = b.name ∧
      (List.Lex (fun s t => Text.utf8 s < Text.utf8 t) a.params b.params ∨ a.params = b.params ∧
      (Text.utf8 a.returnType < Text.utf8 b.returnType ∨ a.returnType = b.returnType ∧
      a.kind.rank < b.kind.rank)) := by
  have hparams : Ord.compare a.params b.params = .lt
      ↔ List.Lex (fun s t => Text.utf8 s < Text.utf8 t) a.params b.params := by
    rw [List.compare_eq_compareLex, compareLex_eq_lt_iff fun _ _ => Std.compare_eq_iff_eq]
    simp only [Text.compare_eq_lt_iff]
  rw [show Ord.compare a b = compare a b from rfl, compare, compareTexts_eq_compare,
    Ordering.then_eq_lt, Ordering.then_eq_lt, Ordering.then_eq_lt, hparams, Text.compare_eq_lt_iff,
    Text.compare_eq_lt_iff, Nat.compare_eq_lt, Std.compare_eq_iff_eq, Std.compare_eq_iff_eq,
    Std.compare_eq_iff_eq]

end MethodSig

end MapBacked
