import MapBacked.Proofs.NameMap
import MapBacked.Proofs.Text.Lines
import MapBacked.Template.Rendering

/-!
# How statements run

The rules a run is put together from, one for each kind of statement that puts something out: what
the statement needs to be known of its expressions, and what it then puts out. A loop over a list
asks its body for the text of every item, which may depend on whether the item is the last one, and
puts these texts one behind the other (`rounds_map`).
-/

namespace MapBacked.Template

variable {scope : Scope}

/-! ## Names -/

/-- A name has the value it is bound to. -/
theorem eval_name {l : List (String × Value)} {x : String} {v : Value}
    (h : NameMap.findEntry x l.reverse = some v) : (Expr.name x).eval (.ofList l) = .ok v := by
  rw [Expr.eval, NameMap.get?_ofList, h]
  rfl

/-! ## Sequences -/

theorem runAll_nil : runAll [] scope = .ok (scope, "") := rfl

/-- Statements put their texts out one behind the other. -/
theorem runAll_cons {s : Stmt} {ss : List Stmt} {scope' scope'' : Scope} {front back : String}
    (hs : s.run scope = .ok (scope', front)) (hss : runAll ss scope' = .ok (scope'', back)) :
    runAll (s :: ss) scope = .ok (scope'', front ++ back) := by
  rw [runAll, hs]
  show ((runAll ss scope').bind fun r => .ok (r.1, front ++ r.2)) = _
  rw [hss]
  rfl

/-! ## Single statements -/

theorem run_text (s : String) : (Stmt.text s).run scope = .ok (scope, s) := rfl

theorem run_output {e : Expr} {s : String} (he : e.eval scope = .ok (.text s)) :
    (Stmt.output e).run scope = .ok (scope, s) := by
  rw [Stmt.run, he]
  rfl

/-- A branch runs the statements on the side of its condition. -/
theorem run_branch {c : Expr} {v : Value} {b : Bool} {yes no : List Stmt}
    (hc : c.eval scope = .ok v) (hv : v.truth = .ok b) :
    (Stmt.branch c yes no).run scope = runAll (if b then yes else no) scope := by
  rw [Stmt.run, hc]
  show (do if ← v.truth then runAll yes scope else runAll no scope) = _
  rw [hv]
  cases b <;> rfl

/-! ## Loops -/

/-- The scope of a round. -/
def roundScope (scope : Scope) (x : String) (index total : Nat) (v : Value) : Scope :=
  (scope.insert "loop" (roundValue index (some total))).insert x v

variable {α : Type}

/-- The texts of the items one behind the other; the text of an item may depend on whether it is the
last one. -/
def eachText (f : Bool → α → String) : List α → String
  | [] => ""
  | [a] => f true a
  | a :: b :: rest => f false a ++ eachText f (b :: rest)

theorem eachText_separated (g : α → String) (sep : String) (as : List α) :
    eachText (fun last a => g a ++ (if last then "" else sep)) as
      = Text.separated sep (as.map g) := by
  fun_induction eachText with
  | case1 => rfl
  | case2 a => simp
  | case3 a b rest ih =>
    rw [ih]
    simp

theorem eachText_lines (g : α → String) (as : List α) :
    eachText (fun _ a => g a ++ "\n") as = Text.ofLines (as.map g) := by
  fun_induction eachText with
  | case1 => rfl
  | case2 a => simp
  | case3 a b rest ih =>
    rw [ih]
    simp

/-- The rounds over a list put out what their bodies do, provided the body has a text for every
item. -/
theorem rounds_map {body : Scope → Except Error (Scope × String)} {x : String} {total : Nat}
    {toValue : α → Value} {f : Bool → α → String}
    (hb : ∀ i a, ∃ scope',
      body (roundScope scope x i total (toValue a)) = .ok (scope', f (total == i + 1) a)) :
    ∀ (as : List α) (i : Nat), i + as.length = total →
      rounds body x (some total) scope i (as.map toValue) = .ok (eachText f as) := by
  intro as
  induction as with
  | nil => intro i _; rfl
  | cons a as ih =>
    intro i hi
    obtain ⟨scope', ha⟩ := hb i a
    have hround : rounds body x (some total) scope i ((a :: as).map toValue)
        = (do return f (total == i + 1) a ++
            (← rounds body x (some total) scope (i + 1) (as.map toValue))) := by
      rw [List.map_cons, rounds]
      show ((body (roundScope scope x i total (toValue a))).bind fun r => do
        return r.2 ++ (← rounds body x (some total) scope (i + 1) (as.map toValue))) = _
      rw [ha]
      rfl
    rw [List.length_cons] at hi
    rw [hround, ih (i + 1) (by omega)]
    -- what the body was told of the last round is what `eachText` goes by
    cases as with
    | nil =>
      have hlast : total = i + 1 := by simpa using hi.symm
      show Except.ok (f (total == i + 1) a ++ "") = _
      rw [hlast]
      simp [eachText]
    | cons b rest =>
      have hmore : total ≠ i + 1 := by simp only [List.length_cons] at hi; omega
      show Except.ok (f (total == i + 1) a ++ eachText f (b :: rest)) = _
      rw [beq_eq_false_iff_ne.2 hmore]
      rfl

/-- A loop over a list of items puts out the texts of its rounds. Without items it puts out
nothing, as long as nothing is asked for in that case. -/
theorem run_loop {x : String} {source : Expr} {body : List Stmt} {as : List α}
    {toValue : α → Value} {f : Bool → α → String}
    (hs : source.eval scope = .ok (.list (as.map toValue)))
    (hb : ∀ i a, ∃ scope', runAll body (roundScope scope x i as.length (toValue a))
      = .ok (scope', f (as.length == i + 1) a)) :
    (Stmt.loop x source none body []).run scope = .ok (scope, eachText f as) := by
  have hitems : loopItems scope x source none = .ok (as.map toValue, some as.length) := by
    rw [loopItems, hs]
    show Except.ok (as.map toValue, some (as.map toValue).length) = _
    rw [List.length_map]
  rw [Stmt.run, hitems]
  cases as with
  | nil => rfl
  | cons a as =>
    show (do return (scope, ← rounds (runAll body) x (some (a :: as).length) scope 0
      ((a :: as).map toValue))) = _
    rw [rounds_map hb (a :: as) 0 (by simp)]
    rfl

end MapBacked.Template
