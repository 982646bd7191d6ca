import MapBacked.Text.List

/-!
# Uses of types

`TypeRef` is one use of a type in the host's source: a qualified name with type arguments. Without
arguments it is a type that takes none, a raw use of one that does, or a type variable; which of
them it is depends on the declaration it is read against, so the type does not tell them apart.

The file holds the four operations on a use: replacing type variables (`substitute`), forgetting
arguments (`erased`), its text (`text`) and its place in a sorted list (`compare`). They recurse
through the arguments and each comes with its version for lists of uses.
-/

namespace MapBacked

/-- A use of a type: a qualified name and the type arguments written after it. -/
structure TypeRef where
  name : String
  args : List TypeRef

namespace TypeRef

/-! ## Equality is decidable -/

mutual

def decEq : (a b : TypeRef) → Decidable (a = b)
  | ⟨n, as⟩, ⟨m, bs⟩ =>
    if hn : n = m then
      match decEqAll as bs with
      | isTrue h => isTrue (by rw [hn, h])
      | isFalse h => isFalse fun e => h (by cases e; rfl)
    else isFalse fun e => hn (by cases e; rfl)
termination_by structural a => a

def decEqAll : (as bs : List TypeRef) → Decidable (as = bs)
  | [], [] => isTrue rfl
  | [], _ :: _ => isFalse (by simp)
  | _ :: _, [] => isFalse (by simp)
  | a :: as, b :: bs =>
    match decEq a b, decEqAll as bs with
    | isTrue h, isTrue h' => isTrue (by rw [h, h'])
    | isFalse h, _ => isFalse fun e => h (by cases e; rfl)
    | _, isFalse h => isFalse fun e => h (by cases e; rfl)
termination_by structural as => as

end

instance : DecidableEq TypeRef := decEq

instance : Inhabited TypeRef := ⟨⟨"", []⟩⟩

/-! ## Operations -/

def plain (name : String) : TypeRef := ⟨name, []⟩

def isRaw (t : TypeRef) : Bool := t.args.isEmpty

/-- The use with its arguments forgotten, as a raw use does to the supertypes it stands for. -/
def erased (t : TypeRef) : TypeRef := plain t.name

/-- The argument that the parameter list binds a name to: a name that is listed twice belongs to
its first position, and a position beyond the arguments binds nothing. -/
def binding? (params : List String) (args : List TypeRef) (name : String) : Option TypeRef :=
  (params.idxOf? name).bind (args[·]?)

mutual

/-- Replaces the type variables among the parameters by the arguments at their positions. Only a
use without arguments can be a variable, and a variable without an argument stays. -/
def substitute (params : List String) (args : List TypeRef) : TypeRef → TypeRef
  | ⟨name, []⟩ => (binding? params args name).getD ⟨name, []⟩
  | ⟨name, a :: as⟩ => ⟨name, a.substitute params args :: substituteAll params args as⟩
termination_by structural t => t

def substituteAll (params : List String) (args : List TypeRef) : List TypeRef → List TypeRef
  | [] => []
  | t :: ts => t.substitute params args :: substituteAll params args ts
termination_by structural ts => ts

end

mutual

/-- The use as it is written in source. -/
def text : TypeRef → String
  | ⟨name, args⟩ => name ++ Text.bracketed (texts args)
termination_by structural t => t

def texts : List TypeRef → List String
  | [] => []
  | t :: ts => t.text :: texts ts
termination_by structural ts => ts

end

mutual

/-- Orders uses by name, then by their arguments from the left. -/
def compare : TypeRef → TypeRef → Ordering
  | ⟨n, as⟩, ⟨m, bs⟩ => (Ord.compare n m).then (compareAll as bs)
termination_by structural a => a

/-- Orders lists of uses from the left; a list that ends first comes first. -/
def compareAll : List TypeRef → List TypeRef → Ordering
  | [], [] => .eq
  | [], _ :: _ => .lt
  | _ :: _, [] => .gt
  | a :: as, b :: bs => (compare a b).then (compareAll as bs)
termination_by structural as => as

end

instance : Ord TypeRef := ⟨compare⟩

/-! ## Substitution in arguments -/

theorem substituteAll_eq_map (params : List String) (args ts : List TypeRef) :
    substituteAll params args ts = ts.map (substitute params args) := by
  induction ts with
  | nil => rfl
  | cons t ts ih => simp [substituteAll, ih]

/-- A use with arguments keeps its name and hands the substitution on. -/
theorem substitute_of_args_ne_nil {t : TypeRef} (h : t.args ≠ []) (params : List String)
    (args : List TypeRef) :
    t.substitute params args = ⟨t.name, t.args.map (substitute params args)⟩ := by
  obtain ⟨name, as⟩ := t
  cases as with
  | nil => exact absurd rfl h
  | cons a as => simp [substitute, substituteAll_eq_map]

theorem substitute_plain (params : List String) (args : List TypeRef) (name : String) :
    (plain name).substitute params args = (binding? params args name).getD (plain name) := rfl

@[simp] theorem isRaw_plain (name : String) : (plain name).isRaw = true := rfl

@[simp] theorem erased_name (t : TypeRef) : t.erased.name = t.name := rfl

theorem isRaw_iff {t : TypeRef} : t.isRaw = true ↔ t.args = [] := by
  simp [isRaw]

end TypeRef

end MapBacked
