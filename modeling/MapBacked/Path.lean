/-!
# Paths

Paths as texts, as configuration files and error messages spell them. Nothing is normalised: joining
puts one slash between the parts where none is, and an absolute path swallows the base. The parent
of a path drops its last component with the slashes in front of it; empty components and single
dots behind the first position count for nothing, while a dot at the very front is a component.
-/

namespace MapBacked

/-- A path as it is spelled. -/
structure Path where
  text : String
deriving DecidableEq, Inhabited

namespace Path

/-- Whether the path starts at the root. -/
def isAbsolute (p : Path) : Bool := p.text.toList.head? == some '/'

/-- The characters of a base with another path's behind it. -/
def joinChars (base p : List Char) : List Char :=
  if p.head? = some '/' then p
  else match base.getLast? with
    | none => p
    | some c => if c = '/' then base ++ p else base ++ '/' :: p

/-- The second path, read from the first one. -/
def join (base p : Path) : Path := ⟨String.ofList (joinChars base.text.toList p.text.toList)⟩

/-! ## The last component -/

/-- Splits off what no parent drops: the root, or a dot that opens the path. -/
def splitFront : List Char → List Char × List Char
  | '/' :: rest => (['/'], rest)
  | ['.'] => (['.'], [])
  | '.' :: '/' :: rest => (['.'], '/' :: rest)
  | cs => ([], cs)

/-- Splits reversed characters at the first slash: the component in front of it and what follows
it, the slash dropped. -/
def splitLast (rev : List Char) : List Char × List Char :=
  (rev.takeWhile (· ≠ '/'), (rev.dropWhile (· ≠ '/')).drop 1)

/-- Whether reversed characters spell a component that counts. -/
def counts (comp : List Char) : Bool := comp ≠ [] && comp ≠ ['.']

theorem length_splitLast_lt {c : Char} {rev : List Char} :
    (splitLast (c :: rev)).2.length < (c :: rev).length := by
  by_cases h : c = '/'
  · simp [splitLast, h]
  · have := (List.dropWhile_sublist (l := rev) fun x => decide (x ≠ '/')).length_le
    simp only [splitLast, List.length_drop, List.length_cons]
    have hd : (c :: rev).dropWhile (fun x => decide (x ≠ '/'))
        = rev.dropWhile (fun x => decide (x ≠ '/')) := by simp [h]
    rw [hd]
    omega

/-- Drops from reversed characters the components that do not count. -/
def dropIdle : List Char → List Char
  | [] => []
  | c :: rev =>
    if counts (splitLast (c :: rev)).1 then c :: rev else dropIdle (splitLast (c :: rev)).2
termination_by rev => rev.length
decreasing_by exact length_splitLast_lt

/-- The characters of the parent. The root and the empty path have none. -/
def parentChars? (cs : List Char) : Option (List Char) :=
  let (front, body) := splitFront cs
  match dropIdle body.reverse with
  -- nothing is left to drop but perhaps the dot that opens the path
  | [] => if front = ['.'] then some [] else none
  | rev => some (front ++ (dropIdle (splitLast rev).2).reverse)

/-- The path without its last component. -/
def parent? (p : Path) : Option Path :=
  (parentChars? p.text.toList).map fun cs => ⟨String.ofList cs⟩

end Path

end MapBacked
