/-!
# Sorted sets

Types and members are handed out as sets: in the order of their type, each once. `SortedSet.ofList`
puts the elements of a list in that order one by one and drops the ones that are there already.
-/

namespace MapBacked.SortedSet

variable {α : Type} [Ord α]

/-- Puts an element where it belongs, unless an equal one is there. -/
def insert (a : α) : List α → List α
  | [] => [a]
  | b :: rest =>
    match compare a b with
    | .lt => a :: b :: rest
    | .eq => b :: rest
    | .gt => b :: insert a rest

/-- The elements of a list in order, each once. -/
def ofList (as : List α) : List α := as.foldl (fun s a => insert a s) []

end MapBacked.SortedSet
