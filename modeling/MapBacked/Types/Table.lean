import MapBacked.NameMap
import MapBacked.Types.Decl

/-!
# Where declarations are looked up

`TypeTable` is a set of declarations with one declaration per name, the one put in last. `Resolver`
is a stack of tables: a name is answered by the first table that declares it, so a host's own types
may be laid over the ones that are known anyway.

A resolver knows finitely many names. That is what bounds every walk through the supertypes, and
`Resolver.unseen` counts it down: the known names a walk has not come by yet.

Main statements: a look-up in a table returns a declaration of the name asked for
(`TypeTable.declaration_name`), and coming by a known name leaves fewer unseen
(`Resolver.unseen_cons_lt`).
-/

namespace MapBacked

/-! ## Tables -/

/-- Declarations by name. -/
structure TypeTable where
  decls : NameMap TypeDecl
  named : ∀ e ∈ decls.entries, e.2.name = e.1

namespace TypeTable

def empty : TypeTable := ⟨.empty, by simp [NameMap.empty]⟩

/-- Puts a declaration in; one of the same name is replaced. -/
def insert (t : TypeTable) (d : TypeDecl) : TypeTable where
  decls := t.decls.insert d.name d
  named := fun e he => by
    rcases NameMap.mem_insertEntry he with rfl | he
    · rfl
    · exact t.named e he

/-- The table of a list of declarations; of two with one name the later one counts. -/
def ofList (ds : List TypeDecl) : TypeTable := ds.foldl insert empty

def declaration (t : TypeTable) (name : String) : Option TypeDecl := t.decls.get? name

def size (t : TypeTable) : Nat := t.decls.size

def isEmpty (t : TypeTable) : Bool := t.decls.isEmpty

@[simp] theorem declaration_empty (name : String) : empty.declaration name = none := rfl

/-- After an insertion the inserted name has the inserted declaration. -/
theorem declaration_insert (t : TypeTable) (d : TypeDecl) (name : String) :
    (t.insert d).declaration name = if d.name = name then some d else t.declaration name :=
  NameMap.get?_insert t.decls d.name name d

/-- A look-up returns a declaration of the name that was asked for. -/
theorem declaration_name {t : TypeTable} {name : String} {d : TypeDecl}
    (h : t.declaration name = some d) : d.name = name :=
  t.named _ (NameMap.mem_entries_of_get? h)

end TypeTable

/-! ## Stacks of tables -/

/-- Tables to look in, the one that answers first in front. -/
structure Resolver where
  layers : List TypeTable

namespace Resolver

def ofTable (t : TypeTable) : Resolver := ⟨[t]⟩

/-- Lays a table over a resolver. -/
def layered (t : TypeTable) (r : Resolver) : Resolver := ⟨t :: r.layers⟩

/-- The declaration of a name in the first table that has one. -/
def declaration (r : Resolver) (name : String) : Option TypeDecl :=
  r.layers.findSome? (·.declaration name)

/-- The names that some table declares. -/
def knownNames (r : Resolver) : List String := r.layers.flatMap (·.decls.names)

/-- The known names that are not among the given ones. -/
def unseen (r : Resolver) (seen : List String) : List String :=
  r.knownNames.filter (· ∉ seen)

@[simp] theorem declaration_ofTable (t : TypeTable) (name : String) :
    (ofTable t).declaration name = t.declaration name := by
  simp only [ofTable, declaration, List.findSome?]
  cases t.declaration name <;> rfl

/-- The upper table answers first. -/
theorem declaration_layered (t : TypeTable) (r : Resolver) (name : String) :
    (layered t r).declaration name = (t.declaration name).or (r.declaration name) := by
  simp only [layered, declaration, List.findSome?]
  cases t.declaration name <;> rfl

theorem mem_knownNames_of_declaration {r : Resolver} {name : String} {d : TypeDecl}
    (h : r.declaration name = some d) : name ∈ r.knownNames := by
  obtain ⟨t, ht, hd⟩ := List.exists_of_findSome?_eq_some h
  refine List.mem_flatMap.2 ⟨t, ht, List.mem_map.2 ⟨(name, d), ?_, rfl⟩⟩
  exact NameMap.mem_entries_of_get? hd

theorem declaration_name {r : Resolver} {name : String} {d : TypeDecl}
    (h : r.declaration name = some d) : d.name = name := by
  obtain ⟨t, _, hd⟩ := List.exists_of_findSome?_eq_some h
  exact TypeTable.declaration_name hd

/-- Coming by a name strikes it from the unseen ones. -/
theorem unseen_cons (r : Resolver) (seen : List String) (name : String) :
    r.unseen (name :: seen) = (r.unseen seen).filter (· ≠ name) := by
  simp only [unseen, List.filter_filter]
  congr 1
  funext n
  by_cases h : n = name <;> simp [h]

/-- Coming by a name never makes more names unseen. -/
theorem unseen_cons_le (r : Resolver) (seen : List String) (name : String) :
    (r.unseen (name :: seen)).length ≤ (r.unseen seen).length := by
  rw [unseen_cons]
  exact List.length_filter_le _ _

/-- Coming by a known name for the first time leaves fewer names unseen. -/
theorem unseen_cons_lt {r : Resolver} {seen : List String} {name : String}
    (hk : name ∈ r.knownNames) (hs : name ∉ seen) :
    (r.unseen (name :: seen)).length < (r.unseen seen).length := by
  rw [unseen_cons]
  refine List.length_filter_lt_length_iff_exists.2 ⟨name, ?_, by simp⟩
  exact List.mem_filter.2 ⟨hk, by simpa using hs⟩

end Resolver

end MapBacked
