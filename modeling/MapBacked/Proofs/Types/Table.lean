import MapBacked.Proofs.NameMap
import MapBacked.Types.Table

/-!
# What a table answers

A table that declarations were put into, one by one or from a list, is the map from their names to
them (`TypeTable.decls_ofList`). So it answers with the last declaration of a name, and its size is
the number of names. In a stack of tables it is the first one to declare a name that answers.
-/

namespace MapBacked

/-- The last declaration of a name. -/
def lastNamed? (name : String) (ds : List TypeDecl) : Option TypeDecl :=
  (ds.filter (·.name = name)).getLast?

/-- What stands further back counts first. -/
theorem lastNamed?_append (name : String) (ds ds' : List TypeDecl) :
    lastNamed? name (ds ++ ds') = (lastNamed? name ds').or (lastNamed? name ds) := by
  rw [lastNamed?, List.filter_append, List.getLast?_append]
  rfl

namespace TypeTable

theorem decls_foldl_insert (t : TypeTable) (ds : List TypeDecl) :
    (ds.foldl insert t).decls
      = (ds.map fun d => (d.name, d)).foldl (fun m e => m.insert e.1 e.2) t.decls := by
  induction ds generalizing t with
  | nil => rfl
  | cons d ds ih =>
    rw [List.foldl_cons, ih]
    rfl

theorem decls_ofList (ds : List TypeDecl) :
    (ofList ds).decls = .ofList (ds.map fun d => (d.name, d)) :=
  decls_foldl_insert empty ds

/-- **The last one counts.** -/
theorem declaration_ofList (ds : List TypeDecl) (name : String) :
    (ofList ds).declaration name = lastNamed? name ds := by
  have hentry : (fun e : String × TypeDecl => decide (e.1 = name)) ∘ (fun d => (d.name, d))
      = fun d => decide (d.name = name) := rfl
  rw [declaration, decls_ofList, NameMap.get?_ofList, NameMap.findEntry_eq_find?, lastNamed?,
    List.getLast?_filter, ← List.map_reverse, List.find?_map, Option.map_map, hentry]
  exact Option.map_id'

theorem size_ofList (ds : List TypeDecl) :
    (ofList ds).size = (ds.map (·.name)).toFinset.card := by
  rw [size, decls_ofList, NameMap.size_ofList, List.map_map]
  rfl

/-- Putting further declarations in is the same as having had them in the list. -/
theorem foldl_insert_ofList (ds ds' : List TypeDecl) :
    ds'.foldl insert (ofList ds) = ofList (ds ++ ds') :=
  List.foldl_append.symm

end TypeTable

end MapBacked
