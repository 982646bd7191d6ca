import MapBacked.Extension
import MapBacked.Proofs.Gate.Locality
import MapBacked.Proofs.Types.Table
import MapBacked.Template.Rendering

/-!
# Layers of types

A host may hand over its types in several tables, one laid over the other, or in one. Inside a table
a later declaration replaces an earlier one of its name, while in a stack of tables the one on top
is asked first and the others only if it has no answer. Both come to the same: of the declarations
of a name the last one that was handed over counts, wherever it came from
(`Extension.declaration_withLists`).

What an extension answers depends on its types by their declarations only
(`Extension.SameTypes.generate`), so the extension with the layers and the one with the merged table
cannot be told apart, not even by what they write into the log.
-/

namespace MapBacked

variable {E : Template.Engine}

namespace Extension

/-- The extension with tables laid over its types one after another. -/
def withTables (e : Extension E) (ts : List TypeTable) : Extension E := ts.foldl withTypes e

/-- The extension with a table laid over its types for each list of declarations. -/
def withLists (e : Extension E) (lists : List (List TypeDecl)) : Extension E :=
  e.withTables (lists.map TypeTable.ofList)

/-- Two extensions that know the same declarations, and have the same markers and template. -/
structure SameTypes (e e' : Extension E) : Prop where
  declaration : ∀ n, e'.types.declaration n = e.types.declaration n
  markers : e'.markers = e.markers
  renderer : e'.renderer = e.renderer

namespace SameTypes

variable {e e' : Extension E}

theorem mapUsage (h : e.SameTypes e') (v : ValueType) :
    MapBacked.mapUsage v e'.types = MapBacked.mapUsage v e.types :=
  (Gate.outcome_eq_of_agreesOn fun n _ => h.declaration n).1

theorem checkApplicability (h : e.SameTypes e') (v : ValueType) :
    MapBacked.checkApplicability v e'.types = MapBacked.checkApplicability v e.types := by
  unfold MapBacked.checkApplicability
  rw [h.mapUsage v]

theorem applicable (h : e.SameTypes e') (v : ValueType) : e'.applicable v = e.applicable v := by
  unfold Extension.applicable
  rw [h.checkApplicability v]

/-- The types come in with the question to the gate, and nowhere else. -/
theorem generate (h : e.SameTypes e') (r : GenerationRequest) : e'.generate r = e.generate r := by
  unfold Extension.generate MapBacked.generate
  rw [h.renderer, h.markers, h.checkApplicability r.valueType]

end SameTypes

/-! ## What the layers declare -/

theorem declaration_withTypes (e : Extension E) (t : TypeTable) (n : String) :
    (e.withTypes t).types.declaration n = (t.declaration n).or (e.types.declaration n) :=
  Resolver.declaration_layered t e.types n

theorem declaration_withTables_of_none (e : Extension E) {ts : List TypeTable} {n : String}
    (h : ∀ t ∈ ts, t.declaration n = none) :
    (e.withTables ts).types.declaration n = e.types.declaration n := by
  induction ts generalizing e with
  | nil => rfl
  | cons t ts ih =>
    obtain ⟨ht, hts⟩ := List.forall_mem_cons.1 h
    rw [withTables, List.foldl_cons, ← withTables, ih _ hts, declaration_withTypes, ht]
    rfl

/-- The newest table that declares a name shadows the older ones, and what was known before. -/
theorem declaration_withTables_of_newest (e : Extension E) (older : List TypeTable) {t : TypeTable}
    {newer : List TypeTable} {n : String} {d : TypeDecl} (ht : t.declaration n = some d)
    (hnewer : ∀ t' ∈ newer, t'.declaration n = none) :
    (e.withTables (older ++ t :: newer)).types.declaration n = some d := by
  have hsplit : e.withTables (older ++ t :: newer)
      = ((e.withTables older).withTypes t).withTables newer := by
    rw [withTables, List.foldl_append, List.foldl_cons]
    rfl
  rw [hsplit, declaration_withTables_of_none _ hnewer, declaration_withTypes, ht]
  rfl

/-- **The last declaration counts**, whichever list it came with. -/
theorem declaration_withLists (e : Extension E) (lists : List (List TypeDecl)) (n : String) :
    (e.withLists lists).types.declaration n
      = (lastNamed? n lists.flatten).or (e.types.declaration n) := by
  -- the oldest list first, so that what was known before grows with the lists
  induction lists generalizing e with
  | nil => rfl
  | cons ds lists ih =>
    have hstep : e.withLists (ds :: lists) = (e.withTypes (.ofList ds)).withLists lists := rfl
    rw [hstep, ih, declaration_withTypes, TypeTable.declaration_ofList, List.flatten_cons,
      lastNamed?_append, Option.or_assoc]

/-- Tables change the types of an extension and nothing else. -/
theorem withTables_eq (e : Extension E) (ts : List TypeTable) :
    e.withTables ts = { e with types := (e.withTables ts).types } := by
  induction ts generalizing e with
  | nil => rfl
  | cons t ts ih => exact ih (e.withTypes t)

/-- The layers declare what the merged table does. -/
theorem sameTypes_withLists (e : Extension E) (lists : List (List TypeDecl)) :
    (e.withTypes (.ofList lists.flatten)).SameTypes (e.withLists lists) where
  declaration := fun n => by
    rw [declaration_withLists, declaration_withTypes, TypeTable.declaration_ofList]
  markers := by
    rw [withLists, withTables_eq]
    rfl
  renderer := by
    rw [withLists, withTables_eq]
    rfl

end Extension

/-- **Layers come to one merged table.** An extension with a table for each of several lists of
declarations answers, for every value type and request, what the extension with one table of all
these lists does. That rests on what a table is: it answers with the last declaration of a name that
was put in, and with none but of that name; its size is the number of names; and of tables laid over
one another the newest that declares a name shadows the others and what was known before. -/
theorem layers_eq_merged_table (E : Template.Engine) :
    (∀ (e : Extension E) (lists : List (List TypeDecl)),
      (∀ v, (e.withLists lists).applicable v
        = (e.withTypes (.ofList lists.flatten)).applicable v) ∧
      (∀ v, mapUsage v (e.withLists lists).types
        = mapUsage v (e.withTypes (.ofList lists.flatten)).types) ∧
      (∀ r, (e.withLists lists).generate r
        = (e.withTypes (.ofList lists.flatten)).generate r)) ∧
    (∀ ds ds' : List TypeDecl,
      ds'.foldl TypeTable.insert (.ofList ds) = TypeTable.ofList (ds ++ ds')) ∧
    (∀ ds n, (TypeTable.ofList ds).declaration n = (ds.filter (·.name = n)).getLast?) ∧
    (∀ ds n d, (TypeTable.ofList ds).declaration n = some d → d.name = n) ∧
    (∀ ds, (TypeTable.ofList ds).size = (ds.map (·.name)).toFinset.card) ∧
    (∀ (e : Extension E) older t newer n d, t.declaration n = some d →
      (∀ t' ∈ newer, TypeTable.declaration t' n = none) →
      (e.withTables (older ++ t :: newer)).types.declaration n = some d) ∧
    (∀ (e : Extension E) ts n, (∀ t ∈ ts, TypeTable.declaration t n = none) →
      (e.withTables ts).types.declaration n = e.types.declaration n) := by
  refine ⟨?answers, TypeTable.foldl_insert_ofList, TypeTable.declaration_ofList, ?named,
    TypeTable.size_ofList, ?newest, ?unknown⟩
  case answers =>
    intro e lists
    have hsame := e.sameTypes_withLists lists
    exact ⟨hsame.applicable, hsame.mapUsage, hsame.generate⟩
  case named =>
    intro ds n d hd
    exact TypeTable.declaration_name hd
  case newest =>
    intro e older t newer n d ht hnewer
    exact e.declaration_withTables_of_newest older ht hnewer
  case unknown =>
    intro e ts n hts
    exact e.declaration_withTables_of_none hts

/-! ## A known type that is declared again -/

/-- A declaration that takes the place of a known one, and is no map. -/
def bareHashMap : TypeDecl := ⟨hashMapName, [], []⟩

/-- One that takes the place of that, and is. -/
def plainHashMap : TypeDecl := ⟨hashMapName, [], [targetMap]⟩

def recordDecl : TypeDecl := ⟨"Record", [], [.plain hashMapName]⟩

def recordType : ValueType := ⟨"", "Note", [], [.plain "Record"], []⟩

/-- What counts is the declaration of the upper layer, also for a type of the lower one. The empty
layer on top of both leaves everything as it is. -/
theorem layers_eq_merged_table_redeclared :
    mapUsage recordType ((Extension.new .ofTrees).withLists
      [[bareHashMap, recordDecl], [plainHashMap]]).types = some .parameterized ∧
    ((Extension.new .ofTrees).withTables
      ([.ofList [bareHashMap, recordDecl]] ++ .ofList [plainHashMap] :: [.empty])).types.declaration
        hashMapName = some plainHashMap ∧
    plainHashMap.name = hashMapName ∧
    ((Extension.new .ofTrees).withTables [.ofList [bareHashMap, recordDecl], .ofList [plainHashMap],
      .empty]).types.declaration treeMapName
        = (Extension.new .ofTrees).types.declaration treeMapName := by
  obtain ⟨hanswers, -, -, hnamed, -, hnewest, hunknown⟩ := layers_eq_merged_table .ofTrees
  obtain ⟨-, husage, -⟩ := hanswers (.new .ofTrees) [[bareHashMap, recordDecl], [plainHashMap]]
  have hplain : (TypeTable.ofList [plainHashMap]).declaration hashMapName = some plainHashMap := by
    decide
  refine ⟨?usage, hnewest _ _ _ _ _ _ hplain (by decide), hnamed _ _ _ hplain,
    hunknown _ _ _ (by decide)⟩
  case usage =>
    rw [husage]
    have hrecord : ((Extension.new .ofTrees).withTypes (.ofList
        [bareHashMap, recordDecl, plainHashMap])).types.declaration "Record" = some recordDecl := by
      decide
    have hhash : ((Extension.new .ofTrees).withTypes (.ofList
        [bareHashMap, recordDecl, plainHashMap])).types.declaration hashMapName
          = some plainHashMap := by decide
    exact Gate.mapUsage_of_run (.head (.known (by decide) (by decide) hrecord) <|
      .single (.known (by decide) (by decide) hhash)) (.decided rfl (by decide))

end MapBacked
