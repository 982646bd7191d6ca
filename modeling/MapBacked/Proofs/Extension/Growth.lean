import MapBacked.Extension
import MapBacked.Proofs.Gate.Assignability
import MapBacked.Proofs.Gate.Rounds
import MapBacked.Template.Rendering

/-!
# New types

A host that lays declarations of new types over the ones that are known opens further branches to
the walk of the gate, and these may be walked before the one that used to lead to the map interface.
What they come by counts as seen, and where one name stands for several uses that can hide the
branch behind them.

Where names stand for one use it cannot. The use that decided is above the value type, which has
nothing to do with an order, and it still is when there are more declarations
(`Above.of_declarations`). And a walk misses nothing that is above (`not_above_of_mapUsage`).
-/

namespace MapBacked

variable {types : Resolver} {t : TypeTable} {v : ValueType}

/-- The table declares nothing that the resolver knows. -/
def TypeTable.NewTo (t : TypeTable) (types : Resolver) : Prop :=
  ∀ n d, t.declaration n = some d → types.declaration n = none

theorem TypeTable.NewTo.declaration_layered (h : t.NewTo types) (n : String) (d : TypeDecl)
    (hd : types.declaration n = some d) : (Resolver.layered t types).declaration n = some d := by
  rw [Resolver.declaration_layered]
  cases hnew : t.declaration n with
  | none => exact hd
  | some d' =>
    rw [h n d' hnew] at hd
    cases hd

theorem applicable_layered (hnew : t.NewTo types)
    (h1 : OneUsePerName (.layered t types) v.supertypes (· ≠ mapName))
    (h : applicable v types = true) : applicable v (.layered t types) = true := by
  obtain ⟨u, hu⟩ := Option.isSome_iff_exists.1 h
  have habove : Above (.layered t types) v.supertypes u.reference :=
    (above_of_mapUsage hu).of_declarations hnew.declaration_layered
  cases hlayered : mapUsage v (.layered t types) with
  | none => exact absurd habove (not_above_of_mapUsage h1 hlayered u)
  | some w =>
    rw [applicable, hlayered]
    rfl

/-- **New types never revoke applicability.** A value type that is applicable stays so when a table
of new types is laid over the known ones, if among these together names other than the map
interface's stand for one use above it; and an extension with the table on top of its types still
handles it. -/
theorem applicable_of_new_types (hnew : t.NewTo types)
    (h1 : OneUsePerName (.layered t types) v.supertypes (· ≠ mapName)) :
    (applicable v types = true → applicable v (.layered t types) = true) ∧
    ∀ (E : Template.Engine) (e : Extension E), e.types = types → (e.applicable v).value = true →
      ((e.withTypes t).applicable v).value = true := by
  constructor
  · exact applicable_layered hnew h1
  · intro E e he h
    subst he
    exact applicable_layered hnew h1 h

/-! ## A branch that comes first -/

/-- An extension that knows a base, which is a map from texts to its parameter. -/
def baseExtension : Extension .ofTrees :=
  ⟨.ofTable (.ofList [⟨"Base", ["X"], [⟨mapName, [.plain stringName, .plain "X"]⟩]⟩]), .builtin,
    none⟩

/-- A new type below the base, and below the map interface with other arguments. -/
def frontTable : TypeTable := .ofList
  [⟨"Front", [], [⟨mapName, [.plain stringName, .plain stringName]⟩,
    ⟨"Base", [.plain objectName]⟩]⟩]

/-- A value type that lists the new type first. -/
def frontType : ValueType :=
  ⟨"", "Fronted", [], [.plain "Front", ⟨"Base", [.plain objectName]⟩], []⟩

/-- The base is come by in the new branch and counts as seen when the old one is walked. -/
theorem applicable_of_new_types_front :
    frontTable.NewTo baseExtension.types ∧
    OneUsePerName (.layered frontTable baseExtension.types) frontType.supertypes (· ≠ mapName) ∧
    applicable frontType baseExtension.types = true ∧
    applicable frontType (.layered frontTable baseExtension.types) = true ∧
    ((baseExtension.withTypes frontTable).applicable frontType).value = true := by
  have hnew : frontTable.NewTo baseExtension.types := by
    intro n d hd
    simp only [frontTable, TypeTable.ofList, List.foldl_cons, List.foldl_nil,
      TypeTable.declaration_insert, TypeTable.declaration_empty] at hd
    split at hd
    · next hn =>
      subst hn
      decide
    · cases hd
  have h1 : OneUsePerName (.layered frontTable baseExtension.types) frontType.supertypes
      (· ≠ mapName) :=
    .of_closed [.plain "Front", ⟨"Base", [.plain objectName]⟩,
      ⟨mapName, [.plain stringName, .plain stringName]⟩, targetMap] (by decide) (by decide)
      (by decide)
  have hbase : baseExtension.types.declaration "Base"
      = some ⟨"Base", ["X"], [⟨mapName, [.plain stringName, .plain "X"]⟩]⟩ := by decide
  have hu : mapUsage frontType baseExtension.types = some .parameterized :=
    Gate.mapUsage_of_run (.head (.unknown (by decide) (by decide) (by decide)) <|
      .single (.known (by decide) (by decide) hbase)) (.decided rfl (by decide))
  have h : applicable frontType baseExtension.types = true := by
    rw [applicable, hu]
    rfl
  obtain ⟨hlayered, hextension⟩ := applicable_of_new_types hnew h1
  exact ⟨hnew, h1, h, hlayered h, hextension .ofTrees baseExtension rfl h⟩

end MapBacked
