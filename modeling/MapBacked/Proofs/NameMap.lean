import Mathlib.Data.Finset.Card
import MapBacked.NameMap

/-!
# Maps filled from lists

A map that is filled from a list of entries answers with the last entry of a name
(`NameMap.get?_ofList`) and has as many entries as there are names in the list
(`NameMap.size_ofList`). Where no name is repeated the order of the list is of no consequence, so a
map is what any arrangement of its own entries fills (`NameMap.ofList_of_perm`). Where entries are
put in for new names only, it is the first one of a name that counts
(`NameMap.get?_foldl_insertIfNew`). A map whose values were all changed by one function answers with
what it answered before, changed (`NameMap.get?_map`).
-/

namespace MapBacked.NameMap

variable {α : Type}

/-! ## Entry lists -/

theorem findEntry_eq_find? (name : String) (l : List (String × α)) :
    findEntry name l = (l.find? (·.1 = name)).map (·.2) := by
  induction l with
  | nil => rfl
  | cons e rest ih =>
    by_cases h : e.1 = name
    · simp [findEntry, h]
    · simp [findEntry, h, ih]

theorem findEntry_eq_none_iff {name : String} {l : List (String × α)} :
    findEntry name l = none ↔ name ∉ l.map (·.1) := by
  rw [findEntry_eq_find?]
  simp only [Option.map_eq_none_iff, List.find?_eq_none, decide_eq_true_eq, List.mem_map]
  exact ⟨fun h ⟨e, he, hn⟩ => h e he hn, fun h e he hn => h ⟨e, he, hn⟩⟩

/-- An entry is found wherever it stands, if it is the only one with its name. -/
theorem findEntry_of_unique {l : List (String × α)} {name : String} {value : α}
    (hm : (name, value) ∈ l) (hu : ∀ v, (name, v) ∈ l → v = value) :
    findEntry name l = some value := by
  cases h : findEntry name l with
  | none => exact absurd (List.mem_map.2 ⟨_, hm, rfl⟩) (findEntry_eq_none_iff.1 h)
  | some v => rw [hu v (mem_of_findEntry h)]

theorem findEntry_map {β : Type} (f : α → β) (name : String) (l : List (String × α)) :
    findEntry name (l.map fun e => (e.1, f e.2)) = (findEntry name l).map f := by
  induction l with
  | nil => rfl
  | cons e rest ih =>
    by_cases h : e.1 = name
    · simp [findEntry, h]
    · simp [findEntry, h, ih]

theorem findEntry_append (name : String) (l k : List (String × α)) :
    findEntry name (l ++ k) = (findEntry name l).or (findEntry name k) := by
  rw [findEntry_eq_find?, findEntry_eq_find?, findEntry_eq_find?, List.find?_append, Option.map_or]

/-- Names that all have the same value. -/
theorem findEntry_map_const (name : String) (names : List String) (value : α) :
    findEntry name (names.map (·, value)) = if name ∈ names then some value else none := by
  induction names with
  | nil => rfl
  | cons n rest ih =>
    rw [List.map_cons, findEntry, ih]
    by_cases h : n = name
    · simp [h]
    · simp [h, Ne.symm h]

/-! ## Maps -/

/-- The map with every value changed. -/
def map {β : Type} (f : α → β) (m : NameMap α) : NameMap β where
  entries := m.entries.map fun e => (e.1, f e.2)
  sorted := List.pairwise_map.2 m.sorted

theorem get?_map {β : Type} (f : α → β) (m : NameMap α) (name : String) :
    (m.map f).get? name = (m.get? name).map f :=
  findEntry_map f name m.entries

/-- The last entry with a name is the one that is found. -/
theorem get?_ofList (l : List (String × α)) (name : String) :
    (ofList l).get? name = findEntry name l.reverse := by
  rw [ofList, List.foldl_eq_foldr_reverse]
  induction l.reverse with
  | nil => rfl
  | cons e l ih =>
    rw [List.foldr_cons, get?_insert, ih]
    rfl

/-- Entries for names that have no value yet leave the values that there are, and of two entries
with one name the first one counts. -/
theorem get?_foldl_insertIfNew (m : NameMap α) (l : List (String × α)) (name : String) :
    (l.foldl (fun m e => m.insertIfNew e.1 e.2) m).get? name
      = (m.get? name).or (findEntry name l) := by
  induction l generalizing m with
  | nil => exact Option.or_none.symm
  | cons e rest ih =>
    rw [List.foldl_cons, ih, get?_insertIfNew, Option.or_assoc, findEntry]
    split
    · rfl
    · rfl

theorem eq_empty_of_isEmpty {m : NameMap α} (h : m.isEmpty = true) : m = empty := by
  obtain ⟨l, hs⟩ := m
  obtain rfl : l = [] := List.isEmpty_iff.1 h
  rfl

theorem nodup_names (m : NameMap α) : m.names.Nodup := by
  refine List.pairwise_map.2 (m.sorted.imp fun {a b} hlt he => ?_)
  rw [he] at hlt
  exact String.lt_irrefl _ hlt

theorem mem_names_iff {m : NameMap α} {name : String} : name ∈ m.names ↔ m.get? name ≠ none :=
  not_iff_not.1 (findEntry_eq_none_iff.symm.trans not_not.symm)

theorem mem_names_ofList {l : List (String × α)} {name : String} :
    name ∈ (ofList l).names ↔ name ∈ l.map (·.1) := by
  rw [mem_names_iff, get?_ofList, ne_eq, findEntry_eq_none_iff, not_not, List.map_reverse,
    List.mem_reverse]

theorem size_eq_card (m : NameMap α) : m.size = m.names.toFinset.card := by
  rw [List.toFinset_card_of_nodup (nodup_names m), names, List.length_map, size]

/-- A map has one entry for each name of the list it was filled from. -/
theorem size_ofList (l : List (String × α)) :
    (ofList l).size = (l.map (·.1)).toFinset.card := by
  have hnames : (ofList l).names.toFinset = (l.map (·.1)).toFinset := by
    ext name
    rw [List.mem_toFinset, List.mem_toFinset, mem_names_ofList]
  rw [size_eq_card, hnames]

/-- The entries of a map fill it again, in whatever order they come. -/
theorem ofList_of_perm {m : NameMap α} {l : List (String × α)} (h : l.Perm m.entries) :
    ofList l = m := by
  have hmem : ∀ e, e ∈ l.reverse ↔ e ∈ m.entries := fun e => List.mem_reverse.trans h.mem_iff
  refine ext_get? fun name => ?_
  rw [get?_ofList]
  cases hm : m.get? name with
  | none =>
    refine findEntry_eq_none_iff.2 fun hn => findEntry_eq_none_iff.1 hm ?_
    obtain ⟨e, he, rfl⟩ := List.mem_map.1 hn
    exact List.mem_map_of_mem ((hmem e).1 he)
  | some value =>
    refine findEntry_of_unique ((hmem _).2 (mem_entries_of_get? hm)) fun v hv => ?_
    have hfound := get?_eq_some_iff.2 ((hmem _).1 hv)
    exact Option.some.inj (hfound.symm.trans hm)

end MapBacked.NameMap
