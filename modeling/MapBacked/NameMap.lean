/-!
# Tables keyed by name

Attributes of a marker, declarations of a host, rules of a marker table: all are finite maps from
names to values, and all are listed in the order of their names. `NameMap` is that map. Its entries
are kept strictly sorted, so two maps with the same entries are equal, whatever order they were
filled in, and a name is there at most once.

Names are ordered character by character by code point, which is the same order as byte by byte in
UTF-8.

Main statements: what a look-up gives after an insertion (`get?_insert`), and that the look-ups
determine the map (`ext_get?`).
-/

namespace MapBacked

/-- A finite map from names to values, its entries strictly sorted by name. -/
structure NameMap (α : Type) where
  entries : List (String × α)
  sorted : entries.Pairwise (fun a b => a.1 < b.1)

namespace NameMap

variable {α β : Type}

/-! ## Entry lists -/

/-- Puts an entry where it belongs; an entry of the same name is replaced. -/
def insertEntry (name : String) (value : α) : List (String × α) → List (String × α)
  | [] => [(name, value)]
  | e :: rest =>
    if name < e.1 then (name, value) :: e :: rest
    else if name = e.1 then (name, value) :: rest
    else e :: insertEntry name value rest

/-- The value of the first entry with the name. -/
def findEntry (name : String) : List (String × α) → Option α
  | [] => none
  | e :: rest => if e.1 = name then some e.2 else findEntry name rest

theorem mem_insertEntry {name : String} {value : α} {e : String × α} {l : List (String × α)}
    (h : e ∈ insertEntry name value l) : e = (name, value) ∨ e ∈ l := by
  induction l with
  | nil => simpa [insertEntry] using h
  | cons d rest ih =>
    simp only [insertEntry] at h
    split at h
    · simpa using h
    · split at h
      · rcases List.mem_cons.1 h with h | h
        · exact .inl h
        · exact .inr (List.mem_cons_of_mem _ h)
      · rcases List.mem_cons.1 h with h | h
        · exact .inr (h ▸ List.mem_cons_self)
        · exact (ih h).imp_right (List.mem_cons_of_mem _)

theorem pairwise_insertEntry {name : String} {value : α} {l : List (String × α)}
    (h : l.Pairwise (fun a b => a.1 < b.1)) :
    (insertEntry name value l).Pairwise (fun a b => a.1 < b.1) := by
  induction l with
  | nil => simp [insertEntry]
  | cons d rest ih =>
    have hd : ∀ b ∈ rest, d.1 < b.1 := fun _ hb => List.rel_of_pairwise_cons h hb
    simp only [insertEntry]
    split
    · rename_i hlt
      refine List.Pairwise.cons (fun b hb => ?_) h
      rcases List.mem_cons.1 hb with rfl | hb
      · exact hlt
      · exact String.lt_trans hlt (hd b hb)
    · split
      · rename_i heq
        exact List.Pairwise.cons (fun b hb => by simpa [heq] using hd b hb) h.of_cons
      · rename_i hlt hne
        refine List.Pairwise.cons (fun b hb => ?_) (ih h.of_cons)
        rcases mem_insertEntry hb with rfl | hb
        · exact Std.lt_of_le_of_ne (Std.not_lt.1 hlt) (Ne.symm hne)
        · exact hd b hb

theorem findEntry_insertEntry (name other : String) (value : α) (l : List (String × α)) :
    findEntry other (insertEntry name value l)
      = if name = other then some value else findEntry other l := by
  induction l with
  | nil => simp [insertEntry, findEntry]
  | cons d rest ih =>
    simp only [insertEntry]
    split
    · simp [findEntry]
    · split
      · rename_i heq
        subst heq
        by_cases h : d.1 = other <;> simp [findEntry, h]
      · rename_i hne
        by_cases h : d.1 = other
        · have : name ≠ other := fun e => hne (e.trans h.symm)
          simp [findEntry, h, this]
        · simp [findEntry, h, ih]

theorem mem_of_findEntry {name : String} {value : α} {l : List (String × α)}
    (h : findEntry name l = some value) : (name, value) ∈ l := by
  induction l with
  | nil => simp [findEntry] at h
  | cons d rest ih =>
    simp only [findEntry] at h
    split at h
    · rename_i hd
      cases h
      exact hd ▸ List.mem_cons_self
    · exact List.mem_cons_of_mem _ (ih h)

/-! ## Maps -/

def empty : NameMap α := ⟨[], .nil⟩

def get? (m : NameMap α) (name : String) : Option α := findEntry name m.entries

/-- Sets the value of a name, replacing the one it had. -/
def insert (m : NameMap α) (name : String) (value : α) : NameMap α :=
  ⟨insertEntry name value m.entries, pairwise_insertEntry m.sorted⟩

/-- Sets the value of a name that has none yet. -/
def insertIfNew (m : NameMap α) (name : String) (value : α) : NameMap α :=
  if (m.get? name).isSome then m else m.insert name value

/-- The map of a list of entries; of two entries with one name the later one counts. -/
def ofList (entries : List (String × α)) : NameMap α :=
  entries.foldl (fun m e => m.insert e.1 e.2) empty

def names (m : NameMap α) : List String := m.entries.map (·.1)

def size (m : NameMap α) : Nat := m.entries.length

def isEmpty (m : NameMap α) : Bool := m.entries.isEmpty

@[simp] theorem get?_empty (name : String) : (empty : NameMap α).get? name = none := rfl

/-- After an insertion the inserted name has the inserted value and the others are as before. -/
theorem get?_insert (m : NameMap α) (name other : String) (value : α) :
    (m.insert name value).get? other = if name = other then some value else m.get? other :=
  findEntry_insertEntry name other value m.entries

@[simp] theorem get?_insert_self (m : NameMap α) (name : String) (value : α) :
    (m.insert name value).get? name = some value := by
  simp [get?_insert]

/-- A name that already has a value keeps it. -/
theorem get?_insertIfNew (m : NameMap α) (name other : String) (value : α) :
    (m.insertIfNew name value).get? other
      = (m.get? other).or (if name = other then some value else none) := by
  unfold insertIfNew
  split
  · rename_i h
    by_cases hn : name = other
    · subst hn
      obtain ⟨v, hv⟩ := Option.isSome_iff_exists.1 h
      simp [hv]
    · simp [hn]
  · rename_i h
    rw [get?_insert]
    by_cases hn : name = other
    · subst hn
      simp [Option.not_isSome_iff_eq_none.1 h]
    · simp [hn]

theorem mem_entries_of_get? {m : NameMap α} {name : String} {value : α}
    (h : m.get? name = some value) : (name, value) ∈ m.entries :=
  mem_of_findEntry h

/-- An entry is found under its name: the names are distinct. -/
theorem get?_of_mem_entries {m : NameMap α} {e : String × α} (h : e ∈ m.entries) :
    m.get? e.1 = some e.2 := by
  obtain ⟨l, hs⟩ := m
  simp only at h
  simp only [get?]
  induction l with
  | nil => simp at h
  | cons d rest ih =>
    rcases List.mem_cons.1 h with rfl | hm
    · simp [findEntry]
    · have hlt := List.rel_of_pairwise_cons hs hm
      have hne : d.1 ≠ e.1 := fun he => String.lt_irrefl _ (he ▸ hlt)
      simp [findEntry, hne, ih hs.of_cons hm]

theorem get?_eq_some_iff {m : NameMap α} {name : String} {value : α} :
    m.get? name = some value ↔ (name, value) ∈ m.entries :=
  ⟨mem_entries_of_get?, fun h => get?_of_mem_entries h⟩

/-- Two maps that answer every look-up alike are the same map. -/
theorem ext_get? {m n : NameMap α} (h : ∀ name, m.get? name = n.get? name) : m = n := by
  obtain ⟨l, hl⟩ := m
  obtain ⟨k, hk⟩ := n
  have hmem : ∀ e : String × α, e ∈ l ↔ e ∈ k := fun e => by
    rw [← get?_eq_some_iff (m := ⟨l, hl⟩), ← get?_eq_some_iff (m := ⟨k, hk⟩), h]
  have key : l = k := by
    clear h
    induction l generalizing k with
    | nil =>
      cases k with
      | nil => rfl
      | cons d r => exact absurd ((hmem d).2 List.mem_cons_self) (by simp)
    | cons d r ih =>
      cases k with
      | nil => exact absurd ((hmem d).1 List.mem_cons_self) (by simp)
      | cons d' r' =>
        have hd : d = d' := by
          rcases List.mem_cons.1 ((hmem d).1 List.mem_cons_self) with h | h
          · exact h
          · rcases List.mem_cons.1 ((hmem d').2 List.mem_cons_self) with h' | h'
            · exact h'.symm
            · exact absurd (String.lt_trans (List.rel_of_pairwise_cons hl h')
                (List.rel_of_pairwise_cons hk h)) (String.lt_irrefl _)
        subst hd
        congr 1
        refine ih hl.of_cons r' hk.of_cons fun e => ⟨fun he => ?_, fun he => ?_⟩
        · rcases List.mem_cons.1 ((hmem e).1 (List.mem_cons_of_mem _ he)) with h | h
          · subst h
            exact absurd (List.rel_of_pairwise_cons hl he) (String.lt_irrefl _)
          · exact h
        · rcases List.mem_cons.1 ((hmem e).2 (List.mem_cons_of_mem _ he)) with h | h
          · subst h
            exact absurd (List.rel_of_pairwise_cons hk he) (String.lt_irrefl _)
          · exact h
  subst key
  rfl

end NameMap

end MapBacked
