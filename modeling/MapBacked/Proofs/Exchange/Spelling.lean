import Mathlib.Data.List.Forall2
import Mathlib.Data.List.Nodup
import MapBacked.Exchange.Record
import MapBacked.Proofs.NameMap

/-!
# The spellings of a record

One value can be written in many ways. A record is an object or an array; its members come in any
order, with others among them; and a field that is empty may be left out. `RecordSpells` says which
documents these are, field by field: what the field's value may look like is a predicate, so that
the parts of a record can be spelled in many ways themselves.

The reader of a record looks at the document through its `Slots`. That these hold a spelling of each
field, or nothing where the field may be left out, is what a spelling comes to for a reader
(`Slots.Hold`, `exists_slots_of_spells`). From there each field is read on its own
(`Slots.Hold.required`, `Slots.Hold.defaulted`).
-/

namespace MapBacked.Exchange

/-! ## What a document may look like -/

/-- What a document has for a field: the name, the values that may stand there, and whether it may
be left out. -/
structure FieldSpelling where
  name : String
  Spells : Json → Prop
  Omittable : Prop

namespace FieldSpelling

/-- A field that is always there. -/
def required (name : String) (spells : Json → Prop) : FieldSpelling := ⟨name, spells, False⟩

/-- A field that may be left out if it has its default. -/
def defaulted (name : String) (isDefault : Prop) (spells : Json → Prop) : FieldSpelling :=
  ⟨name, spells, isDefault⟩

end FieldSpelling

/-- The members of the fields in their order, some of them left out. -/
inductive MembersSpell : List FieldSpelling → List (String × Json) → Prop where
  | nil : MembersSpell [] []
  | given {f : FieldSpelling} {fs : List FieldSpelling} {j : Json} {ms : List (String × Json)}
      (hj : f.Spells j) (h : MembersSpell fs ms) : MembersSpell (f :: fs) ((f.name, j) :: ms)
  | leftOut {f : FieldSpelling} {fs : List FieldSpelling} {ms : List (String × Json)}
      (ho : f.Omittable) (h : MembersSpell fs ms) : MembersSpell (f :: fs) ms

/-- The values of the fields in their order, the last ones left out at most. -/
inductive ItemsSpell : List FieldSpelling → List Json → Prop where
  | leftOut {fs : List FieldSpelling} (ho : ∀ f ∈ fs, f.Omittable) : ItemsSpell fs []
  | given {f : FieldSpelling} {fs : List FieldSpelling} {j : Json} {js : List Json}
      (hj : f.Spells j) (h : ItemsSpell fs js) : ItemsSpell (f :: fs) (j :: js)

/-- The documents for a record with the given fields: an object with the members of the fields and
any others, in any order, or an array of the fields' values. -/
inductive RecordSpells (fs : List FieldSpelling) : Json → Prop where
  | object {ms known others : List (String × Json)} (hms : ms.Perm (known ++ others))
      (hknown : MembersSpell fs known) (hothers : ∀ m ∈ others, m.1 ∉ fs.map (·.name)) :
      RecordSpells fs (.obj ms)
  | array {js : List Json} (h : ItemsSpell fs js) : RecordSpells fs (.arr js)

/-- The array of spellings of the values of a list. -/
def ListSpells {α : Type} (spells : α → Json → Prop) (xs : List α) (j : Json) : Prop :=
  ∃ items, j = .arr items ∧ List.Forall₂ spells xs items

theorem RecordSpells.of_members {fs : List FieldSpelling} {ms : List (String × Json)}
    (h : MembersSpell fs ms) : RecordSpells fs (.obj ms) := by
  have hms : ms.Perm (ms ++ []) := by rw [List.append_nil]
  exact .object hms h fun _ hm => absurd hm List.not_mem_nil

/-! ## Finding the fields -/

section Fields

variable {fs : List FieldSpelling} {f : FieldSpelling}

theorem MembersSpell.names_sublist {ms : List (String × Json)} (h : MembersSpell fs ms) :
    (ms.map (·.1)).Sublist (fs.map (·.name)) := by
  induction h with
  | nil => exact .slnil
  | given _ _ ih => exact ih.cons_cons _
  | leftOut _ _ ih => exact ih.cons _

/-- Among the members of the fields each field has a spelling, or it has none and may be left out.
The names of the fields have to be different ones, as they are found by name. -/
theorem MembersSpell.find {ms : List (String × Json)} (h : MembersSpell fs ms)
    (hnodup : (fs.map (·.name)).Nodup) (hf : f ∈ fs) :
    (∃ j, NameMap.findEntry f.name ms = some j ∧ f.Spells j) ∨
      NameMap.findEntry f.name ms = none ∧ f.Omittable := by
  induction h with
  | nil => exact absurd hf List.not_mem_nil
  | @given g fs j ms hj _ ih =>
    obtain ⟨hg, hrest⟩ := List.nodup_cons.1 hnodup
    rcases List.mem_cons.1 hf with rfl | hf
    · exact .inl ⟨j, by rw [NameMap.findEntry, if_pos rfl], hj⟩
    · have hne : g.name ≠ f.name := fun he => hg (List.mem_map.2 ⟨f, hf, he.symm⟩)
      rw [NameMap.findEntry, if_neg hne]
      exact ih hrest hf
  | @leftOut g fs ms ho h ih =>
    obtain ⟨hg, hrest⟩ := List.nodup_cons.1 hnodup
    rcases List.mem_cons.1 hf with rfl | hf
    · -- the members are those of the other fields
      exact .inr ⟨NameMap.findEntry_eq_none_iff.2 fun hm => hg (h.names_sublist.subset hm), ho⟩
    · exact ih hrest hf

/-- Other members, wherever they stand, leave the look-up of a field as it is. -/
theorem findEntry_of_perm {ms known others : List (String × Json)}
    (hms : ms.Perm (known ++ others)) (hnodup : (known.map (·.1)).Nodup) {name : String}
    (hothers : ∀ m ∈ others, m.1 ≠ name) :
    NameMap.findEntry name ms = NameMap.findEntry name known := by
  have hmem : ∀ j, (name, j) ∈ ms ↔ (name, j) ∈ known := fun j => by
    rw [hms.mem_iff, List.mem_append, or_iff_left fun hm => hothers _ hm rfl]
  cases h : NameMap.findEntry name known with
  | none =>
    refine NameMap.findEntry_eq_none_iff.2 fun hn => NameMap.findEntry_eq_none_iff.1 h ?_
    obtain ⟨⟨m, j⟩, hm, rfl⟩ := List.mem_map.1 hn
    exact List.mem_map.2 ⟨_, (hmem j).1 hm, rfl⟩
  | some j =>
    have hj := NameMap.mem_of_findEntry h
    refine NameMap.findEntry_of_unique ((hmem j).2 hj) fun k hk => ?_
    exact congrArg Prod.snd (List.inj_on_of_nodup_map hnodup ((hmem k).1 hk) hj rfl)

/-- Items are members that stand under the names of the fields in their order. -/
theorem ItemsSpell.members {js : List Json} (h : ItemsSpell fs js) :
    MembersSpell fs ((fs.map (·.name)).zip js) := by
  induction h with
  | @leftOut fs ho =>
    rw [List.zip_nil_right]
    induction fs with
    | nil => exact .nil
    | cons f fs ih =>
      obtain ⟨hf, hfs⟩ := List.forall_mem_cons.1 ho
      exact .leftOut hf (ih hfs)
  | given hj _ ih => exact .given hj ih

theorem ItemsSpell.length_le {js : List Json} (h : ItemsSpell fs js) : js.length ≤ fs.length := by
  induction h with
  | leftOut _ => exact Nat.zero_le _
  | given _ _ ih => exact Nat.succ_le_succ ih

end Fields

/-! ## The slots of a spelling -/

namespace Slots

variable {shape : Shape} {fs : List FieldSpelling} {s : Slots}

theorem firstRepeated?_eq_none {names : List String} (h : names.Nodup) :
    firstRepeated? names = none := by
  induction names with
  | nil => rfl
  | cons name names ih =>
    obtain ⟨hname, hnames⟩ := List.nodup_cons.1 h
    have hnot : ¬ names.contains name = true := fun hc => hname (List.contains_iff_mem.1 hc)
    rw [firstRepeated?, if_neg hnot]
    exact ih hnames

/-- Members none of which repeats the name of a field are taken as they are. -/
theorem ofMembers_of_nodup {ms : List (String × Json)}
    (h : ((ms.map (·.1)).filter shape.fields.contains).Nodup) :
    ofMembers shape ms = .ok ⟨shape, ms, none⟩ := by
  rw [ofMembers, firstRepeated?_eq_none h]

/-- Other members do not repeat the name of a field. -/
theorem nodup_filter_of_perm {ms known others : List (String × Json)}
    (hms : ms.Perm (known ++ others)) (hnodup : (known.map (·.1)).Nodup)
    (hothers : ∀ m ∈ others, m.1 ∉ shape.fields) :
    ((ms.map (·.1)).filter shape.fields.contains).Nodup := by
  have hempty : (others.map (·.1)).filter shape.fields.contains = [] := by
    refine List.filter_eq_nil_iff.2 fun n hn hc => ?_
    obtain ⟨m, hm, rfl⟩ := List.mem_map.1 hn
    exact hothers m hm (List.contains_iff_mem.1 hc)
  have hperm := (hms.map (·.1)).filter shape.fields.contains
  rw [List.map_append, List.filter_append, hempty, List.append_nil] at hperm
  exact hperm.nodup_iff.2 (hnodup.filter _)

/-- The slots hold a spelling of each field, or nothing where the field may be left out. -/
structure Hold (s : Slots) (shape : Shape) (fs : List FieldSpelling) : Prop where
  shape_eq : s.shape = shape
  find : ∀ f ∈ fs, (∃ j, NameMap.findEntry f.name s.values = some j ∧ f.Spells j) ∨
    NameMap.findEntry f.name s.values = none ∧ f.Omittable
  surplus : s.refuseSurplus = .ok ()

/-- Nothing is refused where no value has a fault and others than the fields are passed over. -/
theorem Hold.refuse (h : s.Hold shape fs) (hopen : shape.closed = false) :
    s.refuse [] = .ok () := by
  have hnone : (s.values.findSome? fun v => s.faultAt? [] v.1) = none := by
    refine List.findSome?_eq_none_iff.2 fun v _ => ?_
    rw [faultAt?, h.shape_eq, hopen]
    rfl
  rw [Slots.refuse, hnone]

variable {α : Type} {name : String} {spells : Json → Prop} {read : Json → Except Fault α} {x : α}

/-- A field comes to the value it spells, or it is not there. -/
theorem Hold.field (h : s.Hold shape fs) {f : FieldSpelling} (hf : f ∈ fs)
    (hread : ∀ j, f.Spells j → read j = .ok x) :
    s.field f.name read = some (.ok x) ∨ s.field f.name read = none ∧ f.Omittable := by
  rcases h.find f hf with ⟨j, hj, hspells⟩ | ⟨hnone, ho⟩
  · rw [Slots.field, hj, Option.map_some, hread j hspells]
    exact .inl rfl
  · rw [Slots.field, hnone]
    exact .inr ⟨rfl, ho⟩

/-- The field at a position is read without a fault if it is always there. -/
theorem Hold.required (h : s.Hold shape fs) (i : Nat) (hi : fs[i]? = some (.required name spells))
    (hread : ∀ j, spells j → read j = .ok x) :
    faultOf name (s.field name read) = [] ∧ s.required name (s.field name read) = .ok x := by
  have hfield : s.field name read = some (.ok x) :=
    (h.field (List.mem_of_getElem? hi) hread).resolve_right And.right
  rw [hfield]
  exact ⟨rfl, rfl⟩

/-- So it is if it has a default, whether it is there or not. -/
theorem Hold.defaulted {isDefault : Prop} {default : α} (h : s.Hold shape fs) (i : Nat)
    (hi : fs[i]? = some (.defaulted name isDefault spells)) (hdefault : isDefault → x = default)
    (hread : ∀ j, spells j → read j = .ok x) :
    faultOf name (s.field name read) = [] ∧
      Slots.defaulted default (s.field name read) = .ok x := by
  have hfield : s.field name read = some (.ok x) ∨ s.field name read = none ∧ isDefault :=
    h.field (List.mem_of_getElem? hi) hread
  rcases hfield with hfield | ⟨hfield, ho⟩
  · rw [hfield]
    exact ⟨rfl, rfl⟩
  · rw [hfield, hdefault ho]
    exact ⟨rfl, rfl⟩

end Slots

/-- **A spelling of a record has slots that hold its fields.** -/
theorem exists_slots_of_spells (shape : Shape) {fs : List FieldSpelling} {j : Json}
    (hfields : fs.map (·.name) = shape.fields) (hnodup : shape.fields.Nodup)
    (h : RecordSpells fs j) : ∃ s, Slots.ofJson shape j = .ok s ∧ s.Hold shape fs := by
  rw [← hfields] at hnodup
  cases h with
  | @object ms known others hms hknown hothers =>
    have hnames : (known.map (·.1)).Nodup := hknown.names_sublist.nodup hnodup
    have hfilter : ((ms.map (·.1)).filter shape.fields.contains).Nodup :=
      Slots.nodup_filter_of_perm hms hnames (hfields ▸ hothers)
    refine ⟨⟨shape, ms, none⟩, Slots.ofMembers_of_nodup hfilter, rfl, fun f hf => ?_, rfl⟩
    have hne : ∀ m ∈ others, m.1 ≠ f.name := fun m hm he =>
      hothers m hm (he ▸ List.mem_map_of_mem hf)
    rw [findEntry_of_perm hms hnames hne]
    exact hknown.find hnodup hf
  | @array js hitems =>
    refine ⟨Slots.ofItems shape js, rfl, rfl, fun f hf => ?_, ?_⟩
    · have hfind := hitems.members.find hnodup hf
      rw [hfields] at hfind
      exact hfind
    · have hlength : ¬ shape.fields.length < js.length := by
        rw [← hfields, List.length_map]
        exact Nat.not_lt.2 hitems.length_le
      exact if_neg hlength

/-! ## Values that are no records -/

theorem readAll_of_forall₂ {α : Type} {spells : α → Json → Prop} {read : Json → Except Fault α}
    (hread : ∀ x j, spells x j → read j = .ok x) {xs : List α} {items : List Json}
    (h : List.Forall₂ spells xs items) : readAll read items = .ok xs := by
  induction h with
  | nil => rfl
  | cons hx _ ih =>
    rw [readAll, hread _ _ hx, ih]
    rfl

theorem readList_of_spells {α : Type} {spells : α → Json → Prop} {read : Json → Except Fault α}
    (hread : ∀ x j, spells x j → read j = .ok x) {xs : List α} {j : Json}
    (h : ListSpells spells xs j) : readList read j = .ok xs := by
  obtain ⟨items, rfl, hitems⟩ := h
  exact readAll_of_forall₂ hread hitems

theorem listSpells_map {α : Type} {spells : α → Json → Prop} {write : α → Json}
    (hwrite : ∀ x, spells x (write x)) (xs : List α) : ListSpells spells xs (.arr (xs.map write)) :=
  ⟨_, rfl, List.forall₂_map_right_iff.2 (List.forall₂_same.2 fun x _ => hwrite x)⟩

end MapBacked.Exchange
