import MapBacked.Proofs.Exchange.RoundTrip

/-!
# Which documents are attribute values

Nothing in a document says which kind of attribute value it is meant to be: a reader can only try
the kinds one after another and take the first that fits (`readByTrial`), and the same again for
every item of a list. This file says why nothing can go wrong with that. A document fits one kind at
most, the one it is written for (`eq_kind_of_readAs`), so every order of trials comes to what
`readMarkerValue` does. That reader takes exactly what is written for some value, and gives this
value (`readMarkerValue_eq_ok_iff`). Which documents these are is said apart from any reader
(`AttributeDocument`), and a document is none of them just if something foreign stands in it,
however deep (`readMarkerValue_eq_error_iff`).
-/

namespace MapBacked.Exchange

/-- The documents that are built, to any depth, from truth values, integers of 64 bits with a sign,
texts and lists. -/
inductive AttributeDocument : Json → Prop where
  | bool (b : Bool) : AttributeDocument (.bool b)
  | int {i : Int} (low : -0x8000000000000000 ≤ i) (high : i < 0x8000000000000000) :
    AttributeDocument (.int i)
  | text (s : String) : AttributeDocument (.str s)
  | list {items : List Json} (h : ∀ j ∈ items, AttributeDocument j) : AttributeDocument (.arr items)

/-- The documents that are not of that form, whatever stands inside them. -/
inductive Foreign : Json → Prop where
  | null : Foreign .null
  | int {i : Int} (h : i < -0x8000000000000000 ∨ 0x8000000000000000 ≤ i) : Foreign (.int i)
  | double (shown : String) : Foreign (.double shown)
  | object (members : List (String × Json)) : Foreign (.obj members)
  | unreadable : Foreign .unreadable

/-- The first document is the second one or stands in it, with nothing but lists around it. -/
inductive InLists (k : Json) : Json → Prop where
  | here : InLists k k
  | item {items : List Json} {j : Json} (hj : j ∈ items) (h : InLists k j) : InLists k (.arr items)

/-! ## What is read -/

theorem readMarkerValue_int (i : Int) : readMarkerValue (.int i)
    = if -0x8000000000000000 ≤ i ∧ i < 0x8000000000000000 then .ok (.int (Int64.ofInt i))
      else .error .noAttributeValue := rfl

/-- A list is read if its items are. -/
theorem readMarkerValues_ok {items : List Json} (h : ∀ j ∈ items, ∃ v, readMarkerValue j = .ok v) :
    ∃ vs, readMarkerValues items = .ok vs := by
  induction items with
  | nil => exact ⟨[], rfl⟩
  | cons j rest ih =>
    obtain ⟨⟨v, hv⟩, hrest⟩ := List.forall_mem_cons.1 h
    obtain ⟨vs, hvs⟩ := ih hrest
    refine ⟨v :: vs, ?_⟩
    rw [readMarkerValues, hv, hvs]
    rfl

theorem AttributeDocument.exists_read {j : Json} (h : AttributeDocument j) :
    ∃ v, readMarkerValue j = .ok v := by
  induction h with
  | bool b => exact ⟨.bool b, rfl⟩
  | @int i low high =>
    refine ⟨.int (Int64.ofInt i), ?_⟩
    rw [readMarkerValue_int, if_pos ⟨low, high⟩]
  | text s => exact ⟨.text s, rfl⟩
  | list _ ih =>
    obtain ⟨vs, hvs⟩ := readMarkerValues_ok ih
    refine ⟨.list vs, ?_⟩
    rw [readMarkerValue, hvs]
    rfl

mutual

theorem eq_write_of_readMarkerValue :
    ∀ (j : Json) (v : MarkerValue), readMarkerValue j = .ok v → j = writeMarkerValue v
  | .null, _, h => by cases h
  | .bool b, _, h => by
    cases h
    rfl
  | .int i, v, h => by
    rw [readMarkerValue_int] at h
    split at h
    · next hword =>
      cases h
      rw [writeMarkerValue, Int64.toInt_ofInt_of_le hword.1 hword.2]
    · cases h
  | .double _, _, h => by cases h
  | .str s, _, h => by
    cases h
    rfl
  | .arr items, v, h => by
    rw [readMarkerValue] at h
    cases hvs : readMarkerValues items with
    | error e =>
      rw [hvs] at h
      cases h
    | ok vs =>
      rw [hvs] at h
      cases h
      rw [writeMarkerValue, eq_write_of_readMarkerValues items vs hvs]
  | .obj _, _, h => by cases h
  | .unreadable, _, h => by cases h

theorem eq_write_of_readMarkerValues : ∀ (items : List Json) (vs : List MarkerValue),
    readMarkerValues items = .ok vs → items = writeMarkerValues vs
  | [], _, h => by
    cases h
    rfl
  | j :: rest, vs, h => by
    rw [readMarkerValues] at h
    cases hv : readMarkerValue j with
    | error e =>
      rw [hv] at h
      cases h
    | ok v =>
      cases hws : readMarkerValues rest with
      | error e =>
        rw [hv, hws] at h
        cases h
      | ok ws =>
        rw [hv, hws] at h
        cases h
        rw [writeMarkerValues, eq_write_of_readMarkerValue j v hv,
          eq_write_of_readMarkerValues rest ws hws]

end

/-- **A value is read from what is written for it**, and from nothing else. -/
theorem readMarkerValue_eq_ok_iff {j : Json} {v : MarkerValue} :
    readMarkerValue j = .ok v ↔ j = writeMarkerValue v := by
  constructor
  · exact eq_write_of_readMarkerValue j v
  · rintro rfl
    exact readMarkerValue_write v

mutual

theorem attributeDocument_write : ∀ v : MarkerValue, AttributeDocument (writeMarkerValue v)
  | .bool b => .bool b
  | .int i => .int i.le_toInt i.toInt_lt
  | .list vs => .list (attributeDocument_writeAll vs)
  | .text s => .text s

theorem attributeDocument_writeAll :
    ∀ vs : List MarkerValue, ∀ j ∈ writeMarkerValues vs, AttributeDocument j
  | [], _, hj => by cases hj
  | v :: vs, j, hj => by
    rcases List.mem_cons.1 hj with rfl | hj
    · exact attributeDocument_write v
    · exact attributeDocument_writeAll vs j hj

end

theorem exists_readMarkerValue_iff {j : Json} :
    (∃ v, readMarkerValue j = .ok v) ↔ AttributeDocument j := by
  constructor
  · rintro ⟨v, hv⟩
    rw [readMarkerValue_eq_ok_iff.1 hv]
    exact attributeDocument_write v
  · exact AttributeDocument.exists_read

/-! ## What is not read -/

/-- What stands in the lists of an attribute document is one. -/
theorem AttributeDocument.of_inLists {j k : Json} (h : AttributeDocument j) (hk : InLists k j) :
    AttributeDocument k := by
  induction hk with
  | here => exact h
  | item hj _ ih =>
    cases h with
    | list hitems => exact ih (hitems _ hj)

theorem AttributeDocument.not_foreign {j : Json} (h : AttributeDocument j) : ¬ Foreign j := by
  intro hforeign
  cases hforeign with
  | int hout =>
    cases h with
    | int low high => omega
  | null => cases h
  | double => cases h
  | object => cases h
  | unreadable => cases h

mutual

/-- There is one fault, and it comes from a foreign document inside. -/
theorem foreign_of_readMarkerValue : ∀ (j : Json) (e : Fault), readMarkerValue j = .error e →
    e = .noAttributeValue ∧ ∃ k, Foreign k ∧ InLists k j
  | .null, _, h => by
    cases h
    exact ⟨rfl, _, .null, .here⟩
  | .bool _, _, h => by cases h
  | .int i, _, h => by
    rw [readMarkerValue_int] at h
    split at h
    · cases h
    · next hword =>
      cases h
      exact ⟨rfl, _, .int (by omega), .here⟩
  | .double _, _, h => by
    cases h
    exact ⟨rfl, _, .double _, .here⟩
  | .str _, _, h => by cases h
  | .arr items, e, h => by
    rw [readMarkerValue] at h
    cases hvs : readMarkerValues items with
    | error e' =>
      rw [hvs] at h
      cases h
      obtain ⟨hfault, k, hk, j, hj, hin⟩ := foreign_of_readMarkerValues items e hvs
      exact ⟨hfault, k, hk, .item hj hin⟩
    | ok vs =>
      rw [hvs] at h
      cases h
  | .obj _, _, h => by
    cases h
    exact ⟨rfl, _, .object _, .here⟩
  | .unreadable, _, h => by
    cases h
    exact ⟨rfl, _, .unreadable, .here⟩

theorem foreign_of_readMarkerValues : ∀ (items : List Json) (e : Fault),
    readMarkerValues items = .error e →
    e = .noAttributeValue ∧ ∃ k, Foreign k ∧ ∃ j ∈ items, InLists k j
  | [], _, h => by cases h
  | j :: rest, e, h => by
    rw [readMarkerValues] at h
    cases hv : readMarkerValue j with
    | error e' =>
      rw [hv] at h
      cases h
      obtain ⟨hfault, k, hk, hin⟩ := foreign_of_readMarkerValue j e hv
      exact ⟨hfault, k, hk, j, List.mem_cons_self, hin⟩
    | ok v =>
      cases hws : readMarkerValues rest with
      | error e' =>
        rw [hv, hws] at h
        cases h
        obtain ⟨hfault, k, hk, j', hj', hin⟩ := foreign_of_readMarkerValues rest e hws
        exact ⟨hfault, k, hk, j', List.mem_cons_of_mem _ hj', hin⟩
      | ok ws =>
        rw [hv, hws] at h
        cases h

end

/-- **Something foreign anywhere inside makes the whole reading fail**, and nothing else does. -/
theorem readMarkerValue_eq_error_iff {j : Json} {e : Fault} :
    readMarkerValue j = .error e ↔ e = .noAttributeValue ∧ ∃ k, Foreign k ∧ InLists k j := by
  constructor
  · exact foreign_of_readMarkerValue j e
  · rintro ⟨rfl, k, hk, hin⟩
    cases h : readMarkerValue j with
    | ok v =>
      have hdoc : AttributeDocument j := exists_readMarkerValue_iff.1 ⟨v, h⟩
      exact absurd hk (hdoc.of_inLists hin).not_foreign
    | error e => rw [(foreign_of_readMarkerValue j e h).1]

/-! ## Trying the kinds -/

/-- The kinds of attribute values. -/
inductive ValueKind where
  | bool
  | int
  | list
  | text
deriving DecidableEq

/-- The kind of a value. -/
def ValueKind.of : MarkerValue → ValueKind
  | .bool _ => .bool
  | .int _ => .int
  | .list _ => .list
  | .text _ => .text

/-- The kind that the form of a document leaves open. -/
def ValueKind.ofForm? : Json → Option ValueKind
  | .bool _ => some .bool
  | .int _ => some .int
  | .arr _ => some .list
  | .str _ => some .text
  | _ => none

mutual

/-- Reads a document as the first kind in the given order that it can be read as. -/
def readByTrial (order : List ValueKind) (j : Json) : Option MarkerValue :=
  order.findSome? fun kind => readAs order kind j
termination_by (sizeOf j, 1)

/-- Reads a document as a value of a kind. The items of a list may be of any kind again. -/
def readAs (order : List ValueKind) : ValueKind → Json → Option MarkerValue
  | .bool, .bool b => some (.bool b)
  | .int, .int i =>
    if -0x8000000000000000 ≤ i ∧ i < 0x8000000000000000 then some (.int (Int64.ofInt i)) else none
  | .list, .arr items => (readAllByTrial order items).map .list
  | .text, .str s => some (.text s)
  | _, _ => none
termination_by _ j => (sizeOf j, 0)

def readAllByTrial (order : List ValueKind) : List Json → Option (List MarkerValue)
  | [] => some []
  | j :: rest => do return (← readByTrial order j) :: (← readAllByTrial order rest)
termination_by items => (sizeOf items, 0)

end

variable {order : List ValueKind} {kind : ValueKind} {j : Json} {v w : MarkerValue}

/-- No other kind fits. -/
theorem readAs_eq_none (h : ValueKind.ofForm? j ≠ some kind) : readAs order kind j = none := by
  unfold readAs
  split
  · exact absurd rfl h
  · exact absurd rfl h
  · exact absurd rfl h
  · exact absurd rfl h
  · rfl

theorem ofForm?_write (v : MarkerValue) :
    ValueKind.ofForm? (writeMarkerValue v) = some (.of v) := by
  cases v <;> rfl

/-- What is written for a value can be read as one of its own kind only. -/
theorem eq_kind_of_readAs (h : readAs order kind (writeMarkerValue v) = some w) :
    kind = ValueKind.of v := by
  by_contra hne
  rw [readAs_eq_none] at h
  · cases h
  · rw [ofForm?_write]
    intro heq
    exact hne (Option.some.inj heq).symm

/-- The trials come to the kind that the form leaves open, wherever that stands in the order. -/
theorem readByTrial_of_form (hall : ∀ k, k ∈ order) (hj : ValueKind.ofForm? j = some kind) :
    readByTrial order j = readAs order kind j := by
  rw [readByTrial]
  cases hfind : order.findSome? fun k => readAs order k j with
  | none => exact (List.findSome?_eq_none_iff.1 hfind kind (hall kind)).symm
  | some v =>
    obtain ⟨k, -, hk⟩ := List.exists_of_findSome?_eq_some hfind
    by_cases h : kind = k
    · rw [h, hk]
    · rw [readAs_eq_none (by rw [hj]; exact fun heq => h (Option.some.inj heq))] at hk
      cases hk

theorem readByTrial_of_no_form (hj : ValueKind.ofForm? j = none) : readByTrial order j = none := by
  rw [readByTrial, List.findSome?_eq_none_iff]
  intro k _
  exact readAs_eq_none (by rw [hj]; exact (Option.some_ne_none k).symm)

mutual

/-- **Every order of trials comes to the same.** -/
theorem readByTrial_eq (hall : ∀ k, k ∈ order) :
    ∀ j : Json, readByTrial order j = (readMarkerValue j).toOption
  | .null => readByTrial_of_no_form rfl
  | .bool b => by
    rw [readByTrial_of_form hall rfl, readAs]
    rfl
  | .int i => by
    rw [readByTrial_of_form hall rfl, readAs, readMarkerValue_int]
    by_cases hword : -0x8000000000000000 ≤ i ∧ i < 0x8000000000000000
    · rw [if_pos hword, if_pos hword]
      rfl
    · rw [if_neg hword, if_neg hword]
      rfl
  | .double _ => readByTrial_of_no_form rfl
  | .str s => by
    rw [readByTrial_of_form hall rfl, readAs]
    rfl
  | .arr items => by
    rw [readByTrial_of_form hall rfl, readAs, readAllByTrial_eq hall items, readMarkerValue]
    cases readMarkerValues items with
    | ok vs => rfl
    | error e => rfl
  | .obj _ => readByTrial_of_no_form rfl
  | .unreadable => readByTrial_of_no_form rfl

theorem readAllByTrial_eq (hall : ∀ k, k ∈ order) :
    ∀ items : List Json, readAllByTrial order items = (readMarkerValues items).toOption
  | [] => by
    rw [readAllByTrial]
    rfl
  | j :: rest => by
    rw [readAllByTrial, readByTrial_eq hall j, readAllByTrial_eq hall rest, readMarkerValues]
    cases readMarkerValue j with
    | error e => rfl
    | ok v =>
      cases readMarkerValues rest with
      | error e => rfl
      | ok vs => rfl

end

/-- A trial that succeeds gives back the value that the document was written for. -/
theorem eq_of_readAs (hall : ∀ k, k ∈ order)
    (h : readAs order kind (writeMarkerValue v) = some w) : w = v := by
  have hform : ValueKind.ofForm? (writeMarkerValue v) = some kind := by
    rw [ofForm?_write, eq_kind_of_readAs h]
  rw [← readByTrial_of_form hall hform, readByTrial_eq hall, readMarkerValue_write] at h
  exact (Option.some.inj h).symm

/-- **Attribute values are read exactly and kept exactly.** The reader takes the documents that are
built from truth values, integers of 64 bits, texts and lists, and no others. It reads a document as
a value just if that is what is written for the value. It fails, always with the same fault, just if
something foreign stands anywhere in the lists of the document. And it comes to the same as trying
one kind of value after another does, at every level and in any order: of the trials with what is
written for a value only that of its own kind can succeed, and it gives the value back. -/
theorem attribute_values_read_exactly (j : Json) :
    ((∃ v, readMarkerValue j = .ok v) ↔ AttributeDocument j) ∧
    (∀ v, readMarkerValue j = .ok v ↔ j = writeMarkerValue v) ∧
    (∀ e, readMarkerValue j = .error e ↔
      e = .noAttributeValue ∧ ∃ k, Foreign k ∧ InLists k j) ∧
    (∀ order : List ValueKind, (∀ kind, kind ∈ order) →
      readByTrial order j = (readMarkerValue j).toOption ∧
      ∀ kind v w, j = writeMarkerValue v → readAs order kind j = some w →
        kind = .of v ∧ w = v) := by
  refine ⟨exists_readMarkerValue_iff, fun v => readMarkerValue_eq_ok_iff,
    fun e => readMarkerValue_eq_error_iff, ?trials⟩
  case trials =>
    intro order hall
    refine ⟨readByTrial_eq hall j, ?_⟩
    rintro kind v w rfl h
    exact ⟨eq_kind_of_readAs h, eq_of_readAs hall h⟩

/-! ## The bounds of integers -/

/-- A list with the largest integer and, further inside, the least one beside a text that looks like
a truth value. -/
def boundsDocument : Json :=
  .arr [.int 0x7fffffffffffffff, .arr [], .arr [.str "true", .arr [.int (-0x8000000000000000)]]]

def boundsValue : MarkerValue :=
  .list [.int Int64.maxValue, .list [], .list [.text "true", .list [.int Int64.minValue]]]

/-- The same list with the next larger integer inside. -/
def beyondDocument : Json :=
  .arr [.int 0x7fffffffffffffff, .arr [], .arr [.str "true", .arr [.int 0x8000000000000000]]]

theorem attribute_values_read_exactly_bounds :
    (∀ kind, kind ∈ [ValueKind.text, .list, .int, .bool]) ∧
    boundsDocument = writeMarkerValue boundsValue ∧
    readByTrial [.text, .list, .int, .bool] boundsDocument = some boundsValue ∧
    readAs [.text, .list, .int, .bool] .list boundsDocument = some boundsValue ∧
    (∀ kind w, readAs [.text, .list, .int, .bool] kind boundsDocument = some w →
      kind = .list ∧ w = boundsValue) ∧
    readMarkerValue beyondDocument = .error .noAttributeValue := by
  have hall : ∀ kind, kind ∈ [ValueKind.text, .list, .int, .bool] := by
    rintro (_ | _ | _ | _) <;> decide
  have hwritten : boundsDocument = writeMarkerValue boundsValue := rfl
  obtain ⟨-, hok, -, htrials⟩ := attribute_values_read_exactly boundsDocument
  obtain ⟨hsame, honly⟩ := htrials _ hall
  have hread : readByTrial [.text, .list, .int, .bool] boundsDocument = some boundsValue := by
    rw [hsame, (hok _).2 hwritten]
    rfl
  have hlist : readAs [.text, .list, .int, .bool] .list boundsDocument = some boundsValue := by
    rw [← readByTrial_of_form hall rfl, hread]
  have hforeign : ∃ k, Foreign k ∧ InLists k beyondDocument :=
    ⟨.int 0x8000000000000000, .int (.inr (le_refl _)),
      .item (j := .arr [.str "true", .arr [.int 0x8000000000000000]]) (by simp)
        (.item (j := .arr [.int 0x8000000000000000]) (by simp) (.item (by simp) .here))⟩
  obtain ⟨-, -, herror, -⟩ := attribute_values_read_exactly beyondDocument
  exact ⟨hall, hwritten, hread, hlist, fun kind w h => honly kind boundsValue w hwritten h,
    (herror _).2 ⟨rfl, hforeign⟩⟩

end MapBacked.Exchange
