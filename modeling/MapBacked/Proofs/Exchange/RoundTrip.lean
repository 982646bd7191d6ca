import MapBacked.Exchange.Methods
import MapBacked.Exchange.ValueTypes
import MapBacked.Proofs.Exchange.Spelling

/-!
# Values of the model survive JSON

For every type of the model that is exchanged there is a predicate that tells which documents spell
a value (`TypeRefSpells`, `MarkerSpells` and so on). Readers and writers meet at it: what is written
for a value spells it, and whatever spells a value is read as that value. So no value is lost on the
way, and hosts that write their documents in another way are understood, too.

Records go field by field and are all treated alike. Uses of types contain further uses, so theirs
is an induction over the use.
-/

namespace MapBacked.Exchange

/-! ## Texts and flags -/

def TextSpells (s : String) (j : Json) : Prop := j = .str s

def FlagSpells (b : Bool) (j : Json) : Prop := j = .bool b

theorem readText_of_spells (s : String) (j : Json) (h : TextSpells s j) : readText j = .ok s := by
  rw [h, readText]

theorem readFlag_of_spells (b : Bool) (j : Json) (h : FlagSpells b j) : readFlag j = .ok b := by
  rw [h, readFlag]

theorem readTexts_of_spells (ss : List String) (j : Json) (h : ListSpells TextSpells ss j) :
    readList readText j = .ok ss :=
  readList_of_spells readText_of_spells h

theorem textSpells_str (s : String) : TextSpells s (.str s) := rfl

theorem listSpells_writeTexts (ss : List String) : ListSpells TextSpells ss (writeTexts ss) :=
  listSpells_map textSpells_str ss

/-! ## Uses of types -/

mutual

def TypeRefSpells : TypeRef → Json → Prop
  | ⟨name, args⟩ => RecordSpells
    [.required "name" (TextSpells name),
     .defaulted "args" (args = []) fun j => ∃ items, j = .arr items ∧ TypeRefItemsSpell args items]
termination_by structural t => t

def TypeRefItemsSpell : List TypeRef → List Json → Prop
  | [], items => items = []
  | t :: ts, items =>
    ∃ j rest, items = j :: rest ∧ TypeRefSpells t j ∧ TypeRefItemsSpell ts rest
termination_by structural ts => ts

end

theorem readArgsMember_eq (ms : List (String × Json)) :
    readArgsMember ms = (NameMap.findEntry "args" ms).map readTypeRefs := by
  induction ms with
  | nil => rfl
  | cons m ms ih =>
    obtain ⟨name, j⟩ := m
    rw [readArgsMember, NameMap.findEntry]
    split
    · rfl
    · exact ih

theorem readArgsItem_eq (js : List Json) :
    readArgsItem js = (NameMap.findEntry "args" (typeRefShape.fields.zip js)).map readTypeRefs := by
  match js with
  | [] => rfl
  | [_] => rfl
  | _ :: _ :: _ => rfl

theorem readTypeRefItems_eq (js : List Json) : readTypeRefItems js = readAll readTypeRef js := by
  induction js with
  | nil => rfl
  | cons j js ih => rw [readTypeRefItems, readAll, ih]

theorem readTypeRefs_eq : readTypeRefs = readList readTypeRef := by
  funext j
  cases j with
  | arr items => exact readTypeRefItems_eq items
  | _ => rfl

/-- A use is read like any other record. -/
theorem readTypeRef_eq (j : Json) :
    readTypeRef j = (Slots.ofJson typeRefShape j).bind fun s =>
      typeRefOf s (s.field "name" readText) (s.field "args" (readList readTypeRef)) := by
  rw [← readTypeRefs_eq]
  cases j with
  | obj ms =>
    rw [readTypeRef, readArgsMember_eq, Slots.ofJson, Slots.ofMembers]
    cases Slots.firstRepeated? ((ms.map (·.1)).filter typeRefShape.fields.contains) <;> rfl
  | arr js =>
    rw [readTypeRef, readArgsItem_eq]
    rfl
  | _ => rfl

mutual

theorem readTypeRef_of_spells :
    ∀ (t : TypeRef) (j : Json), TypeRefSpells t j → readTypeRef j = .ok t
  | ⟨name, args⟩, j, h => by
    have hitems : ∀ j, (∃ items, j = .arr items ∧ TypeRefItemsSpell args items) →
        readList readTypeRef j = .ok args := by
      rintro _ ⟨items, rfl, hitems⟩
      exact readTypeRefItems_of_spells args items hitems
    obtain ⟨s, hs, hold⟩ := exists_slots_of_spells typeRefShape rfl (by decide) h
    have hname := hold.required 0 rfl (readText_of_spells name)
    have hargs := hold.defaulted 1 rfl id hitems
    simp only [readTypeRef_eq, typeRefOf, bind, Except.bind, pure, Except.pure, hs, hname, hargs,
      List.append_nil, hold.refuse rfl, hold.surplus]

theorem readTypeRefItems_of_spells : ∀ (ts : List TypeRef) (items : List Json),
    TypeRefItemsSpell ts items → readAll readTypeRef items = .ok ts
  | [], items, h => by
    obtain rfl : items = [] := h
    rfl
  | t :: ts, items, h => by
    obtain ⟨j, rest, rfl, ht, hts⟩ := h
    rw [readAll, readTypeRef_of_spells t j ht, readTypeRefItems_of_spells ts rest hts]
    rfl

end

mutual

theorem typeRefSpells_write : ∀ t : TypeRef, TypeRefSpells t (writeTypeRef t)
  | ⟨name, []⟩ => .of_members (.given rfl (.leftOut rfl .nil))
  | ⟨name, a :: as⟩ => by
    have hitems : TypeRefItemsSpell (a :: as) (writeTypeRefs (a :: as)) :=
      typeRefItemsSpell_write (a :: as)
    exact .of_members (.given rfl (.given ⟨_, rfl, hitems⟩ .nil))

theorem typeRefItemsSpell_write : ∀ ts : List TypeRef, TypeRefItemsSpell ts (writeTypeRefs ts)
  | [] => rfl
  | t :: ts => ⟨_, _, rfl, typeRefSpells_write t, typeRefItemsSpell_write ts⟩

end

theorem writeTypeRefs_eq_map (ts : List TypeRef) : writeTypeRefs ts = ts.map writeTypeRef := by
  induction ts with
  | nil => rfl
  | cons t ts ih => rw [writeTypeRefs, ih, List.map_cons]

theorem readTypeRefs_of_spells (ts : List TypeRef) (j : Json) (h : ListSpells TypeRefSpells ts j) :
    readTypeRefs j = .ok ts := by
  rw [readTypeRefs_eq]
  exact readList_of_spells readTypeRef_of_spells h

theorem listSpells_writeTypeRefs (ts : List TypeRef) :
    ListSpells TypeRefSpells ts (.arr (writeTypeRefs ts)) := by
  rw [writeTypeRefs_eq_map]
  exact listSpells_map typeRefSpells_write ts

/-! ## Declarations -/

def TypeDeclSpells (d : TypeDecl) : Json → Prop :=
  RecordSpells
    [.required "name" (TextSpells d.name),
     .defaulted "type_parameters" (d.typeParameters = []) (ListSpells TextSpells d.typeParameters),
     .defaulted "supertypes" (d.supertypes = []) (ListSpells TypeRefSpells d.supertypes)]

theorem readTypeDecl_of_spells (d : TypeDecl) (j : Json) (h : TypeDeclSpells d j) :
    readTypeDecl j = .ok d := by
  obtain ⟨s, hs, hold⟩ := exists_slots_of_spells typeDeclShape rfl (by decide) h
  have hname := hold.required 0 rfl (readText_of_spells d.name)
  have hparams := hold.defaulted 1 rfl id (readTexts_of_spells d.typeParameters)
  have hsupertypes := hold.defaulted 2 rfl id (readTypeRefs_of_spells d.supertypes)
  simp only [readTypeDecl, bind, Except.bind, pure, Except.pure, hs, hname, hparams, hsupertypes,
    List.append_nil, hold.refuse rfl, hold.surplus]

theorem typeDeclSpells_write (d : TypeDecl) : TypeDeclSpells d (writeTypeDecl d) :=
  .of_members <| .given rfl <| .given (listSpells_writeTexts _) <|
    .given (listSpells_writeTypeRefs _) .nil

/-! ## Markers -/

mutual

/-- The value of an attribute is read as it was written: it has one spelling only. -/
theorem readMarkerValue_write : ∀ v : MarkerValue, readMarkerValue (writeMarkerValue v) = .ok v
  | .bool b => rfl
  | .int i => by
    have hlow := i.le_toInt
    have hhigh := i.toInt_lt
    have hword : -0x8000000000000000 ≤ i.toInt ∧ i.toInt < 0x8000000000000000 := by omega
    rw [writeMarkerValue, readMarkerValue, if_pos hword, Int64.ofInt_toInt]
  | .list vs => by
    rw [writeMarkerValue, readMarkerValue, readMarkerValues_write vs]
    rfl
  | .text s => rfl

theorem readMarkerValues_write :
    ∀ vs : List MarkerValue, readMarkerValues (writeMarkerValues vs) = .ok vs
  | [] => rfl
  | v :: vs => by
    rw [writeMarkerValues, readMarkerValues, readMarkerValue_write v, readMarkerValues_write vs]
    rfl

end

/-- The document for the value of an attribute. There are no records in it. -/
def MarkerValueSpells (v : MarkerValue) (j : Json) : Prop := j = writeMarkerValue v

theorem readMarkerValue_of_spells (v : MarkerValue) (j : Json) (h : MarkerValueSpells v j) :
    readMarkerValue j = .ok v := by
  rw [h, readMarkerValue_write]

/-- The documents for attributes: an object with a member for each, in any order. -/
def AttributesSpell (m : NameMap MarkerValue) (j : Json) : Prop :=
  ∃ l : List (String × MarkerValue), l.Perm m.entries ∧
    j = .obj (l.map fun e => (e.1, writeMarkerValue e.2))

theorem readAttributeMembers_map (m : NameMap MarkerValue) (l : List (String × MarkerValue)) :
    readAttributeMembers m (l.map fun e => (e.1, writeMarkerValue e.2))
      = .ok (l.foldl (fun m e => m.insert e.1 e.2) m) := by
  induction l generalizing m with
  | nil => rfl
  | cons e l ih =>
    rw [List.map_cons, readAttributeMembers, readMarkerValue_write]
    exact ih (m.insert e.1 e.2)

theorem readAttributes_of_spells (m : NameMap MarkerValue) (j : Json) (h : AttributesSpell m j) :
    readAttributes j = .ok m := by
  obtain ⟨l, hl, rfl⟩ := h
  rw [readAttributes, readAttributeMembers_map, ← NameMap.ofList, NameMap.ofList_of_perm hl]

def MarkerSpells (m : Marker) : Json → Prop :=
  RecordSpells
    [.required "qualified_name" (TextSpells m.qualifiedName),
     .defaulted "attributes" (m.attributes = .empty) (AttributesSpell m.attributes)]

theorem readMarker_of_spells (m : Marker) (j : Json) (h : MarkerSpells m j) :
    readMarker j = .ok m := by
  obtain ⟨s, hs, hold⟩ := exists_slots_of_spells markerShape rfl (by decide) h
  have hname := hold.required 0 rfl (readText_of_spells m.qualifiedName)
  have hattributes := hold.defaulted 1 rfl id (readAttributes_of_spells m.attributes)
  simp only [readMarker, bind, Except.bind, pure, Except.pure, hs, hname, hattributes,
    List.append_nil, hold.refuse rfl, hold.surplus]

theorem markerSpells_write (m : Marker) : MarkerSpells m (writeMarker m) := by
  unfold writeMarker
  split
  · next hempty =>
    have hnone : m.attributes = .empty := NameMap.eq_empty_of_isEmpty hempty
    exact .of_members (.given rfl (.leftOut hnone .nil))
  · exact .of_members (.given rfl (.given ⟨_, .refl _, rfl⟩ .nil))

/-! ## Value types and requests -/

def AccessorSpells (a : Accessor) : Json → Prop :=
  RecordSpells
    [.required "property" (TextSpells a.property),
     .required "method" (TextSpells a.method),
     .required "return_type" (TextSpells a.returnType),
     .defaulted "markers" (a.markers = []) (ListSpells MarkerSpells a.markers)]

theorem readAccessor_of_spells (a : Accessor) (j : Json) (h : AccessorSpells a j) :
    readAccessor j = .ok a := by
  obtain ⟨s, hs, hold⟩ := exists_slots_of_spells accessorShape rfl (by decide) h
  have hproperty := hold.required 0 rfl (readText_of_spells a.property)
  have hmethod := hold.required 1 rfl (readText_of_spells a.method)
  have hreturn := hold.required 2 rfl (readText_of_spells a.returnType)
  have hmarkers := hold.defaulted 3 rfl id fun j => readList_of_spells readMarker_of_spells
  simp only [readAccessor, bind, Except.bind, pure, Except.pure, hs, hproperty, hmethod, hreturn,
    hmarkers, List.append_nil, hold.refuse rfl, hold.surplus]

theorem accessorSpells_write (a : Accessor) : AccessorSpells a (writeAccessor a) :=
  .of_members <| .given rfl <| .given rfl <| .given rfl <|
    .given (listSpells_map markerSpells_write _) .nil

def ValueTypeSpells (v : ValueType) : Json → Prop :=
  RecordSpells
    [.required "package" (TextSpells v.package),
     .required "name" (TextSpells v.name),
     .defaulted "type_parameters" (v.typeParameters = []) (ListSpells TextSpells v.typeParameters),
     .defaulted "supertypes" (v.supertypes = []) (ListSpells TypeRefSpells v.supertypes),
     .defaulted "properties" (v.properties = []) (ListSpells AccessorSpells v.properties)]

theorem readValueType_of_spells (v : ValueType) (j : Json) (h : ValueTypeSpells v j) :
    readValueType j = .ok v := by
  obtain ⟨s, hs, hold⟩ := exists_slots_of_spells valueTypeShape rfl (by decide) h
  have hpackage := hold.required 0 rfl (readText_of_spells v.package)
  have hname := hold.required 1 rfl (readText_of_spells v.name)
  have hparams := hold.defaulted 2 rfl id (readTexts_of_spells v.typeParameters)
  have hsupertypes := hold.defaulted 3 rfl id (readTypeRefs_of_spells v.supertypes)
  have hproperties := hold.defaulted 4 rfl id fun j => readList_of_spells readAccessor_of_spells
  simp only [readValueType, bind, Except.bind, pure, Except.pure, hs, hpackage, hname, hparams,
    hsupertypes, hproperties, List.append_nil, hold.refuse rfl, hold.surplus]

theorem valueTypeSpells_write (v : ValueType) : ValueTypeSpells v (writeValueType v) :=
  .of_members <| .given rfl <| .given rfl <| .given (listSpells_writeTexts _) <|
    .given (listSpells_writeTypeRefs _) <| .given (listSpells_map accessorSpells_write _) .nil

def RequestSpells (r : GenerationRequest) : Json → Prop :=
  RecordSpells
    [.required "value_type" (ValueTypeSpells r.valueType),
     .required "package_name" (TextSpells r.packageName),
     .required "class_name" (TextSpells r.className),
     .required "class_to_extend" (TextSpells r.classToExtend),
     .required "is_final" (FlagSpells r.isFinal)]

theorem readRequest_of_spells (r : GenerationRequest) (j : Json) (h : RequestSpells r j) :
    readRequest j = .ok r := by
  obtain ⟨s, hs, hold⟩ := exists_slots_of_spells requestShape rfl (by decide) h
  have hvalueType := hold.required 0 rfl (readValueType_of_spells r.valueType)
  have hpackage := hold.required 1 rfl (readText_of_spells r.packageName)
  have hclass := hold.required 2 rfl (readText_of_spells r.className)
  have hsuperclass := hold.required 3 rfl (readText_of_spells r.classToExtend)
  have hfinal := hold.required 4 rfl (readFlag_of_spells r.isFinal)
  simp only [readRequest, bind, Except.bind, pure, Except.pure, hs, hvalueType, hpackage, hclass,
    hsuperclass, hfinal, List.append_nil, hold.refuse rfl, hold.surplus]

theorem requestSpells_write (r : GenerationRequest) : RequestSpells r (writeRequest r) :=
  .of_members <| .given (valueTypeSpells_write _) <| .given rfl <| .given rfl <| .given rfl <|
    .given rfl .nil

/-! ## Members -/

/-- The documents for the kind of a member: its name, or an object with nothing behind the name. -/
def MethodKindSpells (k : MethodKind) (j : Json) : Prop :=
  j = .str k.name ∨ j = .obj [(k.name, .null)]

theorem readKindName_name (k : MethodKind) : readKindName k.name = .ok k := by
  cases k <;> rfl

theorem readMethodKind_of_spells (k : MethodKind) (j : Json) (h : MethodKindSpells k j) :
    readMethodKind j = .ok k := by
  rcases h with rfl | rfl
  · exact readKindName_name k
  · rw [readMethodKind, readKindName_name]
    rfl

def MethodSpells (m : MethodSig) : Json → Prop :=
  RecordSpells
    [.required "name" (TextSpells m.name),
     .required "params" (ListSpells TextSpells m.params),
     .required "return_type" (TextSpells m.returnType),
     .required "kind" (MethodKindSpells m.kind)]

theorem readMethodSig_of_spells (m : MethodSig) (j : Json) (h : MethodSpells m j) :
    readMethodSig j = .ok m := by
  obtain ⟨s, hs, hold⟩ := exists_slots_of_spells methodShape rfl (by decide) h
  have hname := hold.required 0 rfl (readText_of_spells m.name)
  have hparams := hold.required 1 rfl (readTexts_of_spells m.params)
  have hreturn := hold.required 2 rfl (readText_of_spells m.returnType)
  have hkind := hold.required 3 rfl (readMethodKind_of_spells m.kind)
  simp only [readMethodSig, bind, Except.bind, pure, Except.pure, hs, hname, hparams, hreturn,
    hkind, List.append_nil, hold.refuse rfl, hold.surplus]

theorem methodSpells_write (m : MethodSig) : MethodSpells m (writeMethodSig m) :=
  .of_members <| .given rfl <| .given (listSpells_writeTexts _) <| .given rfl <|
    .given (.inl rfl) .nil

/-! ## All of them -/

/-- Whatever spells a value is read as that value, and what is written for it is one of its
spellings, so that reading what is written gives the value back. -/
structure RoundTrip {α : Type} (read : Json → Except Fault α) (write : α → Json)
    (spells : α → Json → Prop) : Prop where
  read_write : ∀ x, read (write x) = .ok x
  spells_write : ∀ x, spells x (write x)
  read_of_spells : ∀ x j, spells x j → read j = .ok x

theorem RoundTrip.of_spells {α : Type} {read : Json → Except Fault α} {write : α → Json}
    {spells : α → Json → Prop} (hwrite : ∀ x, spells x (write x))
    (hread : ∀ x j, spells x j → read j = .ok x) : RoundTrip read write spells where
  read_write := fun x => hread x _ (hwrite x)
  spells_write := hwrite
  read_of_spells := hread

def memberNames : Json → List String
  | .obj ms => ms.map (·.1)
  | _ => []

theorem memberNames_writeTypeRef (t : TypeRef) :
    memberNames (writeTypeRef t) = if t.isRaw then ["name"] else typeRefShape.fields := by
  obtain ⟨name, args⟩ := t
  cases args <;> rfl

theorem memberNames_writeMarker (m : Marker) : memberNames (writeMarker m)
    = if m.attributes.isEmpty then ["qualified_name"] else markerShape.fields := by
  unfold writeMarker
  split <;> rfl

/-- **Values of the model survive JSON, in every spelling.** For each type of the model, what is
written for a value spells it, and every document that spells a value is read as that value, be its
records objects or arrays, with other members among those of the fields or without, and with empty
fields left out or not. What is written leaves out the arguments of a use and the attributes of a
marker where there are none, and no other field. -/
theorem model_values_survive :
    (RoundTrip readTypeRef writeTypeRef TypeRefSpells ∧
      RoundTrip readTypeDecl writeTypeDecl TypeDeclSpells ∧
      RoundTrip readValueType writeValueType ValueTypeSpells ∧
      RoundTrip readAccessor writeAccessor AccessorSpells ∧
      RoundTrip readMarker writeMarker MarkerSpells ∧
      RoundTrip readMarkerValue writeMarkerValue MarkerValueSpells ∧
      RoundTrip readMethodSig writeMethodSig MethodSpells ∧
      RoundTrip readMethodKind writeMethodKind MethodKindSpells ∧
      RoundTrip readRequest writeRequest RequestSpells) ∧
    ((∀ t, memberNames (writeTypeRef t) = if t.isRaw then ["name"] else typeRefShape.fields) ∧
      (∀ d, memberNames (writeTypeDecl d) = typeDeclShape.fields) ∧
      (∀ v, memberNames (writeValueType v) = valueTypeShape.fields) ∧
      (∀ a, memberNames (writeAccessor a) = accessorShape.fields) ∧
      (∀ m, memberNames (writeMarker m)
        = if m.attributes.isEmpty then ["qualified_name"] else markerShape.fields) ∧
      (∀ m, memberNames (writeMethodSig m) = methodShape.fields) ∧
      (∀ r, memberNames (writeRequest r) = requestShape.fields)) := by
  refine ⟨⟨?_, ?_, ?_, ?_, ?_, ?_, ?_, ?_, ?_⟩, memberNames_writeTypeRef, fun _ => rfl,
    fun _ => rfl, fun _ => rfl, memberNames_writeMarker, fun _ => rfl, fun _ => rfl⟩
  · exact .of_spells typeRefSpells_write readTypeRef_of_spells
  · exact .of_spells typeDeclSpells_write readTypeDecl_of_spells
  · exact .of_spells valueTypeSpells_write readValueType_of_spells
  · exact .of_spells accessorSpells_write readAccessor_of_spells
  · exact .of_spells markerSpells_write readMarker_of_spells
  · exact .of_spells (fun _ => rfl) readMarkerValue_of_spells
  · exact .of_spells methodSpells_write readMethodSig_of_spells
  · exact .of_spells (fun _ => .inl rfl) readMethodKind_of_spells
  · exact .of_spells requestSpells_write readRequest_of_spells

/-! ## A document of another make -/

/-- A use of a type with two arguments. -/
def boxUse : TypeRef := ⟨"Box", [.plain "T", .plain "U"]⟩

/-- An object for it with the arguments in front, one of them an array and the other one an object
with a member that is no field. -/
def boxDocument : Json := .obj
  [("args", .arr [.arr [.str "T"], .obj [("name", .str "U"), ("line", .int 3)]]),
   ("name", .str "Box")]

/-- A request for a class of a value type with one supertype and one marked property. -/
def letterRequest : GenerationRequest :=
  ⟨⟨"com.example", "Letter", [], [boxUse], [⟨"title", "getTitle", "T", [.new "Nullable"]⟩]⟩,
    "com.example", "AutoLetter", "SuperLetter", true⟩

/-- The members of the value type in it. The type parameters are left out, as there are none; the
property and its marker are arrays. -/
def letterFields : List (String × Json) :=
  [("package", .str "com.example"),
   ("name", .str "Letter"),
   ("supertypes", .arr [boxDocument]),
   ("properties",
     .arr [.arr [.str "title", .str "getTitle", .str "T", .arr [.arr [.str "Nullable"]]]])]

/-- A member that is no field. -/
def letterComment : String × Json := ("comment", .null)

/-- An array for the request. The value type is an object in it, with its members from the last to
the first and the comment before them. -/
def letterDocument : Json :=
  .arr [.obj (letterFields ++ [letterComment]).reverse, .str "com.example", .str "AutoLetter",
    .str "SuperLetter", .bool true]

theorem typeRefSpells_box : TypeRefSpells boxUse boxDocument := by
  have harray : TypeRefSpells (.plain "T") (.arr [.str "T"]) :=
    .array (.given rfl (.leftOut (List.forall_mem_singleton.2 rfl)))
  have hobject : TypeRefSpells (.plain "U") (.obj [("name", .str "U"), ("line", .int 3)]) := by
    have hms : [("name", Json.str "U"), ("line", .int 3)].Perm
        ([("name", .str "U")] ++ [("line", .int 3)]) := .refl _
    exact .object hms (.given rfl (.leftOut rfl .nil)) (by decide)
  have hargs : TypeRefItemsSpell [.plain "T", .plain "U"]
      [.arr [.str "T"], .obj [("name", .str "U"), ("line", .int 3)]] :=
    ⟨_, _, rfl, harray, _, _, rfl, hobject, rfl⟩
  have hms := List.reverse_perm [("name", Json.str "Box"),
    ("args", .arr [.arr [.str "T"], .obj [("name", .str "U"), ("line", .int 3)]])]
  rw [← List.append_nil [_, _]] at hms
  exact .object hms (.given rfl (.given ⟨_, rfl, hargs⟩ .nil)) (by simp)

theorem model_values_survive_letter :
    RequestSpells letterRequest letterDocument ∧
    readRequest letterDocument = .ok letterRequest := by
  have hmarker : MarkerSpells (.new "Nullable") (.arr [.str "Nullable"]) :=
    .array (.given rfl (.leftOut (List.forall_mem_singleton.2 rfl)))
  have hproperty : AccessorSpells ⟨"title", "getTitle", "T", [.new "Nullable"]⟩
      (.arr [.str "title", .str "getTitle", .str "T", .arr [.arr [.str "Nullable"]]]) :=
    .array <| .given rfl <| .given rfl <| .given rfl <|
      .given ⟨_, rfl, .cons hmarker .nil⟩ (.leftOut (by simp))
  have hfields : ValueTypeSpells letterRequest.valueType
      (.obj (letterFields ++ [letterComment]).reverse) := by
    refine .object (List.reverse_perm _) ?_ (by decide)
    exact .given rfl <| .given rfl <| .leftOut rfl <|
      .given ⟨_, rfl, .cons typeRefSpells_box .nil⟩ <| .given ⟨_, rfl, .cons hproperty .nil⟩ .nil
  have hspells : RequestSpells letterRequest letterDocument :=
    .array <| .given hfields <| .given rfl <| .given rfl <| .given rfl <| .given rfl <|
      .leftOut (by simp)
  obtain ⟨⟨-, -, -, -, -, -, -, -, hrequest⟩, -⟩ := model_values_survive
  exact ⟨hspells, hrequest.read_of_spells _ _ hspells⟩

end MapBacked.Exchange
