import Mathlib.Data.List.Basic
import MapBacked.Proofs.Property.Roles

/-!
# Which marker decides

The rules of precedence, said without a scan. Of the nullability markers the last one is written in
front of the parameter. Of the map-key markers the last one decides the key, be it blank or not and
wherever it stands, and sends the property back to its own name if it has no text. Only where there
is no map-key marker do the key-bearing markers count, and of these the last one that has a text.

What the scan gathers role by role (`MarkerScan.gatheredFrom`) comes to the same. The two differ in
when blank keys are dropped: at the end of the scan for both kinds of keys, but here for a key-bearing
marker before the last one is picked. That makes no difference since a key-bearing marker without a
usable key names none, and a trimmed text is blank only when it is empty.
-/

namespace MapBacked

namespace MarkerTable

variable {table : MarkerTable} {m : Marker} {ms : List Marker}

/-- The last marker with the rule. -/
def last? (table : MarkerTable) (rule : MarkerRule) (ms : List Marker) : Option Marker :=
  (ms.filter fun m => table.rule? m.simpleName = some rule).getLast?

/-- The text of the attribute that a key-bearing marker keeps its key in, if there is more to it than
blanks. -/
def usableKey? (table : MarkerTable) (m : Marker) : Option String :=
  match table.rule? m.simpleName with
  | some (.key attr) => (MarkerRule.trimmedValue? m attr).filter (!·.isEmpty)
  | _ => none

/-- The text that decides the key: that of the last map-key marker, which may have none, and without
such a marker that of the last key-bearing one that has a text. -/
def decidingText? (table : MarkerTable) (ms : List Marker) : Option String :=
  match table.last? .mapKey ms with
  | some m => MarkerRule.trimmedValue? m .value
  | none => (ms.filterMap table.usableKey?).getLast?

/-! ## The three roles -/

theorem withRole_isNullable (table : MarkerTable) (ms : List Marker) :
    table.withRole MarkerRule.isNullable ms
      = ms.filter fun m => table.rule? m.simpleName = some .nullable := by
  refine List.filter_congr fun m _ => ?_
  rw [ruleOf?]
  rcases table.rule? m.simpleName with _ | _ | _ | _ <;> rfl

theorem withRole_isMapKey (table : MarkerTable) (ms : List Marker) :
    table.withRole MarkerRule.isMapKey ms
      = ms.filter fun m => table.rule? m.simpleName = some .mapKey := by
  refine List.filter_congr fun m _ => ?_
  rw [ruleOf?]
  rcases table.rule? m.simpleName with _ | _ | _ | _ <;> rfl

theorem getLast?_nullables (table : MarkerTable) (ms : List Marker) :
    (table.nullables ms).getLast? = (table.last? .nullable ms).map fun m => m.usage ++ " " := by
  rw [nullables, withRole_isNullable, List.getLast?_map, last?]

/-- A map-key marker names a key under all circumstances, and an empty one without its attribute. -/
theorem getLast?_mapKeys (table : MarkerTable) (ms : List Marker) :
    (table.keys MarkerRule.isMapKey ms).getLast?
      = (table.last? .mapKey ms).map fun m => (MarkerRule.trimmedValue? m .value).getD "" := by
  have hkeys : table.keys MarkerRule.isMapKey ms
      = (ms.filter fun m => table.rule? m.simpleName = some .mapKey).map
          fun m => (MarkerRule.trimmedValue? m .value).getD "" := by
    rw [keys, withRole_isMapKey, ← List.filterMap_eq_map]
    refine List.filterMap_congr fun m hm => ?_
    have hrule := of_decide_eq_true (List.mem_filter.1 hm).2
    rw [keyOf?, ruleOf?, hrule]
    rfl
  rw [hkeys, List.getLast?_map, last?]

theorem keys_isKey (table : MarkerTable) (ms : List Marker) :
    table.keys MarkerRule.isKey ms = ms.filterMap table.usableKey? := by
  rw [keys, withRole, List.filterMap_filter]
  refine List.filterMap_congr fun m _ => ?_
  rw [keyOf?, ruleOf?, usableKey?]
  rcases table.rule? m.simpleName with _ | _ | attr | _
  · rfl
  · rfl
  · simp [MarkerRule.isKey, MarkerRule.keyOverride]
  · rfl

/-! ## The text that decides -/

theorem exists_trimmed_of_trimmedValue? {attr : KeyAttribute} {k : String}
    (h : MarkerRule.trimmedValue? m attr = some k) : ∃ s, k = Text.trimmed s := by
  obtain ⟨v, _, rfl⟩ := Option.map_eq_some_iff.1 h
  exact ⟨v.shown, rfl⟩

/-- Whatever decides, it is a text without blanks around it. -/
theorem exists_trimmed_of_decidingText? {k : String} (h : table.decidingText? ms = some k) :
    ∃ s, k = Text.trimmed s := by
  unfold decidingText? at h
  split at h
  · exact exists_trimmed_of_trimmedValue? h
  · obtain ⟨m, _, hm⟩ := List.mem_filterMap.1 (List.mem_of_getLast? h)
    unfold usableKey? at hm
    split at hm
    · obtain ⟨hvalue, -⟩ := Option.filter_eq_some_iff.1 hm
      exact exists_trimmed_of_trimmedValue? hvalue
    · cases hm

end MarkerTable

open MarkerTable

variable {table : MarkerTable} {ms : List Marker}

theorem filter_not_isBlank {o : Option String} (h : ∀ k ∈ o, ∃ s, k = Text.trimmed s) :
    (o.filter fun k => !Text.isBlank k) = o.filter (!·.isEmpty) := by
  cases o with
  | none => rfl
  | some k =>
    obtain ⟨s, rfl⟩ := h k rfl
    rw [Option.filter_some, Option.filter_some, Text.isBlank_trimmed]

/-- What the scan gathers makes the key that the rules of precedence make it. -/
theorem key_gatheredFrom (table : MarkerTable) (name : String) (ms : List Marker) :
    (MarkerScan.start.gatheredFrom table ms).key name
      = ((table.decidingText? ms).filter (!·.isEmpty)).getD name := by
  have htrimmed : ∀ k ∈ table.decidingText? ms, ∃ s, k = Text.trimmed s :=
    fun k hk => exists_trimmed_of_decidingText? hk
  unfold MarkerScan.key MarkerScan.gatheredFrom MarkerScan.gathered MarkerScan.start
  rw [getLast?_mapKeys, keys_isKey, Option.or_none, Option.or_none]
  rw [← filter_not_isBlank htrimmed, decidingText?]
  cases table.last? .mapKey ms with
  | none => rfl
  | some m =>
    -- without its attribute the map-key marker leaves an empty key, which is dropped as a blank
    cases hvalue : MarkerRule.trimmedValue? m .value with
    | none =>
      simp only [Option.map_some, hvalue]
      rfl
    | some k => simp only [Option.map_some, hvalue, Option.some_or, Option.getD_some]

theorem nullable_gatheredFrom (table : MarkerTable) (ms : List Marker) :
    (MarkerScan.start.gatheredFrom table ms).nullable
      = ((table.last? .nullable ms).map fun m => "@" ++ m.qualifiedName ++ " ").getD "" := by
  unfold MarkerScan.gatheredFrom MarkerScan.gathered MarkerScan.start
  rw [getLast?_nullables]
  rfl

/-! ## Properties -/

theorem key_resolveProperty (table : MarkerTable) (name : String) (a : Accessor) :
    (resolveProperty table name a).value.key
      = ((table.decidingText? a.markers).filter (!·.isEmpty)).getD name := by
  rw [value_resolveProperty]
  exact key_gatheredFrom table name a.markers

theorem nullable_resolveProperty (table : MarkerTable) (name : String) (a : Accessor) :
    (resolveProperty table name a).value.nullable
      = ((table.last? .nullable a.markers).map fun m => "@" ++ m.qualifiedName ++ " ").getD "" := by
  rw [value_resolveProperty]
  exact nullable_gatheredFrom table a.markers

theorem isNullable_resolveProperty (table : MarkerTable) (name : String) (a : Accessor) :
    (resolveProperty table name a).value.isNullable = true
      ↔ ∃ m ∈ a.markers, table.rule? m.simpleName = some .nullable := by
  rw [PropertySpec.isNullable, nullable_resolveProperty, last?]
  cases hlast : (a.markers.filter fun m => table.rule? m.simpleName = some .nullable).getLast? with
  | none =>
    have hnone := List.filter_eq_nil_iff.1 (List.getLast?_eq_none_iff.1 hlast)
    simpa using hnone
  | some m =>
    obtain ⟨hmem, hrule⟩ := List.mem_filter.1 (List.mem_of_getLast? hlast)
    constructor
    · intro _
      exact ⟨m, hmem, of_decide_eq_true hrule⟩
    · intro _
      simp

/-- The key is the property's name, or a text from which nothing can be trimmed. -/
theorem key_eq_name_or (table : MarkerTable) (name : String) (a : Accessor) :
    (resolveProperty table name a).value.key = name ∨
      ∃ s, (resolveProperty table name a).value.key = Text.trimmed s ∧
        (Text.trimmed s).isEmpty = false := by
  rw [key_resolveProperty]
  cases hkey : (table.decidingText? a.markers).filter (!·.isEmpty) with
  | none => exact .inl rfl
  | some k =>
    obtain ⟨htext, hne⟩ := Option.filter_eq_some_iff.1 hkey
    obtain ⟨s, rfl⟩ := exists_trimmed_of_decidingText? htext
    exact .inr ⟨s, rfl, by simpa using hne⟩

/-- **A property follows from the rules of precedence.** It has the accessor's name, return type and
invocation. In front of its parameter stands the last nullability marker, so it is nullable exactly
if there is one. Its key is the text that decides, and its name where there is none or the text is
empty; so it is the name, or it starts and ends with a non-blank. -/
theorem resolveProperty_precedence (table : MarkerTable) (name : String) (a : Accessor) :
    (resolveProperty table name a).value
      = { key := ((table.decidingText? a.markers).filter (!·.isEmpty)).getD name
          name := name
          type := a.returnType
          value := a.method ++ "()"
          nullable := ((table.last? .nullable a.markers).map fun m =>
            "@" ++ m.qualifiedName ++ " ").getD "" } ∧
    ((resolveProperty table name a).value.isNullable = true
      ↔ ∃ m ∈ a.markers, table.rule? m.simpleName = some .nullable) ∧
    ((resolveProperty table name a).value.key = name ∨
      (resolveProperty table name a).value.key.isEmpty = false ∧
      (∀ c ∈ (resolveProperty table name a).value.key.toList.head?, Text.isSpace c = false) ∧
      ∀ c ∈ (resolveProperty table name a).value.key.toList.getLast?, Text.isSpace c = false) := by
  refine ⟨?spec, isNullable_resolveProperty table name a, ?key⟩
  case spec => rw [← key_resolveProperty, ← nullable_resolveProperty]; rfl
  case key =>
    rcases key_eq_name_or table name a with hname | ⟨s, hkey, hne⟩
    · exact .inl hname
    · right
      rw [hkey]
      refine ⟨hne, ?front, ?back⟩
      case front =>
        intro c hc
        rw [Text.trimmed, String.toList_ofList] at hc
        exact Text.isSpace_of_mem_head?_trim hc
      case back =>
        intro c hc
        rw [Text.trimmed, String.toList_ofList] at hc
        exact Text.isSpace_of_mem_getLast?_trim hc

/-! ## Blank keys -/

/-- The last map-key marker has no text, and still takes precedence over all other keys. -/
def unkeyed : Accessor :=
  ⟨"id", "getId", "int", [marked "Query" "y", marked "MapKey" "z", .new "a.Nullable",
    .new "b.MapKey", marked "Field" "x", .new "b.Nullable"]⟩

/-- The last two key-bearing markers have none, and the one before them counts. -/
def keyedOnce : Accessor :=
  ⟨"id", "id", "int", [marked "Field" " k ", marked "Query" "\t ", .new "Json"]⟩

theorem resolveProperty_precedence_blank :
    (resolveProperty .builtin "id" unkeyed).value = ⟨"id", "id", "int", "getId()", "@b.Nullable "⟩ ∧
    (resolveProperty .builtin "id" keyedOnce).value.key = "k" ∧ Text.isSpace 'k' = false := by
  obtain ⟨hunkeyed, -, -⟩ := resolveProperty_precedence .builtin "id" unkeyed
  obtain ⟨hkeyed, -, hends⟩ := resolveProperty_precedence .builtin "id" keyedOnce
  have hkey : (resolveProperty .builtin "id" keyedOnce).value.key = "k" := by
    rw [hkeyed]
    decide
  refine ⟨hunkeyed.trans (by decide), hkey, ?_⟩
  rw [hkey] at hends
  rcases hends with hname | ⟨-, hfront, -⟩
  · exact absurd hname (by decide)
  · exact hfront 'k' (by decide)

end MapBacked
