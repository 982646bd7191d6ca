import MapBacked.Property.Resolution

/-!
# Markers by role

A table gives a marker one of three roles, or none: it makes the property nullable, it bears a key,
or it is a map-key marker. The scan takes the markers as they come, but what it has gathered in the
end falls into three parts, and each part follows from the markers of one role, in their order, and
from nothing else (`MarkerScan.value_scan`): the last text that a nullable marker leaves, the last
key that a key-bearing marker names, and the last one that a map-key marker names.

So accessors with the same markers in each role resolve to the same property, however these are
interleaved and whatever else stands between them (`Accessor.Alike.value_resolveProperty`).
-/

namespace MapBacked

/-! ## Roles -/

namespace MarkerRule

def isNullable : MarkerRule → Bool
  | .nullable => true
  | _ => false

def isKey : MarkerRule → Bool
  | .key _ => true
  | _ => false

def isMapKey : MarkerRule → Bool
  | .mapKey => true
  | _ => false

end MarkerRule

namespace MarkerTable

/-- The markers of a role, in order. -/
def withRole (table : MarkerTable) (role : MarkerRule → Bool) (ms : List Marker) : List Marker :=
  ms.filter fun m => (table.ruleOf? m).any role

/-- The key that a marker names under its rule. -/
def keyOf? (table : MarkerTable) (m : Marker) : Option String :=
  (table.ruleOf? m).bind (·.keyOverride m)

/-- What the nullable markers leave in front of the parameter. -/
def nullables (table : MarkerTable) (ms : List Marker) : List String :=
  (table.withRole MarkerRule.isNullable ms).map fun m => m.usage ++ " "

/-- The keys that the markers of a role name, without the markers that name none. -/
def keys (table : MarkerTable) (role : MarkerRule → Bool) (ms : List Marker) : List String :=
  (table.withRole role ms).filterMap table.keyOf?

theorem nullables_append (table : MarkerTable) (ms ks : List Marker) :
    table.nullables (ms ++ ks) = table.nullables ms ++ table.nullables ks := by
  unfold nullables withRole
  rw [List.filter_append, List.map_append]

theorem keys_append (table : MarkerTable) (role : MarkerRule → Bool) (ms ks : List Marker) :
    table.keys role (ms ++ ks) = table.keys role ms ++ table.keys role ks := by
  unfold keys withRole
  rw [List.filter_append, List.filterMap_append]

theorem withRole_singleton (table : MarkerTable) (role : MarkerRule → Bool) (m : Marker) :
    table.withRole role [m] = if (table.ruleOf? m).any role then [m] else [] := by
  rw [withRole, List.filter_cons, List.filter_nil]

end MarkerTable

/-! ## What the scan gathers -/

namespace MarkerScan

variable {table : MarkerTable} {s : MarkerScan} {m : Marker} {rule : MarkerRule}

/-- What is gathered when these texts follow: the last one of each kind counts, and where there is
none what was gathered before. -/
def gathered (s : MarkerScan) (nullables keys mapKeys : List String) : MarkerScan where
  nullable := nullables.getLast?.getD s.nullable
  staged := keys.getLast?.or s.staged
  mapKey := mapKeys.getLast?.or s.mapKey

theorem gathered_gathered (s : MarkerScan) (ns ns' ks ks' ms ms' : List String) :
    (s.gathered ns ks ms).gathered ns' ks' ms'
      = s.gathered (ns ++ ns') (ks ++ ks') (ms ++ ms') := by
  unfold gathered
  rw [List.getLast?_append, List.getLast?_append, List.getLast?_append, Option.or_assoc,
    Option.or_assoc, Option.getD_or]

/-- The markers of the roles, one behind the other. -/
def gatheredFrom (table : MarkerTable) (s : MarkerScan) (ms : List Marker) : MarkerScan :=
  s.gathered (table.nullables ms) (table.keys MarkerRule.isKey ms)
    (table.keys MarkerRule.isMapKey ms)

theorem gatheredFrom_cons (table : MarkerTable) (s : MarkerScan) (m : Marker) (ms : List Marker) :
    s.gatheredFrom table (m :: ms) = (s.gatheredFrom table [m]).gatheredFrom table ms := by
  unfold gatheredFrom
  rw [gathered_gathered, ← MarkerTable.nullables_append, ← MarkerTable.keys_append,
    ← MarkerTable.keys_append]
  rfl

theorem gatheredFrom_of_none (h : table.ruleOf? m = none) : s.gatheredFrom table [m] = s := by
  unfold gatheredFrom MarkerTable.nullables MarkerTable.keys
  rw [MarkerTable.withRole_singleton, MarkerTable.withRole_singleton,
    MarkerTable.withRole_singleton, h]
  rfl

/-- A marker with a rule leaves what taking it by the rule does. -/
theorem value_take (property : String) (h : table.ruleOf? m = some rule) :
    (s.take property rule m).value = s.gatheredFrom table [m] := by
  have hkey : table.keyOf? m = rule.keyOverride m := by rw [MarkerTable.keyOf?, h]; rfl
  unfold gatheredFrom MarkerTable.nullables MarkerTable.keys
  rw [MarkerTable.withRole_singleton, MarkerTable.withRole_singleton,
    MarkerTable.withRole_singleton, h]
  -- a rule has one role, so that two of the three lists are empty
  cases rule with
  | nullable => rfl
  | key attr =>
    unfold take
    show _ = s.gathered [] (List.filterMap table.keyOf? [m]) []
    cases hm : (MarkerRule.key attr).keyOverride m with
    | none => simp [hkey, hm, gathered]
    | some key => simp [hkey, hm, gathered]
  | mapKey =>
    show _ = s.gathered [] [] (List.filterMap table.keyOf? [m])
    simp [hkey, gathered, take, MarkerRule.keyOverride]

/-- **What a scan gathers follows from the markers of each role.** -/
theorem value_scan (table : MarkerTable) (property : String) (s : MarkerScan) (ms : List Marker) :
    (scan table property s ms).value = s.gatheredFrom table ms := by
  induction ms generalizing s with
  | nil => rfl
  | cons m ms ih =>
    rw [gatheredFrom_cons]
    cases h : table.ruleOf? m with
    | none =>
      rw [scan, h, gatheredFrom_of_none h]
      exact ih s
    | some rule =>
      rw [scan, h, ← value_take property h]
      exact ih _

end MarkerScan

/-! ## Accessors that come to the same -/

/-- Two accessors that declare the same property, with the same markers in each role. -/
structure Accessor.Alike (table : MarkerTable) (a a' : Accessor) : Prop where
  property : a.property = a'.property
  method : a.method = a'.method
  returnType : a.returnType = a'.returnType
  nullables : table.withRole MarkerRule.isNullable a.markers
    = table.withRole MarkerRule.isNullable a'.markers
  keys : table.withRole MarkerRule.isKey a.markers = table.withRole MarkerRule.isKey a'.markers
  mapKeys : table.withRole MarkerRule.isMapKey a.markers
    = table.withRole MarkerRule.isMapKey a'.markers

variable {table : MarkerTable} {a a' : Accessor}

theorem Accessor.Alike.gatheredFrom (h : a.Alike table a') (s : MarkerScan) :
    s.gatheredFrom table a.markers = s.gatheredFrom table a'.markers := by
  unfold MarkerScan.gatheredFrom MarkerTable.nullables MarkerTable.keys
  rw [h.nullables, h.keys, h.mapKeys]

/-- The property that an accessor resolves to, said by what its markers leave. -/
theorem value_resolveProperty (table : MarkerTable) (name : String) (a : Accessor) :
    (resolveProperty table name a).value
      = ⟨(MarkerScan.start.gatheredFrom table a.markers).key name, name, a.returnType,
          a.invocation, (MarkerScan.start.gatheredFrom table a.markers).nullable⟩ := by
  rw [← MarkerScan.value_scan table name]
  rfl

/-- **Accessors with the same markers in each role resolve to the same property.** -/
theorem Accessor.Alike.value_resolveProperty (h : a.Alike table a') :
    (resolveProperty table a.property a).value = (resolveProperty table a'.property a').value := by
  rw [MapBacked.value_resolveProperty, MapBacked.value_resolveProperty, h.gatheredFrom, h.property,
    h.returnType, invocation, h.method, invocation]

/-- A marker with a value. -/
def marked (name value : String) : Marker := (Marker.new name).withAttribute "value" (.text value)

end MapBacked
