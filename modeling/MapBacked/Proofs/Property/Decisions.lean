import Mathlib.Data.List.Induction
import MapBacked.Proofs.Property.Precedence

/-!
# What is told about a key

The scan tells of a key when it is replaced, and of a key-bearing marker when its key is not usable.
What it tells depends on the key that is staged at that point. Here the same is said of the markers
themselves: what is told of a key-bearing marker follows from the ones before it (`KeyBearer.told`),
since the staged key is the last usable one among these (`staged_scan`). No other marker comes in.

Read by kind the events are two lists. Those about unusable keys are one for each key-bearing marker
without a usable key (`KeyBearer.filter_unusable`). Those about replaced keys go from one usable key
to the next (`KeyBearer.filter_replaced`), so that they form a chain, and where no map-key marker
takes precedence its end is the key of the property.
-/

namespace MapBacked

/-! ## Key-bearing markers -/

/-- A key-bearing marker, the attribute that it keeps its key in, and the key if it is usable. -/
structure KeyBearer where
  marker : Marker
  attr : KeyAttribute
  key : Option String

/-- The key-bearing markers, in order. -/
def MarkerTable.keyBearers (table : MarkerTable) (ms : List Marker) : List KeyBearer :=
  ms.filterMap fun m =>
    match table.ruleOf? m with
    | some (.key attr) => some ⟨m, attr, (MarkerRule.key attr).keyOverride m⟩
    | _ => none

namespace MarkerTable

variable {table : MarkerTable} {m : Marker}

theorem keyBearers_of_ne (h : ∀ attr, table.ruleOf? m ≠ some (.key attr)) :
    table.keyBearers [m] = [] := by
  rw [keyBearers, List.filterMap_cons_none]
  · rfl
  · split
    · next attr hrule => exact absurd hrule (h attr)
    · rfl

theorem keyBearers_of_key {attr : KeyAttribute} (h : table.ruleOf? m = some (.key attr)) :
    table.keyBearers [m] = [⟨m, attr, (MarkerRule.key attr).keyOverride m⟩] := by
  rw [keyBearers, List.filterMap_cons_some]
  · rfl
  · rw [h]

theorem keyBearers_withRole (table : MarkerTable) (ms : List Marker) :
    table.keyBearers (table.withRole MarkerRule.isKey ms) = table.keyBearers ms := by
  rw [keyBearers, withRole, List.filterMap_filter, keyBearers]
  apply List.filterMap_congr
  intro m _
  rcases table.ruleOf? m with _ | _ | _ | _ <;> rfl

end MarkerTable

namespace KeyBearer

/-- The usable keys, each behind the name of the marker that it is from. -/
def usable (bs : List KeyBearer) : List (String × String) :=
  bs.filterMap fun b => b.key.map (b.marker.qualifiedName, ·)

/-- What is told of a key-bearing marker that comes behind others: that its key is not usable, or
which key it replaces. Of the first usable key nothing is told. -/
def told (property : String) (before : List KeyBearer) (b : KeyBearer) : List Event :=
  match b.key, (usable before).getLast? with
  | none, _ => [.keyUnusable property b.marker.qualifiedName (.key b.attr)]
  | some _, none => []
  | some key, some previous => [.keyReplaced property b.marker.qualifiedName previous.2 key]

/-- What is told of key-bearing markers, of each with the ones before it. -/
def allTold (property : String) (bs : List KeyBearer) : List Event :=
  bs.zipIdx.flatMap fun e => e.1.told property (bs.take e.2)

variable {property : String} {bs : List KeyBearer} {b : KeyBearer} {e : Event}

theorem usable_append (bs cs : List KeyBearer) : usable (bs ++ cs) = usable bs ++ usable cs :=
  List.filterMap_append

theorem usable_of_none (h : b.key = none) : usable [b] = [] := by
  rw [usable, List.filterMap_cons_none]
  · rfl
  · rw [h]
    rfl

theorem usable_of_some {key : String} (h : b.key = some key) :
    usable [b] = [(b.marker.qualifiedName, key)] := by
  rw [usable, List.filterMap_cons_some]
  · rfl
  · rw [h]
    rfl

theorem allTold_concat (property : String) (bs : List KeyBearer) (b : KeyBearer) :
    allTold property (bs ++ [b]) = allTold property bs ++ b.told property bs := by
  unfold allTold
  rw [List.zipIdx_append, List.flatMap_append]
  congr 1
  · apply List.flatMap_congr
    intro e he
    obtain ⟨-, hlt, -⟩ := List.mem_zipIdx he
    rw [List.take_append_of_le_length (by omega)]
  · simp

theorem cases_of_mem_allTold (he : e ∈ allTold property bs) :
    (∃ marker rule, e = .keyUnusable property marker rule) ∨
      ∃ marker previous key, e = .keyReplaced property marker previous key := by
  obtain ⟨⟨b, i⟩, _, he⟩ := List.mem_flatMap.1 he
  unfold told at he
  split at he
  · exact .inl ⟨_, _, List.mem_singleton.1 he⟩
  · cases he
  · exact .inr ⟨_, _, _, List.mem_singleton.1 he⟩

/-! ## The events by kind -/

theorem filter_unusable (property : String) (bs : List KeyBearer) :
    (allTold property bs).filter (·.message = "marker carries no usable key")
      = (bs.filter (·.key.isNone)).map fun b =>
          .keyUnusable property b.marker.qualifiedName (.key b.attr) := by
  induction bs using List.reverseRecOn with
  | nil => rfl
  | append_singleton bs b ih =>
    rw [allTold_concat, List.filter_append, ih, List.filter_append, List.map_append]
    congr 1
    cases hkey : b.key with
    | none => simp [told, hkey, Event.message]
    | some key =>
      cases hlast : (usable bs).getLast? with
      | none => simp [told, hkey, hlast]
      | some previous => simp [told, hkey, hlast, Event.message]

/-- One more element at the end makes one more pair of neighbours. -/
theorem zip_tail_concat {α : Type} (l : List α) (x : α) :
    (l ++ [x]).zip (l ++ [x]).tail = l.zip l.tail ++ (l.getLast?.map (·, x)).toList := by
  induction l with
  | nil => rfl
  | cons y l ih =>
    cases l with
    | nil => rfl
    | cons z l => exact congrArg ((y, z) :: ·) ih

theorem filter_replaced (property : String) (bs : List KeyBearer) :
    (allTold property bs).filter (·.message = "key override replaced")
      = ((usable bs).zip (usable bs).tail).map fun o =>
          .keyReplaced property o.2.1 o.1.2 o.2.2 := by
  induction bs using List.reverseRecOn with
  | nil => rfl
  | append_singleton bs b ih =>
    rw [allTold_concat, List.filter_append, ih, usable_append]
    cases hkey : b.key with
    | none =>
      rw [usable_of_none hkey, List.append_nil]
      simp [told, hkey, Event.message]
    | some key =>
      rw [usable_of_some hkey, zip_tail_concat, List.map_append]
      congr 1
      cases hlast : (usable bs).getLast? with
      | none => simp [told, hkey, hlast]
      | some previous => simp [told, hkey, hlast, Event.message]

/-- From two keys on the last pair of neighbours ends in the last key. -/
theorem exists_getLast?_zip_tail {α : Type} {l : List α} (h : 2 ≤ l.length) :
    ∃ x y, l.getLast? = some y ∧ (l.zip l.tail).getLast? = some (x, y) := by
  rcases List.eq_nil_or_concat' l with rfl | ⟨l, y, rfl⟩
  · simp at h
  · cases hlast : l.getLast? with
    | none =>
      rw [List.getLast?_eq_none_iff] at hlast
      subst hlast
      simp at h
    | some x =>
      refine ⟨x, y, List.getLast?_concat, ?_⟩
      rw [zip_tail_concat, hlast]
      exact List.getLast?_concat

end KeyBearer

open KeyBearer

/-! ## What the scan tells -/

variable {table : MarkerTable} {property : String}

theorem usable_keyBearers (table : MarkerTable) (ms : List Marker) :
    (usable (table.keyBearers ms)).map (·.2) = ms.filterMap table.usableKey? := by
  rw [usable, MarkerTable.keyBearers, List.filterMap_filterMap, List.map_filterMap]
  apply List.filterMap_congr
  intro m _
  rw [MarkerTable.usableKey?, MarkerTable.ruleOf?]
  rcases table.rule? m.simpleName with _ | _ | attr | _
  · rfl
  · rfl
  · simp [MarkerRule.keyOverride, Function.comp_def]
  · rfl

namespace MarkerScan

theorem scan_append (s : MarkerScan) (ms ks : List Marker) :
    scan table property s (ms ++ ks)
      = (do let s' ← scan table property s ms; scan table property s' ks) := by
  induction ms generalizing s with
  | nil => rfl
  | cons m ms ih =>
    rw [List.cons_append, scan, scan]
    cases table.ruleOf? m with
    | none => exact ih s
    | some rule => simp only [ih, bind_assoc]

theorem staged_scan (table : MarkerTable) (property : String) (ms : List Marker) :
    (start.scan table property ms).value.staged
      = (usable (table.keyBearers ms)).getLast?.map (·.2) := by
  rw [value_scan, gatheredFrom, gathered, MarkerTable.keys_isKey, ← usable_keyBearers,
    List.getLast?_map]
  exact Option.or_none

/-- What is told of one more marker, where the key that is staged is the last usable one so far. -/
theorem events_scan_singleton {s : MarkerScan} {bs : List KeyBearer} (m : Marker)
    (hs : s.staged = (usable bs).getLast?.map (·.2)) :
    allTold property bs ++ (s.scan table property [m]).events
      = allTold property (bs ++ table.keyBearers [m]) := by
  rw [scan]
  cases hrule : table.ruleOf? m with
  | none =>
    rw [MarkerTable.keyBearers_of_ne (by simp [hrule]), List.append_nil]
    exact List.append_nil _
  | some rule =>
    cases rule with
    | nullable =>
      rw [MarkerTable.keyBearers_of_ne (by simp [hrule]), List.append_nil]
      exact List.append_nil _
    | mapKey =>
      rw [MarkerTable.keyBearers_of_ne (by simp [hrule]), List.append_nil]
      exact List.append_nil _
    | key attr =>
      rw [MarkerTable.keyBearers_of_key hrule, allTold_concat]
      congr 1
      show (s.take property (.key attr) m).events ++ [] = _
      rw [List.append_nil, take, told]
      cases (MarkerRule.key attr).keyOverride m with
      | none => rfl
      | some key =>
        show stagingEvents property m key s.staged = _
        rw [hs]
        cases (usable bs).getLast? with
        | none => rfl
        | some previous => rfl

/-- **The scan tells of the key-bearing markers, and of no others.** The induction takes the markers
from the back, since what is told of one depends on those before it. -/
theorem events_scan (table : MarkerTable) (property : String) (ms : List Marker) :
    (start.scan table property ms).events = allTold property (table.keyBearers ms) := by
  induction ms using List.reverseRecOn with
  | nil => rfl
  | append_singleton ms m ih =>
    have hbearers : table.keyBearers (ms ++ [m]) = table.keyBearers ms ++ table.keyBearers [m] :=
      List.filterMap_append
    rw [scan_append, Logged.events_bind, ih, hbearers]
    exact events_scan_singleton m (staged_scan table property ms)

end MarkerScan

/-! ## The account of a property -/

theorem events_resolveProperty (table : MarkerTable) (name : String) (a : Accessor) :
    (resolveProperty table name a).events
      = allTold name (table.keyBearers a.markers)
        ++ [.propertyResolved name (resolveProperty table name a).value.key
          (resolveProperty table name a).value.isNullable] := by
  rw [← MarkerScan.events_scan]
  rfl

/-- The events account for the key of a property at which these key-bearing markers stand. -/
structure PropertySpec.AccountedBy (p : PropertySpec) (bs : List KeyBearer)
    (events : List Event) : Prop where
  inOrder : events = allTold p.name bs ++ [.propertyResolved p.name p.key p.isNullable]
  unusable : events.filter (·.message = "marker carries no usable key")
    = (bs.filter (·.key.isNone)).map fun b =>
        .keyUnusable p.name b.marker.qualifiedName (.key b.attr)
  replaced : events.filter (·.message = "key override replaced")
    = ((usable bs).zip (usable bs).tail).map fun o => .keyReplaced p.name o.2.1 o.1.2 o.2.2
  resolved : events.filter (·.message = "property resolved")
    = [.propertyResolved p.name p.key p.isNullable]
  level : ∀ e ∈ events,
    e.level = if e.message = "marker carries no usable key" then .debug else .trace

theorem accountedBy_of_inOrder {p : PropertySpec} {bs : List KeyBearer} {events : List Event}
    (h : events = allTold p.name bs ++ [.propertyResolved p.name p.key p.isNullable]) :
    p.AccountedBy bs events where
  inOrder := h
  unusable := by
    rw [h, List.filter_append, filter_unusable]
    exact List.append_nil _
  replaced := by
    rw [h, List.filter_append, filter_replaced]
    exact List.append_nil _
  resolved := by
    have hnone : (allTold p.name bs).filter (·.message = "property resolved") = [] := by
      rw [List.filter_eq_nil_iff]
      intro e he
      rcases cases_of_mem_allTold he with ⟨_, _, rfl⟩ | ⟨_, _, _, rfl⟩
      · simp [Event.message]
      · simp [Event.message]
    rw [h, List.filter_append, hnone]
    rfl
  level := by
    intro e he
    rw [h] at he
    rcases List.mem_append.1 he with he | he
    · rcases cases_of_mem_allTold he with ⟨_, _, rfl⟩ | ⟨_, _, _, rfl⟩
      · rfl
      · rfl
    · rw [List.mem_singleton.1 he]
      rfl

theorem key_of_usable {a : Accessor} {o : String × String} (name : String)
    (hmap : ∀ m ∈ a.markers, table.ruleOf? m ≠ some .mapKey)
    (ho : (usable (table.keyBearers a.markers)).getLast? = some o) :
    (resolveProperty table name a).value.key = o.2 := by
  have hlast : table.last? .mapKey a.markers = none := by
    rw [MarkerTable.last?, List.getLast?_eq_none_iff, List.filter_eq_nil_iff]
    intro m hm
    simpa [MarkerTable.ruleOf?] using hmap m hm
  have hdeciding : table.decidingText? a.markers = some o.2 := by
    rw [MarkerTable.decidingText?, hlast, ← usable_keyBearers, List.getLast?_map, ho]
    rfl
  -- a usable key is not empty, and so it is not dropped in the end
  have hne : o.2.isEmpty = false := by
    have hmem : o.2 ∈ a.markers.filterMap table.usableKey? := by
      rw [← usable_keyBearers]
      exact List.mem_map_of_mem (List.mem_of_getLast? ho)
    obtain ⟨m, -, hm⟩ := List.mem_filterMap.1 hmem
    unfold MarkerTable.usableKey? at hm
    split at hm
    · simpa using (Option.filter_eq_some_iff.1 hm).2
    · cases hm
  rw [key_resolveProperty, hdeciding, Option.filter_some, hne]
  rfl

/-- **The events account for the key.** In the order of the scan they tell of every key-bearing
marker without a usable key, and of every usable key but the first, which key it replaces; and at
the end, once, what the property got. Accessors with the same key-bearing markers have the same
events up to that end. Without a map-key marker the last key that replaces another is the key of the
property. -/
theorem key_decisions_told (table : MarkerTable) (name : String) (a : Accessor) :
    (resolveProperty table name a).value.AccountedBy (table.keyBearers a.markers)
      (resolveProperty table name a).events ∧
    ((resolveProperty table name a).events.filter (·.message = "key override replaced")).length
      = (usable (table.keyBearers a.markers)).length - 1 ∧
    (∀ a' : Accessor, table.withRole MarkerRule.isKey a'.markers
        = table.withRole MarkerRule.isKey a.markers →
      (resolveProperty table name a').events.dropLast
        = (resolveProperty table name a).events.dropLast) ∧
    ((∀ m ∈ a.markers, table.ruleOf? m ≠ some .mapKey) →
      2 ≤ (usable (table.keyBearers a.markers)).length →
      ∃ marker previous,
        ((resolveProperty table name a).events.filter
          (·.message = "key override replaced")).getLast?
          = some (.keyReplaced name marker previous
              (resolveProperty table name a).value.key)) := by
  have haccount : (resolveProperty table name a).value.AccountedBy (table.keyBearers a.markers)
      (resolveProperty table name a).events :=
    accountedBy_of_inOrder (events_resolveProperty table name a)
  refine ⟨haccount, ?count, ?others, ?last⟩
  case count =>
    rw [haccount.replaced]
    simp
  case others =>
    intro a' ha
    rw [events_resolveProperty, events_resolveProperty, List.dropLast_concat, List.dropLast_concat,
      ← table.keyBearers_withRole a'.markers, ha, table.keyBearers_withRole]
  case last =>
    intro hmap hlen
    obtain ⟨o, o', ho, hzip⟩ := exists_getLast?_zip_tail hlen
    refine ⟨o'.1, o.2, ?_⟩
    rw [haccount.replaced, List.getLast?_map, hzip, key_of_usable name hmap ho]
    rfl

/-! ## A chain of keys -/

/-- Three usable keys with other markers between them, two of which bear a key that is none. -/
def chained : Accessor :=
  ⟨"id", "id", "int", [marked "a.Field" "x", .new "a.Nullable", .new "a.Json",
    marked "b.Query" " y ", marked "Other" "w", marked "Part" "\t", marked "Header" "z"]⟩

/-- An accessor with the key-bearing markers of the other one, and with no others. -/
def chainedAlone : Accessor :=
  { chained with markers := MarkerTable.builtin.withRole MarkerRule.isKey chained.markers }

theorem key_decisions_told_chained :
    (resolveProperty .builtin "id" chained).events
      = [.keyUnusable "id" "a.Json" (.key .name), .keyReplaced "id" "b.Query" "x" "y",
         .keyUnusable "id" "Part" (.key .value), .keyReplaced "id" "Header" "y" "z",
         .propertyResolved "id" "z" true] ∧
    (resolveProperty .builtin "id" chainedAlone).events.dropLast
      = (resolveProperty .builtin "id" chained).events.dropLast ∧
    ∃ marker previous,
      ((resolveProperty .builtin "id" chained).events.filter
        (·.message = "key override replaced")).getLast?
        = some (.keyReplaced "id" marker previous
            (resolveProperty .builtin "id" chained).value.key) := by
  obtain ⟨haccount, -, halone, hlast⟩ := key_decisions_told .builtin "id" chained
  refine ⟨haccount.inOrder.trans (by decide), halone chainedAlone ?_, hlast (by decide) (by decide)⟩
  simp [chainedAlone, MarkerTable.withRole]

end MapBacked
