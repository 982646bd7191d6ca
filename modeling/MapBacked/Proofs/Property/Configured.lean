import MapBacked.Proofs.NameMap
import MapBacked.Property.Resolution

/-!
# Configured markers

A configuration lists names under four roles. A name may be listed twice, under several roles, or
although it is built in, and which rule it ends up with is settled by one order: the built-in rules
first, then the roles one after another (`MarkerTable.rule?_ofConfig`). So a table can be said
without the loops that fill it, by which names are listed where (`MarkerConfig.ruleFor?`), and how
often or in which order a role lists its names is of no consequence.

A property is resolved by the rules of the markers at its accessor and by nothing else of the table
(`resolveProperty_congr`). Names that none of these markers has might as well not be there.
-/

namespace MapBacked

/-! ## Names by role -/

def MarkerTable.builtinNames : List String := builtinRules.map (·.1)

namespace MarkerConfig

/-- All names that are listed, role by role. -/
def names (c : MarkerConfig) : List String :=
  c.nullable ++ c.nameAttribute ++ c.valueAttribute ++ c.mapKey

/-- The listed names that are not built in. -/
def newNames (c : MarkerConfig) : Finset String :=
  c.names.toFinset \ MarkerTable.builtinNames.toFinset

/-- The rule of the first role that lists the name. -/
def ruleFor? (c : MarkerConfig) (n : String) : Option MarkerRule :=
  if n ∈ c.nullable then some .nullable
  else if n ∈ c.nameAttribute then some (.key .name)
  else if n ∈ c.valueAttribute then some (.key .value)
  else if n ∈ c.mapKey then some .mapKey
  else none

/-- Two configurations with the same names in each role, in whatever order and however often. -/
structure SameNames (c c' : MarkerConfig) : Prop where
  nullable : ∀ n, n ∈ c.nullable ↔ n ∈ c'.nullable
  nameAttribute : ∀ n, n ∈ c.nameAttribute ↔ n ∈ c'.nameAttribute
  valueAttribute : ∀ n, n ∈ c.valueAttribute ↔ n ∈ c'.valueAttribute
  mapKey : ∀ n, n ∈ c.mapKey ↔ n ∈ c'.mapKey

variable {c c' : MarkerConfig} {n : String}

theorem findEntry_rules (c : MarkerConfig) (n : String) :
    NameMap.findEntry n c.rules = c.ruleFor? n := by
  unfold rules ruleFor?
  rw [NameMap.findEntry_append, NameMap.findEntry_append, NameMap.findEntry_append,
    NameMap.findEntry_map_const, NameMap.findEntry_map_const, NameMap.findEntry_map_const,
    NameMap.findEntry_map_const]
  -- one split for each role, in their order
  split
  · rfl
  · split
    · rfl
    · split
      · rfl
      · rfl

theorem map_fst_rules (c : MarkerConfig) : c.rules.map (·.1) = c.names := by
  simp [rules, names, Function.comp_def]

theorem ruleFor?_eq_none_iff : c.ruleFor? n = none ↔ n ∉ c.names := by
  rw [← findEntry_rules, NameMap.findEntry_eq_none_iff, map_fst_rules]

theorem SameNames.ruleFor? (h : c.SameNames c') (n : String) : c.ruleFor? n = c'.ruleFor? n := by
  unfold MarkerConfig.ruleFor?
  simp only [h.nullable n, h.nameAttribute n, h.valueAttribute n, h.mapKey n]

end MarkerConfig

/-! ## The table -/

namespace MarkerTable

variable {n : String}

theorem rules_foldl_add (t : MarkerTable) (l : List (String × MarkerRule)) :
    (l.foldl (fun t e => t.add e.1 e.2) t).rules
      = l.foldl (fun m e => m.insertIfNew e.1 e.2) t.rules := by
  induction l generalizing t with
  | nil => rfl
  | cons e rest ih => exact ih (t.add e.1 e.2)

/-- **The first role counts**, behind the built-in rules. -/
theorem rule?_ofConfig (c : MarkerConfig) (n : String) :
    (ofConfig c).rule? n = (builtin.rule? n).or (c.ruleFor? n) := by
  rw [rule?, ofConfig, rules_foldl_add, NameMap.get?_foldl_insertIfNew,
    MarkerConfig.findEntry_rules, rule?]

theorem rule?_builtin_of_mem : ∀ e ∈ builtinRules, builtin.rule? e.1 = some e.2 := by
  decide

theorem rule?_builtin_eq_none_iff : builtin.rule? n = none ↔ n ∉ builtinNames := by
  have h : n ∈ builtin.rules.names ↔ n ∈ builtinNames := NameMap.mem_names_ofList
  rw [← h, NameMap.mem_names_iff, not_not]
  rfl

theorem rule?_ofConfig_of_builtin (c : MarkerConfig) {e : String × MarkerRule}
    (he : e ∈ builtinRules) : (ofConfig c).rule? e.1 = some e.2 := by
  rw [rule?_ofConfig, rule?_builtin_of_mem e he]
  rfl

theorem rule?_ofConfig_of_notMem (c : MarkerConfig) (hn : n ∉ builtinNames) :
    (ofConfig c).rule? n = c.ruleFor? n := by
  rw [rule?_ofConfig, rule?_builtin_eq_none_iff.2 hn]
  rfl

theorem mem_names_ofConfig (c : MarkerConfig) (n : String) :
    n ∈ (ofConfig c).rules.names ↔ n ∈ builtinNames ∨ n ∈ c.names := by
  have hrule : (ofConfig c).rules.get? n = (ofConfig c).rule? n := rfl
  rw [NameMap.mem_names_iff, hrule, rule?_ofConfig, ne_eq, Option.or_eq_none_iff,
    rule?_builtin_eq_none_iff, MarkerConfig.ruleFor?_eq_none_iff, not_and_or, not_not, not_not]

theorem size_ofConfig (c : MarkerConfig) : (ofConfig c).size = 8 + c.newNames.card := by
  have hnames : (ofConfig c).rules.names.toFinset = builtinNames.toFinset ∪ c.newNames := by
    ext n
    rw [MarkerConfig.newNames, Finset.union_sdiff_self_eq_union, List.mem_toFinset,
      mem_names_ofConfig, Finset.mem_union, List.mem_toFinset, List.mem_toFinset]
  have hdisjoint : Disjoint builtinNames.toFinset c.newNames := Finset.disjoint_sdiff
  have hbuiltin : builtinNames.toFinset.card = 8 := by decide
  rw [size, NameMap.size_eq_card, hnames, Finset.card_union_of_disjoint hdisjoint, hbuiltin]

theorem ext_rule? {t t' : MarkerTable} (h : ∀ n, t.rule? n = t'.rule? n) : t = t' := by
  obtain ⟨rules⟩ := t
  obtain ⟨rules'⟩ := t'
  exact congrArg MarkerTable.mk (NameMap.ext_get? h)

theorem ruleOf?_ofConfig_of_notMem {c : MarkerConfig} {m : Marker}
    (hm : m.simpleName ∉ c.newNames) : (ofConfig c).ruleOf? m = builtin.ruleOf? m := by
  rw [ruleOf?, rule?_ofConfig, ruleOf?]
  by_cases hc : m.simpleName ∈ c.names
  · -- the name is built in, and then the configuration is not asked
    rw [MarkerConfig.newNames, Finset.mem_sdiff, List.mem_toFinset, List.mem_toFinset, not_and,
      not_not] at hm
    cases hb : builtin.rule? m.simpleName with
    | some rule => rfl
    | none => exact absurd (hm hc) (rule?_builtin_eq_none_iff.1 hb)
  · rw [MarkerConfig.ruleFor?_eq_none_iff.2 hc, Option.or_none]

end MarkerTable

/-! ## Properties -/

section Resolving

variable {table table' : MarkerTable}

theorem MarkerScan.scan_congr {ms : List Marker}
    (h : ∀ m ∈ ms, table.ruleOf? m = table'.ruleOf? m) (property : String) (s : MarkerScan) :
    scan table property s ms = scan table' property s ms := by
  induction ms generalizing s with
  | nil => rfl
  | cons m ms ih =>
    obtain ⟨hm, hms⟩ := List.forall_mem_cons.1 h
    rw [scan, scan, hm]
    cases table'.ruleOf? m with
    | none => exact ih hms s
    | some rule => simp only [ih hms]

/-- Tables with the same rules for the markers of an accessor resolve its property alike, and tell
the same about it. -/
theorem resolveProperty_congr {a : Accessor}
    (h : ∀ m ∈ a.markers, table.ruleOf? m = table'.ruleOf? m) (name : String) :
    resolveProperty table name a = resolveProperty table' name a := by
  rw [resolveProperty, MarkerScan.scan_congr h]
  rfl

end Resolving

/-- **A configured name has the rule of the first role that lists it**, unless it is built in, and
then it has its built-in rule. There are as many rules as built-in names and listed ones that are
not built in. So the table depends on which names a role lists and on nothing else, and an accessor
without a marker under a newly listed name is resolved as by the built-in table. -/
theorem rules_of_configured_names (c : MarkerConfig) :
    (∀ e ∈ MarkerTable.builtinRules, (MarkerTable.ofConfig c).rule? e.1 = some e.2) ∧
    (∀ n ∉ MarkerTable.builtinNames, (MarkerTable.ofConfig c).rule? n =
      if n ∈ c.nullable then some .nullable
      else if n ∈ c.nameAttribute then some (.key .name)
      else if n ∈ c.valueAttribute then some (.key .value)
      else if n ∈ c.mapKey then some .mapKey
      else none) ∧
    (MarkerTable.ofConfig c).size = 8 + c.newNames.card ∧
    (∀ c', c.SameNames c' → MarkerTable.ofConfig c' = MarkerTable.ofConfig c) ∧
    (∀ name a, (∀ m ∈ a.markers, m.simpleName ∉ c.newNames) →
      resolveProperty (.ofConfig c) name a = resolveProperty .builtin name a) := by
  refine ⟨?builtin, ?listed, MarkerTable.size_ofConfig c, ?same, ?others⟩
  case builtin =>
    intro e he
    exact MarkerTable.rule?_ofConfig_of_builtin c he
  case listed =>
    intro n hn
    exact MarkerTable.rule?_ofConfig_of_notMem c hn
  case same =>
    intro c' h
    apply MarkerTable.ext_rule?
    intro n
    rw [MarkerTable.rule?_ofConfig, MarkerTable.rule?_ofConfig, h.ruleFor?]
  case others =>
    intro name a ha
    apply resolveProperty_congr
    intro m hm
    exact MarkerTable.ruleOf?_ofConfig_of_notMem (ha m hm)

/-! ## A crowded configuration -/

/-- Names that are listed twice, under two roles, or although they are built in. -/
def crowded : MarkerConfig :=
  ⟨["A", "Json", "A"], ["B", "A"], ["C", "B"], ["D", "Field", "C", "D"]⟩

/-- The configuration with its lists turned around and without repetitions. -/
def crowdedReversed : MarkerConfig :=
  ⟨crowded.nullable.dedup.reverse, crowded.nameAttribute.dedup.reverse,
    crowded.valueAttribute.dedup.reverse, crowded.mapKey.dedup.reverse⟩

/-- Two markers under built-in names, one of them listed as well, and one that nobody lists. -/
def fieldAccessor : Accessor :=
  ⟨"id", "id", "int", [.new "a.Nullable", (Marker.new "b.Field").withAttribute "value" (.text "k"),
    .new "Other"]⟩

theorem rules_of_configured_names_crowded :
    (MarkerTable.ofConfig crowded).rule? "Json" = some (.key .name) ∧
    (MarkerTable.ofConfig crowded).rule? "A" = some .nullable ∧
    (MarkerTable.ofConfig crowded).rule? "C" = some (.key .value) ∧
    (MarkerTable.ofConfig crowded).size = 12 ∧
    MarkerTable.ofConfig crowdedReversed = MarkerTable.ofConfig crowded ∧
    resolveProperty (.ofConfig crowded) "id" fieldAccessor
      = resolveProperty .builtin "id" fieldAccessor := by
  obtain ⟨hbuiltin, hlisted, hsize, hsame, hothers⟩ := rules_of_configured_names crowded
  have hnew : crowded.newNames.card = 4 := by decide
  have hreversed : crowded.SameNames crowdedReversed := by
    constructor
    all_goals
      intro n
      exact List.mem_dedup.symm.trans List.mem_reverse.symm
  refine ⟨hbuiltin ("Json", .key .name) (by decide), hlisted "A" (by decide),
    hlisted "C" (by decide), ?_, hsame _ hreversed, hothers _ _ (by decide)⟩
  rw [hsize, hnew]

end MapBacked
