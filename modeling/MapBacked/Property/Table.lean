import MapBacked.Property.Rule

/-!
# Marker tables

Which rule a marker falls under, by its simple name. Eight names are built in. A configuration adds
names to the four roles; it can never change a name that has a rule already, so built-in names keep
theirs, and a name listed under two roles has the first one's.
-/

namespace MapBacked

/-- Marker names by role, to be added to the built-in ones. -/
structure MarkerConfig where
  nullable : List String
  nameAttribute : List String
  valueAttribute : List String
  mapKey : List String
deriving DecidableEq, Inhabited

namespace MarkerConfig

def empty : MarkerConfig := ⟨[], [], [], []⟩

/-- The added names with the rules of their roles, in the order in which the roles are settled. -/
def rules (c : MarkerConfig) : List (String × MarkerRule) :=
  c.nullable.map (·, .nullable) ++ c.nameAttribute.map (·, .key .name)
    ++ c.valueAttribute.map (·, .key .value) ++ c.mapKey.map (·, .mapKey)

end MarkerConfig

/-- The rules by simple name. -/
structure MarkerTable where
  rules : NameMap MarkerRule

namespace MarkerTable

/-- The built-in rules. -/
def builtinRules : List (String × MarkerRule) :=
  [("Nullable", .nullable),
   ("Json", .key .name),
   ("Field", .key .value),
   ("Header", .key .value),
   ("Part", .key .value),
   ("Query", .key .value),
   ("SerializedName", .key .value),
   ("MapKey", .mapKey)]

def builtin : MarkerTable := ⟨.ofList builtinRules⟩

/-- Adds a rule for a name that has none. -/
def add (t : MarkerTable) (name : String) (rule : MarkerRule) : MarkerTable :=
  ⟨t.rules.insertIfNew name rule⟩

/-- The built-in rules and the configured ones. -/
def ofConfig (c : MarkerConfig) : MarkerTable :=
  c.rules.foldl (fun t e => t.add e.1 e.2) builtin

def rule? (t : MarkerTable) (simpleName : String) : Option MarkerRule := t.rules.get? simpleName

/-- The rule a marker falls under. -/
def ruleOf? (t : MarkerTable) (m : Marker) : Option MarkerRule := t.rule? m.simpleName

def size (t : MarkerTable) : Nat := t.rules.size

def isEmpty (t : MarkerTable) : Bool := t.rules.isEmpty

end MarkerTable

end MapBacked
