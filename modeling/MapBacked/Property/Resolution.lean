import MapBacked.Event
import MapBacked.Property.Table
import MapBacked.ValueType

/-!
# Resolving a property

One accessor in, one property of the generated class out. The markers are scanned in order and each
is taken by its rule. A nullable marker is remembered as it is to be written in front of the
parameter, the last one counts. A key-bearing marker with a usable key stages it, and the last one
counts. A map-key marker is kept apart: if there is one, its key takes the place of whatever was
staged, wherever it stands among the others. A property that ends up without a key, or with a blank
one, is stored under its own name.

Every decision about the key is told: a key-bearing marker without a usable key, a staged key that
is replaced, and at the end the key itself.
-/

namespace MapBacked

/-- One property of a generated class, as the class template sees it. -/
structure PropertySpec where
  key : String
  name : String
  type : String
  value : String
  nullable : String
deriving DecidableEq, Inhabited

/-- Whether a nullability marker is written in front of the parameter. -/
def PropertySpec.isNullable (p : PropertySpec) : Bool := !p.nullable.isEmpty

/-- What a scan of the markers has gathered: the nullability marker, the staged key, and the key of
a map-key marker. -/
structure MarkerScan where
  nullable : String
  staged : Option String
  mapKey : Option String
deriving DecidableEq, Inhabited

namespace MarkerScan

def start : MarkerScan := ⟨"", none, none⟩

/-- What is told when a key is staged: the key it replaces, if there is one. -/
def stagingEvents (property : String) (m : Marker) (key : String) : Option String → List Event
  | none => []
  | some previous => [.keyReplaced property m.qualifiedName previous key]

/-- Takes a marker by its rule. -/
def take (property : String) (s : MarkerScan) (rule : MarkerRule) (m : Marker) :
    Logged MarkerScan :=
  match rule with
  | .nullable => pure { s with nullable := m.usage ++ " " }
  | .mapKey => pure { s with mapKey := MarkerRule.mapKey.keyOverride m }
  | .key attr =>
    match (MarkerRule.key attr).keyOverride m with
    | none => ⟨s, [.keyUnusable property m.qualifiedName (.key attr)]⟩
    | some key => ⟨{ s with staged := some key }, stagingEvents property m key s.staged⟩

/-- Scans the markers in order; one without a rule is passed over. -/
def scan (table : MarkerTable) (property : String) (s : MarkerScan) :
    List Marker → Logged MarkerScan
  | [] => pure s
  | m :: rest =>
    match table.ruleOf? m with
    | none => scan table property s rest
    | some rule => do scan table property (← s.take property rule m) rest

/-- The key of the property: the map-key marker's, else the staged one, and the property's own name
when that leaves nothing or a blank. -/
def key (s : MarkerScan) (property : String) : String :=
  ((s.mapKey.or s.staged).filter fun k => !Text.isBlank k).getD property

end MarkerScan

/-- Resolves the property that an accessor declares. -/
def resolveProperty (table : MarkerTable) (name : String) (a : Accessor) :
    Logged PropertySpec := do
  let s ← MarkerScan.start.scan table name a.markers
  Logged.tell (.propertyResolved name (s.key name) (!s.nullable.isEmpty))
  return ⟨s.key name, name, a.returnType, a.invocation, s.nullable⟩

/-- Resolves the properties of accessors in order, each under its accessor's name for it. -/
def resolveAll (table : MarkerTable) : List Accessor → Logged (List PropertySpec)
  | [] => pure []
  | a :: rest => do
    let p ← resolveProperty table a.property a
    return p :: (← resolveAll table rest)

end MapBacked
