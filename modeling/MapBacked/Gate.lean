import MapBacked.Event
import MapBacked.Types.MapFamily
import MapBacked.ValueType

/-!
# The applicability gate

Whether a value type may be given a map-backed class, and in which of the two usages. The gate
walks up the supertypes with a list of references still to visit, front first. A reference to the
map interface decides if it is raw or carries exactly the wanted arguments, and leads nowhere
otherwise. Any other reference is looked up once per name: the host language lets a type inherit a
generic type with one list of arguments only, so a second visit to a name adds nothing. A name the
resolver does not know leads nowhere.

The walk ends because each look-up that finds something uses up a known name (`Resolver.unseen`),
and every other step shortens the list. Besides the usage it answers which names were looked up,
since the gate must depend on nothing else.
-/

namespace MapBacked

/-- The outcome of a walk: the usage found and the names that were looked up, in order. -/
structure Walk where
  usage : Option MapUsage
  lookups : List String
deriving DecidableEq, Inhabited

namespace Walk

/-- The walk that ends with an answer. -/
def done (usage : Option MapUsage) : Walk := ⟨usage, []⟩

/-- The walk that looks a name up before it goes on. -/
def afterLookup (name : String) (w : Walk) : Walk := ⟨w.usage, name :: w.lookups⟩

@[simp] theorem usage_done (u : Option MapUsage) : (done u).usage = u := rfl

@[simp] theorem lookups_done (u : Option MapUsage) : (done u).lookups = [] := rfl

@[simp] theorem usage_afterLookup (name : String) (w : Walk) :
    (w.afterLookup name).usage = w.usage := rfl

@[simp] theorem lookups_afterLookup (name : String) (w : Walk) :
    (w.afterLookup name).lookups = name :: w.lookups := rfl

end Walk

namespace Gate

/-- What a reference to the map interface decides. -/
def decide? (t : TypeRef) : Option MapUsage :=
  if t.isRaw then some .raw else if t.args = targetMap.args then some .parameterized else none

/-- Visits the pending references front first; `seen` are the names that were looked up before. -/
def walk (types : Resolver) (seen : List String) : List TypeRef → Walk
  | [] => .done none
  | t :: pending =>
    if t.name = mapName then
      match decide? t with
      | some usage => .done (some usage)
      | none => walk types seen pending
    else if t.name ∈ seen then walk types seen pending
    else
      match _h : types.declaration t.name with
      | some d => (walk types (t.name :: seen) (d.supertypesFor t ++ pending)).afterLookup t.name
      | none => (walk types (t.name :: seen) pending).afterLookup t.name
termination_by pending => ((types.unseen seen).length, pending.length)
decreasing_by
  · exact .right _ (Nat.lt_succ_self _)
  · exact .right _ (Nat.lt_succ_self _)
  · exact .left _ _ (Resolver.unseen_cons_lt (Resolver.mem_knownNames_of_declaration _h) ‹_›)
  · rcases Nat.lt_or_eq_of_le (Resolver.unseen_cons_le types seen t.name) with hlt | heq
    · exact .left _ _ hlt
    · rw [heq]
      exact .right _ (Nat.lt_succ_self _)

def walkFrom (types : Resolver) (v : ValueType) : Walk := walk types [] v.supertypes

end Gate

/-- How a value type reaches the map interface, if it does. -/
def mapUsage (v : ValueType) (types : Resolver) : Option MapUsage := (Gate.walkFrom types v).usage

/-- The names that are looked up to find out. -/
def mapLookups (v : ValueType) (types : Resolver) : List String :=
  (Gate.walkFrom types v).lookups

/-- Asks the gate and tells its answer. -/
def checkApplicability (v : ValueType) (types : Resolver) : Logged (Option MapUsage) := do
  let usage := mapUsage v types
  Logged.tell (.applicabilityChecked v.qualifiedName usage)
  return usage

/-- Whether a value type may be given a map-backed class. -/
def applicable (v : ValueType) (types : Resolver) : Bool := (mapUsage v types).isSome

end MapBacked
