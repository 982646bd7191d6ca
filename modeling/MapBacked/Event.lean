import MapBacked.MapUsage
import MapBacked.Path
import MapBacked.Property.Rule

/-!
# The log

What happens while a class is generated is told in events. An operation that tells something
returns it next to its answer, as a `Logged` value, in the order in which it happened; nothing is
told on the side. Sequencing two such operations puts their events one behind the other.
-/

namespace MapBacked

/-- How much an event matters. -/
inductive Level where
  | trace
  | debug
  | info
deriving DecidableEq, Inhabited

def Level.text : Level → String
  | .trace => "TRACE"
  | .debug => "DEBUG"
  | .info => "INFO"

inductive Event where
  | applicabilityChecked (valueType : String) (usage : Option MapUsage)
  | keyReplaced (property marker previous key : String)
  | keyUnusable (property marker : String) (rule : MarkerRule)
  | propertyResolved (property key : String) (nullable : Bool)
  | descriptorBuilt (className : String) (properties : Nat)
  | templateRead (path : Path)
  | classRendered (className : String) (bytes : Nat)
  | classGenerated (valueType className : String)
  | extensionConfigured (markers : Nat) (customTemplate : Bool)
deriving DecidableEq, Inhabited

namespace Event

/-- The level an event is told at. -/
def level : Event → Level
  | .keyReplaced .. | .propertyResolved .. => .trace
  | .extensionConfigured .. => .info
  | _ => .debug

def message : Event → String
  | .applicabilityChecked .. => "applicability checked"
  | .keyReplaced .. => "key override replaced"
  | .keyUnusable .. => "marker carries no usable key"
  | .propertyResolved .. => "property resolved"
  | .descriptorBuilt .. => "class descriptor built"
  | .templateRead .. => "loading class template"
  | .classRendered .. => "class rendered"
  | .classGenerated .. => "class generated"
  | .extensionConfigured .. => "map extension configured"

def flag (b : Bool) : String := if b then "true" else "false"

/-- The text of a gate's answer in the log. -/
def usageText : Option MapUsage → String
  | none => "None"
  | some .parameterized => "Some(Parameterized)"
  | some .raw => "Some(Raw)"

/-- What the event tells besides its message, by field name. -/
def fields : Event → List (String × String)
  | .applicabilityChecked valueType usage =>
    [("value_type", valueType), ("applicable", flag usage.isSome), ("usage", usageText usage)]
  | .keyReplaced property marker previous key =>
    [("property", property), ("marker", marker), ("previous", previous), ("key", key)]
  | .keyUnusable property marker rule =>
    [("property", property), ("marker", marker), ("rule", rule.text)]
  | .propertyResolved property key nullable =>
    [("property", property), ("key", key), ("nullable", flag nullable)]
  | .descriptorBuilt className properties =>
    [("class", className), ("properties", toString properties)]
  | .templateRead path => [("path", path.text)]
  | .classRendered className bytes => [("class", className), ("bytes", toString bytes)]
  | .classGenerated valueType className => [("value_type", valueType), ("class", className)]
  | .extensionConfigured markers customTemplate =>
    [("markers", toString markers), ("custom_template", flag customTemplate)]

end Event

/-- An answer and the events told on the way to it. -/
structure Logged (α : Type) where
  value : α
  events : List Event

namespace Logged

variable {α β : Type}

instance : Monad Logged where
  pure a := ⟨a, []⟩
  bind m f := ⟨(f m.value).value, m.events ++ (f m.value).events⟩

instance : LawfulMonad Logged :=
  LawfulMonad.mk' Logged
    (fun ⟨_, _⟩ => by simp [Functor.map])
    (fun _ _ => by simp [pure, bind])
    (fun _ _ _ => by simp [bind, List.append_assoc])

def tell (e : Event) : Logged Unit := ⟨(), [e]⟩

@[simp] theorem value_pure (a : α) : (pure a : Logged α).value = a := rfl

@[simp] theorem events_pure (a : α) : (pure a : Logged α).events = [] := rfl

@[simp] theorem value_bind (m : Logged α) (f : α → Logged β) :
    (m >>= f).value = (f m.value).value := rfl

/-- The events of two operations in sequence stand one behind the other. -/
@[simp] theorem events_bind (m : Logged α) (f : α → Logged β) :
    (m >>= f).events = m.events ++ (f m.value).events := rfl

@[simp] theorem value_tell (e : Event) : (tell e).value = () := rfl

@[simp] theorem events_tell (e : Event) : (tell e).events = [e] := rfl

end Logged

end MapBacked
