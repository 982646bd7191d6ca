import Mathlib.Data.List.Forall2
import MapBacked.Proofs.Gate.Rounds
import MapBacked.Proofs.Generation.Outcome
import MapBacked.Proofs.Property.Decisions
import MapBacked.Template.Rendering

/-!
# The log of a generation

A generation tells what it does, and what it tells is what it did. First comes the answer of the
gate, and for a refused value type nothing else. Then every property has its events, in the order of
the accessors: decisions about its key, and behind them the key and the nullability that the
description gives it (`PropertySpec.ToldBy`). Then the description is told of, and if the template
has no fault the text and the class.

A failure keeps what was told before it, so the log of a failed generation is that of a successful
one broken off: at the gate's answer, or behind the description.
-/

namespace MapBacked

/-! ## The events of a property -/

/-- The event tells what became of the key that a marker names for the property. -/
inductive Event.DecidesKey (property : String) : Event → Prop where
  | replaced (marker previous key : String) :
      DecidesKey property (.keyReplaced property marker previous key)
  | unusable (marker : String) (rule : MarkerRule) :
      DecidesKey property (.keyUnusable property marker rule)

/-- The events are those of the property: decisions about its key, and at the end what it got. -/
def PropertySpec.ToldBy (p : PropertySpec) (events : List Event) : Prop :=
  ∃ decisions, (∀ e ∈ decisions, e.DecidesKey p.name) ∧
    events = decisions ++ [.propertyResolved p.name p.key p.isNullable]

/-- What is told of the properties of accessors, one list for each. -/
def propertyEvents (table : MarkerTable) (as : List Accessor) : List (List Event) :=
  as.map fun a => (resolveProperty table a.property a).events

variable {E : Template.Engine} {types : Resolver} {table : MarkerTable} {renderer : Renderer E}
  {r : GenerationRequest}

theorem toldBy_resolveProperty (table : MarkerTable) (name : String) (a : Accessor) :
    (resolveProperty table name a).value.ToldBy (resolveProperty table name a).events := by
  refine ⟨_, ?_, events_resolveProperty table name a⟩
  intro e he
  rcases KeyBearer.cases_of_mem_allTold he with ⟨_, _, rfl⟩ | ⟨_, _, _, rfl⟩
  · exact .unusable _ _
  · exact .replaced _ _ _

theorem events_resolveAll (table : MarkerTable) (as : List Accessor) :
    (resolveAll table as).events = (propertyEvents table as).flatten := by
  induction as with
  | nil => rfl
  | cons a as ih =>
    rw [propertyEvents, List.map_cons, List.flatten_cons, ← propertyEvents, ← ih, resolveAll,
      Logged.events_bind, Logged.events_bind, Logged.events_pure, List.append_nil]

theorem PropertySpec.ToldBy.ne_classGenerated {p : PropertySpec} {events : List Event} {e : Event}
    (h : p.ToldBy events) (he : e ∈ events) (v c : String) : e ≠ .classGenerated v c := by
  obtain ⟨decisions, hdecisions, rfl⟩ := h
  rcases List.mem_append.1 he with he | he
  · cases hdecisions e he with
    | replaced => simp
    | unusable => simp
  · rw [List.mem_singleton.1 he]
    simp

/-! ## The parts of a generation -/

theorem toldBy_describeClass (table : MarkerTable) (u : MapUsage) (r : GenerationRequest) :
    List.Forall₂ PropertySpec.ToldBy (describeClass table u r).value.properties
      (propertyEvents table r.valueType.properties) := by
  rw [value_describeClass, propertyEvents, List.forall₂_map_left_iff, List.forall₂_map_right_iff,
    List.forall₂_same]
  intro a _
  exact toldBy_resolveProperty table a.property a

theorem events_describeClass (table : MarkerTable) (u : MapUsage) (r : GenerationRequest) :
    (describeClass table u r).events = (propertyEvents table r.valueType.properties).flatten
      ++ [.descriptorBuilt r.className (describeClass table u r).value.properties.length] := by
  rw [← events_resolveAll]
  rfl

theorem result_render (renderer : Renderer E) (d : ClassDescriptor) :
    (renderer.render d).result = (renderer.text d).mapError .template := by
  unfold Renderer.render
  rw [Attempt.result_bind, Attempt.result_ofExcept]
  cases renderer.text d with
  | ok text => rfl
  | error e => rfl

theorem events_render_of_ok {d : ClassDescriptor} {text : String} (h : renderer.text d = .ok text) :
    (renderer.render d).events = [.classRendered d.className text.utf8ByteSize] := by
  unfold Renderer.render
  rw [Attempt.events_bind, h]
  rfl

theorem events_render_of_error {d : ClassDescriptor} {e : String}
    (h : renderer.text d = .error e) : (renderer.render d).events = [] := by
  unfold Renderer.render
  rw [Attempt.events_bind, h]
  rfl

/-! ## The whole log -/

theorem events_generate_of_refused (h : mapUsage r.valueType types = none) :
    (generate types table renderer r).events
      = [.applicabilityChecked r.valueType.qualifiedName none] := by
  unfold generate checkApplicability
  rw [Attempt.events_bind, h]
  rfl

/-- What is told of an accepted request before its class is rendered. -/
def eventsToDescription (table : MarkerTable) (u : MapUsage) (r : GenerationRequest) : List Event :=
  .applicabilityChecked r.valueType.qualifiedName (some u) ::
    (propertyEvents table r.valueType.properties).flatten
      ++ [.descriptorBuilt r.className (describeClass table u r).value.properties.length]

theorem events_generate_of_accepted {u : MapUsage} (h : mapUsage r.valueType types = some u) :
    (generate types table renderer r).events
      = eventsToDescription table u r
        ++ ((renderer.render (describeClass table u r).value).events
          ++ match (renderer.render (describeClass table u r).value).result with
            | .ok _ => [.classGenerated r.valueType.qualifiedName r.className]
            | .error _ => []) := by
  have hcheck : checkApplicability r.valueType types
      = ⟨some u, [.applicabilityChecked r.valueType.qualifiedName (some u)]⟩ := by
    rw [← h]
    rfl
  -- one bind after the other; each `show` evaluates the answer of the bind before it
  unfold generate
  rw [hcheck, Attempt.events_bind, Attempt.events_liftM, Attempt.result_liftM]
  show _ :: Attempt.events (liftM (describeClass table u r) >>= _) = _
  rw [Attempt.events_bind, Attempt.events_liftM, Attempt.result_liftM, events_describeClass]
  show _ :: (_ ++ Attempt.events (renderer.render _ >>= _)) = _
  rw [Attempt.events_bind, eventsToDescription, List.cons_append]
  cases (renderer.render (describeClass table u r).value).result with
  | ok text => rfl
  | error f => rfl

theorem events_generate_of_text {u : MapUsage} {text : String}
    (h : mapUsage r.valueType types = some u)
    (ht : renderer.text (describeClass table u r).value = .ok text) :
    (generate types table renderer r).events
      = eventsToDescription table u r ++ [.classRendered r.className text.utf8ByteSize,
          .classGenerated r.valueType.qualifiedName r.className] := by
  rw [events_generate_of_accepted h, result_render, events_render_of_ok ht, ht]
  rfl

theorem events_generate_of_fault {u : MapUsage} {e : String}
    (h : mapUsage r.valueType types = some u)
    (he : renderer.text (describeClass table u r).value = .error e) :
    (generate types table renderer r).events = eventsToDescription table u r := by
  rw [events_generate_of_accepted h, result_render, events_render_of_error he, he]
  exact List.append_nil _

theorem result_generate_of_usage {u : MapUsage} (h : mapUsage r.valueType types = some u) :
    (generate types table renderer r).result
      = (renderer.text (describeClass table u r).value).mapError .template := by
  rw [result_generate_of_accepted h, result_render]

/-- A class counts as generated when there is a text, and not before. -/
theorem ne_classGenerated_of_mem {u : MapUsage} {e : Event} (he : e ∈ eventsToDescription table u r)
    (v c : String) : e ≠ .classGenerated v c := by
  rcases List.mem_append.1 he with he | he
  · rcases List.mem_cons.1 he with rfl | he
    · simp
    · obtain ⟨events, hevents, he⟩ := List.mem_flatten.1 he
      obtain ⟨a, _, rfl⟩ := List.mem_map.1 hevents
      exact (toldBy_resolveProperty table a.property a).ne_classGenerated he v c
  · rw [List.mem_singleton.1 he]
    simp

theorem classGenerated_mem_iff (types : Resolver) (table : MarkerTable) (renderer : Renderer E)
    (r : GenerationRequest) :
    (∃ v c, .classGenerated v c ∈ (generate types table renderer r).events)
      ↔ ∃ text, (generate types table renderer r).result = .ok text := by
  cases hu : mapUsage r.valueType types with
  | none => simp [events_generate_of_refused hu, result_generate_of_refused hu]
  | some u =>
    rw [result_generate_of_usage hu]
    cases ht : renderer.text (describeClass table u r).value with
    | ok text =>
      rw [events_generate_of_text hu ht]
      constructor
      · intro _
        exact ⟨text, rfl⟩
      · intro _
        exact ⟨r.valueType.qualifiedName, r.className, by simp⟩
    | error e =>
      rw [events_generate_of_fault hu ht]
      constructor
      · rintro ⟨v, c, hmem⟩
        exact absurd rfl (ne_classGenerated_of_mem hmem v c)
      · rintro ⟨text, htext⟩
        cases htext

/-- **The log tells what a generation did.** For a refused value type it is the gate's answer alone.
For an accepted one that answer is followed by the events of the properties in the order of the
accessors, each of which ends with the key and the nullability that the property has in the
description, and by the number of properties. This is all when the template has a fault. Otherwise
the size of the text in bytes follows, and that the class was generated, which is told of successful
generations only. -/
theorem generate_log (types : Resolver) (table : MarkerTable) (renderer : Renderer E)
    (r : GenerationRequest) :
    (mapUsage r.valueType types = none →
      (generate types table renderer r).result
        = .error (.inapplicable r.valueType.qualifiedName) ∧
      (generate types table renderer r).events
        = [.applicabilityChecked r.valueType.qualifiedName none]) ∧
    (∀ u, mapUsage r.valueType types = some u →
      ∃ (d : ClassDescriptor) (groups : List (List Event)) (told : List Event),
        d = (describeClass table u r).value ∧
        groups = r.valueType.properties.map (fun a => (resolveProperty table a.property a).events) ∧
        List.Forall₂ PropertySpec.ToldBy d.properties groups ∧
        told = .applicabilityChecked r.valueType.qualifiedName (some u) :: groups.flatten
          ++ [.descriptorBuilt r.className d.properties.length] ∧
        (∀ text, renderer.text d = .ok text →
          (generate types table renderer r).result = .ok text ∧
          (generate types table renderer r).events
            = told ++ [.classRendered r.className text.utf8ByteSize,
                .classGenerated r.valueType.qualifiedName r.className]) ∧
        (∀ e, renderer.text d = .error e →
          (generate types table renderer r).result = .error (.template e) ∧
          (generate types table renderer r).events = told)) ∧
    ((∃ v c, .classGenerated v c ∈ (generate types table renderer r).events)
      ↔ ∃ text, (generate types table renderer r).result = .ok text) := by
  refine ⟨?refused, ?accepted, classGenerated_mem_iff types table renderer r⟩
  case refused =>
    intro h
    exact ⟨result_generate_of_refused h, events_generate_of_refused h⟩
  case accepted =>
    intro u hu
    refine ⟨_, _, _, rfl, rfl, toldBy_describeClass table u r, rfl, ?text, ?fault⟩
    case text =>
      intro text ht
      rw [result_generate_of_usage hu, ht]
      exact ⟨rfl, events_generate_of_text hu ht⟩
    case fault =>
      intro e he
      rw [result_generate_of_usage hu, he]
      exact ⟨rfl, events_generate_of_fault hu he⟩

/-! ## An order -/

/-- A request for a class with two properties: one with two keys, of which the second counts, and
one whose marker leaves the key blank. -/
def orderRequest (supertype : TypeRef) : GenerationRequest :=
  ⟨⟨"shop", "Order", [], [supertype],
      [⟨"id", "id", "int", [marked "Field" "x", .new "a.Nullable", marked "Field" " y "]⟩,
       ⟨"sum", "sum", "int", [marked "Field" " "]⟩]⟩,
    "shop", "AutoValue_Order", "$AutoValue_Order", true⟩

/-- What is told of the order before its class is rendered. -/
def orderEvents : List Event :=
  [.applicabilityChecked "shop.Order" (some .raw),
   .keyReplaced "id" "Field" "x" "y", .propertyResolved "id" "y" true,
   .keyUnusable "sum" "Field" (.key .value), .propertyResolved "sum" "sum" false,
   .descriptorBuilt "AutoValue_Order" 2]

/-- A template with one character, of two bytes. -/
def signRenderer : Renderer .ofTrees := ⟨[.text "§"]⟩

/-- A template that asks for something that is not there. -/
def faultyRenderer : Renderer .ofTrees := ⟨[.output (.name "nope")]⟩

/-- The order under a template, under one with a fault, and when it is no map. -/
theorem generate_log_order :
    mapUsage (orderRequest (.plain mapName)).valueType ⟨[]⟩ = some .raw ∧
    (generate ⟨[]⟩ .builtin signRenderer (orderRequest (.plain mapName))).events
      = orderEvents ++ [.classRendered "AutoValue_Order" 2,
          .classGenerated "shop.Order" "AutoValue_Order"] ∧
    (generate ⟨[]⟩ .builtin faultyRenderer (orderRequest (.plain mapName))).events
      = orderEvents ∧
    mapUsage (orderRequest (.plain objectName)).valueType ⟨[]⟩ = none ∧
    (generate ⟨[]⟩ .builtin signRenderer (orderRequest (.plain objectName))).events
      = [.applicabilityChecked "shop.Order" none] := by
  have hraw : mapUsage (orderRequest (.plain mapName)).valueType ⟨[]⟩ = some .raw :=
    Gate.mapUsage_of_run .refl (.decided rfl rfl)
  have hnone : mapUsage (orderRequest (.plain objectName)).valueType ⟨[]⟩ = none :=
    Gate.mapUsage_of_run (.single (.unknown (by decide) (by decide) rfl)) .exhausted
  refine ⟨hraw, ?text, ?fault, hnone, ?refused⟩
  case text =>
    obtain ⟨-, haccepted, -⟩ :=
      generate_log ⟨[]⟩ .builtin signRenderer (orderRequest (.plain mapName))
    obtain ⟨_, _, told, rfl, rfl, -, htold, htext, -⟩ := haccepted .raw hraw
    have htoldOrder : told = orderEvents := htold.trans (by decide)
    obtain ⟨-, hevents⟩ := htext "§" rfl
    rw [hevents, htoldOrder]
    rfl
  case fault =>
    obtain ⟨-, haccepted, -⟩ :=
      generate_log ⟨[]⟩ .builtin faultyRenderer (orderRequest (.plain mapName))
    obtain ⟨_, _, told, rfl, rfl, -, htold, -, hfault⟩ := haccepted .raw hraw
    have htoldOrder : told = orderEvents := htold.trans (by decide)
    obtain ⟨-, hevents⟩ := hfault _ rfl
    rw [hevents, htoldOrder]
  case refused =>
    obtain ⟨hrefused, -, -⟩ :=
      generate_log ⟨[]⟩ .builtin signRenderer (orderRequest (.plain objectName))
    exact (hrefused hnone).2

end MapBacked
