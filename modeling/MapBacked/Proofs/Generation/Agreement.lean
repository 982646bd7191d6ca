import MapBacked.Proofs.ClassText.Entries
import MapBacked.Proofs.Gate.Rounds
import MapBacked.Proofs.Generation.Outcome

/-!
# The gate and the generator agree

A host asks whether a value type is handled, and later for its class. With the built-in template, as
`Engine.ofTrees` renders it, the second answer is a class whenever the first was yes, and a refusal
otherwise; the template, which has no fault for any class, is never the reason for a failure.

What the gate found out arrives in the text. The class ends with the members of the map contract, as
they are declared for a raw map or for one with arguments (`ClassText.EndsWithContract`). Nothing
that a request brings along stands behind them, so a text ends with one of the two only, and which
one it is tells how the value type reaches the map interface.
-/

namespace MapBacked

namespace ClassText

/-- The text ends with the members of the map contract, its mutators declared for a raw map or for
one with arguments, and the end of the class. -/
def EndsWithContract (raw : Bool) (text : String) : Prop :=
  contractLines raw ++ ["\x7d", ""] <:+ Text.lines text

theorem length_contractLines (raw : Bool) : (contractLines raw).length = 60 := by
  cases raw <;> rfl

theorem contractLines_ne : contractLines true ≠ contractLines false := by decide

/-- A text cannot end in both ways: they are as long as each other, and the signatures differ. -/
theorem EndsWithContract.eq {raw raw' : Bool} {text : String} (h : EndsWithContract raw text)
    (h' : EndsWithContract raw' text) : raw = raw' := by
  have hlength : (contractLines raw ++ ["\x7d", ""]).length
      = (contractLines raw' ++ ["\x7d", ""]).length := by
    rw [List.length_append, List.length_append, length_contractLines, length_contractLines]
  have hsuffix := List.suffix_of_suffix_length_le h h' (Nat.le_of_eq hlength)
  have hlines : contractLines raw = contractLines raw' :=
    List.append_cancel_right (hsuffix.eq_of_length hlength)
  cases raw <;> cases raw'
  · rfl
  · exact absurd hlines.symm contractLines_ne
  · exact absurd hlines contractLines_ne
  · rfl

/-- The class of a descriptor ends with the members for its kind of map. -/
theorem endsWithContract_lines (d : ClassDescriptor) :
    EndsWithContract d.rawMap (Text.ofLines d.lines) := by
  -- no line has a break inside, so that the lines of the text are the lines it was made of
  have hquiet : ∀ l ∈ contractLines d.rawMap ++ ["\x7d"], '\n' ∉ l.toList := by
    intro l hl
    refine (ClassDescriptor.quiet_linesBehind (d := d) l ?_).1
    rw [ClassDescriptor.linesBehind, List.append_assoc]
    exact List.mem_append_right _ hl
  have hsplit : d.lines = d.linesBefore ++ d.properties.map putLine ++ storingLines
      ++ (contractLines d.rawMap ++ ["\x7d"]) := by
    unfold ClassDescriptor.lines ClassDescriptor.linesBehind
    simp only [List.append_assoc]
  have hsuffix := Text.suffix_lines_append
    (d.linesBefore ++ d.properties.map putLine ++ storingLines) (contractLines d.rawMap ++ ["\x7d"])
  rw [← hsplit, Text.lines_ofLines hquiet, List.append_assoc] at hsuffix
  exact hsuffix

end ClassText

open ClassText

variable {types : Resolver} {table : MarkerTable} {renderer : Renderer .ofTrees}
  {r : GenerationRequest}

/-! ## With the built-in template -/

theorem exists_rendered (hb : Renderer.builtin .ofTrees = .ok renderer) (d : ClassDescriptor) :
    ∃ text, (renderer.render d).result = .ok text ∧ d.rendered = .ok text ∧
      EndsWithContract d.rawMap text := by
  rw [ClassTemplate.builtin_eq] at hb
  cases hb
  refine ⟨Text.ofLines d.lines, ?_, d.rendered_eq, endsWithContract_lines d⟩
  rw [Renderer.render, ClassTemplate.text_tree]
  rfl

theorem exists_generated {u : MapUsage} (table : MarkerTable)
    (hb : Renderer.builtin .ofTrees = .ok renderer) (hu : mapUsage r.valueType types = some u) :
    ∃ text, (generate types table renderer r).result = .ok text ∧
      (describeClass table u r).value.rendered = .ok text ∧ EndsWithContract u.isRaw text := by
  obtain ⟨text, hrender, hrendered, hends⟩ := exists_rendered hb (describeClass table u r).value
  rw [← result_generate_of_accepted hu] at hrender
  rw [value_describeClass] at hends
  exact ⟨text, hrender, hrendered, hends⟩

theorem generate_ok_iff (hb : Renderer.builtin .ofTrees = .ok renderer) :
    (∃ text, (generate types table renderer r).result = .ok text)
      ↔ applicable r.valueType types = true := by
  constructor
  · rintro ⟨text, htext⟩
    cases hu : mapUsage r.valueType types with
    | none =>
      rw [result_generate_of_refused hu] at htext
      cases htext
    | some u =>
      rw [applicable, hu]
      rfl
  · intro h
    obtain ⟨u, hu⟩ := Option.isSome_iff_exists.1 h
    obtain ⟨text, htext, -⟩ := exists_generated table hb hu
    exact ⟨text, htext⟩

theorem mapUsage_of_not_applicable (h : applicable r.valueType types = false) :
    mapUsage r.valueType types = none :=
  Option.not_isSome_iff_eq_none.1 (by rw [← applicable, h]; exact Bool.false_ne_true)

theorem generate_ne_template (hb : Renderer.builtin .ofTrees = .ok renderer) (e : String) :
    (generate types table renderer r).result ≠ .error (.template e) := by
  intro he
  cases hu : mapUsage r.valueType types with
  | none =>
    rw [result_generate_of_refused hu] at he
    cases he
  | some u =>
    obtain ⟨text, htext, -⟩ := exists_generated table hb hu
    rw [htext] at he
    cases he

theorem MapUsage.isRaw_inj {u w : MapUsage} (h : u.isRaw = w.isRaw) : u = w := by
  cases u with
  | raw =>
    cases w with
    | raw => rfl
    | parameterized => cases h
  | parameterized =>
    cases w with
    | raw => cases h
    | parameterized => rfl

/-- The signatures in the text tell how the value type reaches the map interface. -/
theorem endsWithContract_iff {u : MapUsage} {text : String}
    (hu : mapUsage r.valueType types = some u) (h : EndsWithContract u.isRaw text) (w : MapUsage) :
    EndsWithContract w.isRaw text ↔ mapUsage r.valueType types = some w := by
  constructor
  · intro hw
    rw [hu, MapUsage.isRaw_inj (h.eq hw)]
  · intro hw
    rw [hu] at hw
    cases hw
    exact h

/-- **The gate and the generator agree.** With the built-in template there is a class exactly for
the applicable value types, a refusal that names the value type for the others, and never a fault of
the template. The class is the rendering of a description that has the resolved property of each
accessor, in their order, and its mutators are declared for a raw map exactly if the value type
reaches the map interface raw. An extension without a template of its own answers in the same way,
for its own types and markers. -/
theorem generate_agrees_with_gate :
    ∃ renderer, Renderer.builtin .ofTrees = .ok renderer ∧
      (∀ types table r,
        ((∃ text, (generate types table renderer r).result = .ok text)
          ↔ applicable r.valueType types = true) ∧
        (applicable r.valueType types = false → (generate types table renderer r).result
          = .error (.inapplicable r.valueType.qualifiedName)) ∧
        (∀ e, (generate types table renderer r).result ≠ .error (.template e)) ∧
        ∀ text, (generate types table renderer r).result = .ok text →
          ∃ d : ClassDescriptor, d.rendered = .ok text ∧
            d.packageName = r.packageName ∧ d.className = r.className ∧
            d.typeParameters = Text.bracketed r.valueType.typeParameters ∧
            d.superclassName = r.classToExtend ∧ d.isFinal = r.isFinal ∧
            d.properties = r.valueType.properties.map
              (fun a => (resolveProperty table a.property a).value) ∧
            (EndsWithContract true text ↔ mapUsage r.valueType types = some .raw) ∧
            (EndsWithContract false text ↔ mapUsage r.valueType types = some .parameterized)) ∧
      ∀ e : Extension .ofTrees, e.renderer = none →
        (∀ r, (e.generate r).result = (generate e.types e.markers renderer r).result) ∧
        ∀ v, (e.applicable v).value = applicable v e.types := by
  have hb := ClassTemplate.builtin_eq
  refine ⟨_, hb, ?_, ?extension⟩
  case extension =>
    intro e he
    exact ⟨fun r => by rw [Extension.generate_of_builtin hb he], fun v => rfl⟩
  intro types table r
  refine ⟨generate_ok_iff hb, ?_, generate_ne_template hb, ?_⟩
  · intro hno
    exact result_generate_of_refused (mapUsage_of_not_applicable hno)
  · intro text htext
    obtain ⟨u, hu⟩ := Option.isSome_iff_exists.1 ((generate_ok_iff hb).1 ⟨text, htext⟩)
    obtain ⟨text', htext', hrendered, hends⟩ := exists_generated table hb hu
    obtain rfl : text' = text := Except.ok.inj (htext'.symm.trans htext)
    refine ⟨_, hrendered, ?_⟩
    rw [value_describeClass]
    exact ⟨rfl, rfl, rfl, rfl, rfl, rfl, endsWithContract_iff hu hends .raw,
      endsWithContract_iff hu hends .parameterized⟩

/-! ## An extension -/

/-- An extension that knows a base, which is a map from texts to its parameter. -/
def sampleExtension : Extension .ofTrees :=
  ⟨.ofTable (.ofList [⟨"Base", ["X"], [⟨mapName, [.plain stringName, .plain "X"]⟩]⟩]), .builtin,
    none⟩

/-- A request for a class below the given supertype. -/
def sampleRequest (supertype : TypeRef) : GenerationRequest :=
  .inOwnPackage ⟨"com.example", "Sample", [], [supertype], [.new "name" stringName]⟩
    "AutoValue_Sample" "$AutoValue_Sample" true

/-- Below the base without its argument the class is that of a raw map. With an argument that does
not fit there is no class. -/
theorem generate_agrees_with_gate_sample :
    (∃ text, (sampleExtension.generate (sampleRequest (.plain "Base"))).result = .ok text ∧
      EndsWithContract true text ∧ ¬ EndsWithContract false text) ∧
    (sampleExtension.generate (sampleRequest ⟨"Base", [.plain stringName]⟩)).result
      = .error (.inapplicable "com.example.Sample") := by
  have hbase : sampleExtension.types.declaration "Base"
      = some ⟨"Base", ["X"], [⟨mapName, [.plain stringName, .plain "X"]⟩]⟩ := by decide
  have hraw : mapUsage (sampleRequest (.plain "Base")).valueType sampleExtension.types
      = some .raw :=
    Gate.mapUsage_of_run (.single (.known (by decide) (by decide) hbase)) (.decided rfl rfl)
  have hnone : mapUsage (sampleRequest ⟨"Base", [.plain stringName]⟩).valueType
      sampleExtension.types = none :=
    Gate.mapUsage_of_run (.head (.known (by decide) (by decide) hbase) <|
      .single (.undecided rfl (by decide))) .exhausted
  obtain ⟨renderer, -, hagree, hextension⟩ := generate_agrees_with_gate
  obtain ⟨hsame, -⟩ := hextension sampleExtension rfl
  obtain ⟨hiff, -, -, hclass⟩ :=
    hagree sampleExtension.types .builtin (sampleRequest (.plain "Base"))
  obtain ⟨-, hrefused, -, -⟩ :=
    hagree sampleExtension.types .builtin (sampleRequest ⟨"Base", [.plain stringName]⟩)
  constructor
  · obtain ⟨text, htext⟩ := hiff.2 (by rw [applicable, hraw]; rfl)
    obtain ⟨d, -, -, -, -, -, -, -, htrue, hfalse⟩ := hclass text htext
    refine ⟨text, (hsame _).trans htext, htrue.2 hraw, fun hends => ?_⟩
    have hother := hfalse.1 hends
    rw [hraw] at hother
    cases hother
  · rw [hsame]
    refine hrefused ?_
    rw [applicable, hnone]
    rfl

end MapBacked
