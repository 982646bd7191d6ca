import MapBacked.Proofs.Property.Configured

/-!
# Simple names

The simple name of a marker is what stands behind the last dot of its name. It has no dot itself,
and the whole name is the simple name, or ends in a dot and the simple name
(`Marker.qualifiedName_or`). So no marker is ever looked up under a name with a dot. Such names may
be configured, and then they have rules like all others, but nothing comes of it.
-/

namespace MapBacked

/-! ## What stands behind the last dot -/

namespace Marker

theorem takeWhile_dot_or (cs : List Char) :
    cs.takeWhile (· ≠ '.') = cs ∨ ∃ rest, cs.takeWhile (· ≠ '.') ++ '.' :: rest = cs := by
  induction cs with
  | nil => exact .inl rfl
  | cons c cs ih =>
    by_cases hc : c = '.'
    · exact .inr ⟨cs, by simp [hc]⟩
    · rw [List.takeWhile_cons_of_pos (by simpa using hc)]
      rcases ih with ih | ⟨rest, ih⟩
      · exact .inl (congrArg (c :: ·) ih)
      · exact .inr ⟨rest, congrArg (c :: ·) ih⟩

theorem behindLastDot_or (cs : List Char) :
    behindLastDot cs = cs ∨ ∃ front, front ++ '.' :: behindLastDot cs = cs := by
  -- read from the back the simple name is what comes before the first dot
  rcases takeWhile_dot_or cs.reverse with h | ⟨rest, h⟩
  · left
    rw [behindLastDot, h, List.reverse_reverse]
  · right
    refine ⟨rest.reverse, ?_⟩
    have hreverse := congrArg List.reverse h
    rw [List.reverse_append, List.reverse_cons, List.reverse_reverse, List.append_assoc] at hreverse
    exact hreverse

theorem dot_notMem_simpleName (m : Marker) : '.' ∉ m.simpleName.toList := by
  rw [simpleName, String.toList_ofList]
  exact dot_notMem_behindLastDot _

theorem qualifiedName_or (m : Marker) :
    m.qualifiedName = m.simpleName ∨ ∃ front, m.qualifiedName = front ++ "." ++ m.simpleName := by
  rcases behindLastDot_or m.qualifiedName.toList with h | ⟨front, h⟩
  · left
    rw [simpleName, h, String.ofList_toList]
  · right
    refine ⟨String.ofList front, ?_⟩
    apply String.toList_injective
    rw [String.toList_append, String.toList_append, simpleName, String.toList_ofList,
      String.toList_ofList, List.append_assoc, String.toList_ofList]
    exact h.symm

end Marker

/-! ## Names with a dot -/

namespace MarkerConfig

def dotless (n : String) : Bool := !n.toList.contains '.'

/-- The configuration without the names that contain a dot. -/
def withoutDots (c : MarkerConfig) : MarkerConfig :=
  ⟨c.nullable.filter dotless, c.nameAttribute.filter dotless, c.valueAttribute.filter dotless,
    c.mapKey.filter dotless⟩

theorem ruleFor?_withoutDots (c : MarkerConfig) {n : String} (h : '.' ∉ n.toList) :
    c.withoutDots.ruleFor? n = c.ruleFor? n := by
  have hn : dotless n = true := by simpa [dotless] using h
  have hmem (names : List String) : n ∈ names.filter dotless ↔ n ∈ names := by
    rw [List.mem_filter, and_iff_left hn]
  simp only [ruleFor?, withoutDots, hmem]

end MarkerConfig

theorem MarkerTable.ruleOf?_withoutDots (c : MarkerConfig) (m : Marker) :
    (ofConfig c.withoutDots).ruleOf? m = (ofConfig c).ruleOf? m := by
  rw [ruleOf?, ruleOf?, rule?_ofConfig, rule?_ofConfig,
    c.ruleFor?_withoutDots m.dot_notMem_simpleName]

/-- **Configured names with a dot have no effect.** A property is resolved as without them, whatever
the configuration and the accessor, since no marker has a simple name with a dot. -/
theorem dotted_names_have_no_effect :
    (∀ (c : MarkerConfig) (name : String) (a : Accessor),
      resolveProperty (.ofConfig c) name a = resolveProperty (.ofConfig c.withoutDots) name a) ∧
    ∀ m : Marker, '.' ∉ m.simpleName.toList ∧
      (m.qualifiedName = m.simpleName ∨
        ∃ front, m.qualifiedName = front ++ "." ++ m.simpleName) := by
  constructor
  · intro c name a
    apply resolveProperty_congr
    intro m _
    exact (MarkerTable.ruleOf?_withoutDots c m).symm
  · intro m
    exact ⟨m.dot_notMem_simpleName, m.qualifiedName_or⟩

/-- The rule is there, but not under the name that its marker is looked up by. -/
example : (MarkerTable.ofConfig ⟨["a.Lazy"], [], [], []⟩).rule? "a.Lazy" = some .nullable ∧
    (MarkerTable.ofConfig ⟨["a.Lazy"], [], [], []⟩).ruleOf? (.new "a.Lazy") = none := by
  decide

end MapBacked
