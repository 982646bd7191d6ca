import Mathlib.Data.List.Forall2
import MapBacked.Proofs.ClassText.EntryLine
import MapBacked.Proofs.ClassText.Rendered

/-!
# The entries in the text of a class

The text of a class gives its lines back (`lines_text`), and among them the ones that look like
entries are the entries (`filter_lines`). Since each of them says which entry it puts, the text
tells the entries of the class, in their order. Classes that differ in their keys alone have the
same lines in the same places, but for the entries (`sameButEntry_lines`).
-/

namespace MapBacked

open ClassText

namespace ClassDescriptor

variable {d d' : ClassDescriptor}

/-! ## The lines of the text -/

/-- What the built-in template puts out for the class. -/
def rendered (d : ClassDescriptor) : Except String String := do
  (← Renderer.builtin .ofTrees).text d

theorem rendered_eq (d : ClassDescriptor) : d.rendered = .ok (Text.ofLines d.lines) := by
  have hread (r : Renderer .ofTrees) : (do (← Except.ok r).text d) = r.text d := rfl
  rw [rendered, ClassTemplate.builtin_eq, hread, ClassTemplate.text_tree]

theorem lines_text (h : d.OneLined) : Text.lines (Text.ofLines d.lines) = d.lines ++ [""] := by
  -- no line has a line end in it, so the text splits into the lines it was made of
  refine Text.lines_ofLines ?_
  unfold lines
  simp only [List.forall_mem_append, List.forall_mem_map]
  refine ⟨⟨fun l hl => (quiet_linesBefore h l hl).1, fun p hp => not_mem_putLine ?_⟩,
    fun l hl => (quiet_linesBehind l hl).1⟩
  exact h.2 p hp _ (by simp)

/-- The lines that look like entries are the entries. -/
theorem filter_lines (h : d.OneLined) :
    (d.lines ++ [""]).filter isEntryLine = d.properties.map putLine := by
  have hbefore : d.linesBefore.filter isEntryLine = [] :=
    List.filter_eq_nil_iff.2 fun l hl => by simp [(quiet_linesBefore h l hl).2]
  have hputs : (d.properties.map putLine).filter isEntryLine = d.properties.map putLine :=
    List.filter_eq_self.2 (List.forall_mem_map.2 fun p _ => isEntryLine_putLine p)
  have hbehind : d.linesBehind.filter isEntryLine = [] :=
    List.filter_eq_nil_iff.2 fun l hl => by simp [(quiet_linesBehind l hl).2]
  have hlast : [""].filter isEntryLine = [] := rfl
  unfold lines
  rw [List.filter_append, List.filter_append, List.filter_append, hbefore, hputs, hbehind, hlast,
    List.append_nil, List.append_nil, List.nil_append]

theorem length_parameterLines (ps : List PropertySpec) :
    (parameterLines ps).length = ps.length := by
  fun_induction parameterLines ps with
  | case1 => rfl
  | case2 p => rfl
  | case3 p q rest ih =>
    rw [List.length_cons, ih]
    rfl

/-- How many lines a class has. -/
theorem length_lines : d.lines.length
    = 77 + 2 * d.properties.length + if d.packageName = "" then 0 else 2 := by
  have hpackage : (packageLines d.packageName).length = if d.packageName = "" then 0 else 2 := by
    unfold packageLines
    split <;> rfl
  have hbefore : d.linesBefore.length
      = 14 + d.properties.length + (packageLines d.packageName).length := by
    unfold linesBefore constructorLines
    simp only [List.length_append, length_parameterLines]
    show _ + 6 + 1 + 3 + (1 + _ + 3) = _
    omega
  have hbehind : d.linesBehind.length = 63 := by
    unfold linesBehind
    cases d.rawMap <;> rfl
  unfold lines
  rw [List.length_append, List.length_append, List.length_map, hbefore, hbehind, hpackage]
  omega

/-! ## Other keys -/

/-- The class without its keys. -/
def withoutKeys (d : ClassDescriptor) : ClassDescriptor :=
  { d with properties := d.properties.map fun p => { p with key := "" } }

/-- Two lines are the same, or both put an entry. -/
def SameButEntry (l k : String) : Prop := l = k ∨ isEntryLine l = true ∧ isEntryLine k = true

theorem parameterLines_withoutKeys (ps : List PropertySpec) :
    parameterLines (ps.map fun p => { p with key := "" }) = parameterLines ps := by
  fun_induction parameterLines ps with
  | case1 => rfl
  | case2 p => rfl
  | case3 p q rest ih => exact congrArg _ ih

theorem linesBefore_withoutKeys : d.withoutKeys.linesBefore = d.linesBefore := by
  have hsuper : superLine d.withoutKeys.properties = superLine d.properties := by
    unfold superLine withoutKeys
    rw [List.map_map]
    rfl
  unfold linesBefore constructorLines
  rw [hsuper]
  show _ ++ (_ ++ parameterLines (d.properties.map fun p => { p with key := "" }) ++ _) = _
  rw [parameterLines_withoutKeys]
  rfl

/-- The lines of a class with other keys are the same but for the entries. -/
theorem sameButEntry_lines (h : d.withoutKeys = d'.withoutKeys) :
    List.Forall₂ SameButEntry d.lines d'.lines := by
  have hbefore : d.linesBefore = d'.linesBefore := by
    rw [← linesBefore_withoutKeys, h, linesBefore_withoutKeys]
  have hbehind : d.linesBehind = d'.linesBehind := by
    have hraw : d.rawMap = d'.rawMap := congrArg (fun d => d.rawMap) h
    rw [linesBehind, hraw, linesBehind]
  have hlength : d.properties.length = d'.properties.length := by
    simpa [withoutKeys] using congrArg (fun d => d.properties.length) h
  have hsame (ls : List String) : List.Forall₂ SameButEntry ls ls :=
    List.forall₂_same.2 fun l _ => .inl rfl
  have hputs : List.Forall₂ SameButEntry (d.properties.map putLine)
      (d'.properties.map putLine) := by
    refine List.forall₂_iff_zip.2 ⟨by simp [hlength], fun hmem => .inr ?_⟩
    obtain ⟨hl, hk⟩ := List.of_mem_zip hmem
    obtain ⟨p, -, rfl⟩ := List.mem_map.1 hl
    obtain ⟨q, -, rfl⟩ := List.mem_map.1 hk
    exact ⟨isEntryLine_putLine p, isEntryLine_putLine q⟩
  rw [lines, lines, hbefore, hbehind]
  exact List.rel_append (List.rel_append (hsame _) hputs) (hsame _)

/-- Keys have no say in whether the texts of a class are lines. -/
theorem oneLined_withoutKeys : d.withoutKeys.OneLined ↔ d.OneLined := by
  unfold OneLined withoutKeys
  rw [List.forall_mem_map]

/-! ## The entries -/

theorem entries_of_putLines {ps qs : List PropertySpec} (h : ps.map putLine = qs.map putLine) :
    ps.map (fun p => (p.key, p.value)) = qs.map fun p => (p.key, p.value) := by
  induction ps generalizing qs with
  | nil =>
    rw [List.map_eq_nil_iff.1 h.symm]
  | cons p ps ih =>
    obtain ⟨q, qs', rfl, hq, hrest⟩ := List.map_eq_cons_iff.1 h.symm
    obtain ⟨hkey, hvalue⟩ := putLine_inj hq
    rw [List.map_cons, List.map_cons, hkey, hvalue, ih hrest.symm]

/-- **The text tells the entries.** Of a class whose texts but for the keys are free of line ends,
the lines that begin and end like an entry are the entries, one for each property and in their
order, each of them says which key and which value it is about, and how many lines there are is a
matter of the number of properties and of whether there is a package. So two such classes with one
text have the same entries, and other keys give a text in which the other lines are as they were. -/
theorem entries_of_rendered (h : d.OneLined) :
    ∃ text, d.rendered = .ok text ∧
      (Text.lines text).filter isEntryLine = d.properties.map putLine ∧
      (Text.lines text).length
        = 78 + 2 * d.properties.length + (if d.packageName = "" then 0 else 2) ∧
      (∀ p q, putLine p = putLine q → p.key = q.key ∧ p.value = q.value) ∧
      (∀ d' : ClassDescriptor, d'.OneLined → d'.rendered = .ok text →
        d'.properties.map (fun p => (p.key, p.value))
          = d.properties.map fun p => (p.key, p.value)) ∧
      ∀ d' : ClassDescriptor, d'.withoutKeys = d.withoutKeys →
        ∃ text', d'.rendered = .ok text' ∧
          List.Forall₂ SameButEntry (Text.lines text) (Text.lines text') := by
  refine ⟨_, rendered_eq d, ?_, ?_, fun p q => putLine_inj, fun d' h' htext => ?_,
    fun d' hkeys => ?_⟩
  · rw [lines_text h]
    exact filter_lines h
  · rw [lines_text h, List.length_append, length_lines, List.length_singleton]
    omega
  · have hlines : d'.lines ++ [""] = d.lines ++ [""] := by
      rw [rendered_eq] at htext
      rw [← lines_text h', ← lines_text h, Except.ok.inj htext]
    -- the two classes put the same lines, since these are the ones that look like entries
    refine entries_of_putLines ?_
    rw [← filter_lines h', ← filter_lines h, hlines]
  · have h' : d'.OneLined := by
      rw [← oneLined_withoutKeys, hkeys]
      exact oneLined_withoutKeys.2 h
    refine ⟨_, rendered_eq d', ?_⟩
    rw [lines_text h, lines_text h']
    exact List.rel_append (sameButEntry_lines hkeys.symm) (List.forall₂_same.2 fun l _ => .inl rfl)

/-- A class with a key that would go on to put another entry. -/
def forging : ClassDescriptor where
  packageName := ""
  className := "C"
  typeParameters := ""
  superclassName := "S"
  isFinal := true
  rawMap := false
  properties :=
    [⟨"a\", 1);\n    $entries.put(\"b", "x", "int", "x", ""⟩, ⟨"c", "y", "T", "f(\", \", y)", ""⟩]

/-- The same class with harmless keys. -/
def harmless : ClassDescriptor :=
  { forging with
    properties := [⟨"a", "x", "int", "x", ""⟩, ⟨"b", "y", "T", "f(\", \", y)", ""⟩] }

theorem entries_of_rendered_forging :
    forging.OneLined ∧ harmless.withoutKeys = forging.withoutKeys ∧
    ∃ text, forging.rendered = .ok text ∧
      (Text.lines text).filter isEntryLine =
        ["    $entries.put(\"a\\\", 1);\\n    $entries.put(\\\"b\", x);",
         "    $entries.put(\"c\", f(\", \", y));"] ∧
      (Text.lines text).length = 82 ∧
      ∃ text', harmless.rendered = .ok text' ∧
        List.Forall₂ SameButEntry (Text.lines text) (Text.lines text') := by
  have hlined : forging.OneLined := by decide
  have hkeys : harmless.withoutKeys = forging.withoutKeys := rfl
  obtain ⟨text, htext, hlines, hcount, -, -, hsame⟩ := entries_of_rendered hlined
  refine ⟨hlined, hkeys, text, htext, ?_, hcount, hsame harmless hkeys⟩
  rw [hlines]
  rfl

end ClassDescriptor
end MapBacked
