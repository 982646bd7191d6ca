import MapBacked.Proofs.ClassText.Lines
import MapBacked.Proofs.Java.Literal

/-!
# Lines that put an entry

A line that puts an entry is known by how it begins and ends (`isEntryLine`), and it says which key
and which value it is about (`putLine_inj`). No other line of a class looks like one, whatever the
texts in it are: those with a fixed front have another one than entries do, and the one that begins
with nothing but blanks in front of a name ends otherwise (`quiet_constructorLine`).

Keys may be any text: a key stays in its literal, and a literal has no line end in it. The other
texts are written as they are and are asked to have none either (`ClassDescriptor.OneLined`).
-/

namespace MapBacked

open ClassText

/-! ## Lines that put an entry -/

namespace ClassText

/-- How a line begins that puts an entry. -/
def opening : List Char := "    $entries.put(".toList

/-- How a line ends that puts an entry. -/
def closing : List Char := ");".toList

/-- Whether a line begins and ends like one that puts an entry. -/
def isEntryLine (l : String) : Bool := opening.isPrefixOf l.toList && closing.isSuffixOf l.toList

theorem toList_putLine (p : PropertySpec) : (putLine p).toList
    = opening ++ ((Text.literal p.key).toList ++ (", ".toList ++ (p.value.toList ++ closing))) := by
  unfold putLine opening closing
  simp only [String.toList_append, List.append_assoc]

theorem isEntryLine_putLine (p : PropertySpec) : isEntryLine (putLine p) = true := by
  rw [isEntryLine, toList_putLine, Bool.and_eq_true, List.isPrefixOf_iff_prefix,
    List.isSuffixOf_iff_suffix]
  refine ⟨List.prefix_append _ _, ?_⟩
  simp only [← List.append_assoc]
  exact List.suffix_append _ _

/-- **A line that puts an entry says which one.** -/
theorem putLine_inj {p q : PropertySpec} (h : putLine p = putLine q) :
    p.key = q.key ∧ p.value = q.value := by
  have hlist : (putLine p).toList = (putLine q).toList := by rw [h]
  rw [toList_putLine, toList_putLine, List.append_cancel_left_eq] at hlist
  obtain ⟨hkey, hrest⟩ := Java.literal_append_inj hlist
  rw [List.append_cancel_left_eq, List.append_cancel_right_eq] at hrest
  exact ⟨hkey, String.toList_inj.1 hrest⟩

/-- A key may contain line ends, the line that puts it does not. -/
theorem not_mem_putLine {p : PropertySpec} (h : '\n' ∉ p.value.toList) :
    '\n' ∉ (putLine p).toList := by
  have hkey : '\n' ∉ (Text.literal p.key).toList := fun hmem =>
    absurd (Text.isControl_literal hmem) (by decide)
  have hopening : '\n' ∉ opening := by decide
  have hclosing : '\n' ∉ closing := by decide
  have hcomma : '\n' ∉ ", ".toList := by decide
  rw [toList_putLine]
  simp only [List.mem_append, not_or]
  exact ⟨hopening, hkey, hcomma, h, hclosing⟩

/-! ## The other lines -/

/-- A line that is one line and does not look like one that puts an entry. -/
def Quiet (l : String) : Prop := '\n' ∉ l.toList ∧ isEntryLine l = false

theorem isEntryLine_eq_false {l : String} (h : opening.isPrefixOf l.toList = false) :
    isEntryLine l = false := by
  rw [isEntryLine, h, Bool.false_and]

/-- A fixed line that begins in another way than an entry. -/
theorem quiet_ofList {cs : List Char} (hcs : '\n' ∉ cs) (h : opening.isPrefixOf cs = false) :
    Quiet (String.ofList cs) := by
  constructor
  · rw [String.toList_ofList]
    exact hcs
  · refine isEntryLine_eq_false ?_
    rw [String.toList_ofList]
    exact h

theorem quiet_empty : Quiet "" := ⟨List.not_mem_nil, rfl⟩

/-- A line with a fixed front that is another one than that of an entry. -/
theorem quiet_append {cs : List Char} {back : String} (hcs : '\n' ∉ cs) (hb : '\n' ∉ back.toList)
    (h : opening.isPrefixOf (cs ++ back.toList) = false) : Quiet (String.ofList cs ++ back) := by
  constructor
  · rw [String.toList_append, String.toList_ofList]
    exact fun hmem => (List.mem_append.1 hmem).elim hcs hb
  · refine isEntryLine_eq_false ?_
    rw [String.toList_append, String.toList_ofList]
    exact h

theorem quiet_reading {call : List Char} (h : '\n' ∉ call) :
    Quiet ("    " ++ reading (String.ofList call)) := by
  unfold reading
  refine quiet_append (by decide) ?_ ?_
  · simp [h]
  · simp only [String.toList_append]
    rfl

theorem quiet_refusing : Quiet ("    " ++ refusing) := by
  refine quiet_append (by decide) ?_ rfl
  unfold refusing
  rw [String.toList_ofList]
  decide

/-- A member of the map contract is quiet if its statement is. -/
theorem quiet_memberLines {signature : List Char} {statement : String} (h : '\n' ∉ signature)
    (hs : Quiet ("    " ++ statement)) :
    ∀ l ∈ memberLines (String.ofList signature) statement, Quiet l := by
  intro l hl
  simp only [memberLines, List.mem_cons, List.not_mem_nil, or_false] at hl
  rcases hl with rfl | rfl | rfl | rfl | rfl
  · exact quiet_empty
  · exact quiet_ofList (by decide) rfl
  · rw [String.append_assoc]
    refine quiet_append (by decide) ?_ ?_
    · simp [h]
    · rfl
  · exact hs
  · exact quiet_ofList (by decide) rfl

/-- A member that refuses its call, with a signature that depends on the usage. -/
theorem quiet_refusingLines {raw : Bool} {yes no : List Char} (hyes : '\n' ∉ yes)
    (hno : '\n' ∉ no) :
    ∀ l ∈ memberLines (if raw then String.ofList yes else String.ofList no) refusing, Quiet l := by
  cases raw with
  | true => exact quiet_memberLines hyes quiet_refusing
  | false => exact quiet_memberLines hno quiet_refusing

/-- No line of the map contract puts an entry. -/
theorem quiet_contractLines (raw : Bool) : ∀ l ∈ contractLines raw, Quiet l := by
  unfold contractLines putSignature putAllSignature
  simp only [List.forall_mem_append, and_assoc]
  refine ⟨?size, ?isEmpty, ?containsKey, ?containsValue, ?get, ?put, ?remove, ?putAll, ?clear,
    ?keySet, ?values, ?entrySet⟩
  case put | putAll => exact quiet_refusingLines (by decide) (by decide)
  case remove | clear => exact quiet_memberLines (by decide) quiet_refusing
  -- the others read the store
  all_goals exact quiet_memberLines (by decide) (quiet_reading (by decide))

/-- No parameter of the constructor puts an entry. -/
theorem quiet_parameterLines {ps : List PropertySpec}
    (h : ∀ p ∈ ps, ∀ s ∈ [p.nullable, p.type, p.name], '\n' ∉ s.toList) :
    ∀ l ∈ parameterLines ps, Quiet l := by
  have hparameter {p : PropertySpec} {tail : String} (hp : p ∈ ps) (ht : '\n' ∉ tail.toList) :
      Quiet (parameter p ++ tail) := by
    obtain ⟨hnullable, htype, hname⟩ : '\n' ∉ p.nullable.toList ∧ '\n' ∉ p.type.toList ∧
        '\n' ∉ p.name.toList := by simpa using h p hp
    unfold parameter
    simp only [String.append_assoc]
    refine quiet_append (by decide) ?_ rfl
    simp [hnullable, htype, hname, ht]
  fun_induction parameterLines ps with
  | case1 => exact List.forall_mem_nil _
  | case2 p =>
    intro l hl
    rw [List.mem_singleton.1 hl, ← String.append_empty (s := parameter p)]
    exact hparameter List.mem_cons_self (by simp)
  | case3 p q rest ih =>
    intro l hl
    rcases List.mem_cons.1 hl with rfl | hl
    · exact hparameter List.mem_cons_self (by decide)
    · exact ih (fun p hp => h p (List.mem_cons_of_mem _ hp))
        (fun hp => hparameter (List.mem_cons_of_mem _ hp)) l hl

theorem quiet_constructorLine {name : String} (h : '\n' ∉ name.toList) :
    Quiet ("  " ++ name ++ "(") := by
  constructor
  · simp [h]
  · -- the name may make the line begin like an entry, but the line ends with a bracket
    have hend : closing.isSuffixOf (("  " ++ name).toList ++ "(".toList) = false := by
      rw [List.isSuffixOf, List.reverse_append]
      rfl
    rw [isEntryLine, String.toList_append, hend, Bool.and_false]

theorem quiet_superLine {ps : List PropertySpec} (h : ∀ p ∈ ps, '\n' ∉ p.name.toList) :
    Quiet (superLine ps) := by
  have hnames : '\n' ∉ (Text.separated ", " (ps.map PropertySpec.name)).toList := by
    refine Text.not_mem_separated (by decide) fun l hl => ?_
    obtain ⟨p, hp, rfl⟩ := List.mem_map.1 hl
    exact h p hp
  unfold superLine
  rw [String.append_assoc]
  refine quiet_append (by decide) ?_ rfl
  simp [hnames]

theorem quiet_headLine {d : ClassDescriptor}
    (h : ∀ s ∈ [d.className, d.typeParameters, d.superclassName], '\n' ∉ s.toList) :
    Quiet (headLine d) := by
  obtain ⟨hclass, hparameters, hsuper⟩ : '\n' ∉ d.className.toList ∧
      '\n' ∉ d.typeParameters.toList ∧ '\n' ∉ d.superclassName.toList := by simpa using h
  unfold headLine
  simp only [String.append_assoc]
  cases d.isFinal with
  | true =>
    refine quiet_append (by decide) ?_ rfl
    simp [hclass, hparameters, hsuper]
  | false =>
    refine quiet_append (by decide) ?_ rfl
    simp [hclass, hparameters, hsuper]

theorem quiet_importLines : ∀ l ∈ importLines, Quiet l := by
  unfold importLines
  simp only [List.forall_mem_cons]
  refine ⟨?_, ?_, ?_, ?_, ?_, quiet_empty, List.forall_mem_nil _⟩
  all_goals exact quiet_ofList (by decide) rfl

theorem quiet_storeLines : ∀ l ∈ storeLines, Quiet l := by
  unfold storeLines
  simp only [List.forall_mem_cons]
  exact ⟨quiet_empty, quiet_ofList (by decide) rfl, quiet_empty, List.forall_mem_nil _⟩

theorem quiet_packageLines {name : String} (h : '\n' ∉ name.toList) :
    ∀ l ∈ packageLines name, Quiet l := by
  unfold packageLines
  split
  · exact List.forall_mem_nil _
  · intro l hl
    rcases List.mem_cons.1 hl with rfl | hl
    · rw [String.append_assoc]
      refine quiet_append (by decide) ?_ rfl
      simp [h]
    · rw [List.mem_singleton.1 hl]
      exact quiet_empty

end ClassText

/-! ## Classes whose texts are lines -/

/-- No text that is written into the class as it is contains a line end. Keys may contain some. -/
def ClassDescriptor.OneLined (d : ClassDescriptor) : Prop :=
  (∀ s ∈ [d.packageName, d.className, d.typeParameters, d.superclassName], '\n' ∉ s.toList) ∧
  ∀ p ∈ d.properties, ∀ s ∈ [p.nullable, p.type, p.name, p.value], '\n' ∉ s.toList

namespace ClassDescriptor

variable {d : ClassDescriptor}

instance : Decidable d.OneLined := inferInstanceAs (Decidable (_ ∧ _))

theorem quiet_constructorLines (h : d.OneLined) : ∀ l ∈ constructorLines d, Quiet l := by
  obtain ⟨hd, hp⟩ := h
  have hclass : '\n' ∉ d.className.toList := hd _ (by simp)
  have hparameters := quiet_parameterLines fun p hmem s hs =>
    hp p hmem s (List.mem_append_left [p.value] hs)
  have hnames : ∀ p ∈ d.properties, '\n' ∉ p.name.toList := fun p hmem => hp p hmem _ (by simp)
  unfold constructorLines
  simp only [List.forall_mem_append, List.forall_mem_cons]
  exact ⟨⟨⟨quiet_constructorLine hclass, List.forall_mem_nil _⟩, hparameters⟩,
    quiet_ofList (by decide) rfl, quiet_superLine hnames, quiet_ofList (by decide) rfl,
    List.forall_mem_nil _⟩

/-- **No line in front of the entries looks like one of them.** -/
theorem quiet_linesBefore (h : d.OneLined) : ∀ l ∈ d.linesBefore, Quiet l := by
  have hpackage : '\n' ∉ d.packageName.toList := h.1 _ (by simp)
  have hhead : Quiet (headLine d) :=
    quiet_headLine fun s hs => h.1 s (List.mem_cons_of_mem _ hs)
  unfold linesBefore
  simp only [List.forall_mem_append, List.forall_mem_singleton]
  exact ⟨⟨⟨⟨quiet_packageLines hpackage, quiet_importLines⟩, hhead⟩, quiet_storeLines⟩,
    quiet_constructorLines h⟩

/-- No line behind the entries looks like one of them. -/
theorem quiet_linesBehind : ∀ l ∈ d.linesBehind, Quiet l := by
  unfold linesBehind storingLines
  simp only [List.forall_mem_append, List.forall_mem_cons]
  exact ⟨⟨⟨quiet_ofList (by decide) rfl, quiet_ofList (by decide) rfl, List.forall_mem_nil _⟩,
    quiet_contractLines d.rawMap⟩, quiet_ofList (by decide) rfl, List.forall_mem_nil _⟩

end ClassDescriptor
end MapBacked
