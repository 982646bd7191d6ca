import MapBacked.Text.Space

/-!
# What trimming leaves

A text that begins and ends with signs that are not blank is `Edged`. Trimming leaves such a text as
it is, and makes one of any text that is more than blanks, by taking blanks away on the two sides
(`Trims`). No other text can be had in that way (`Trims.eq_trimmed`), so this says what trimming
does without saying how.
-/

namespace MapBacked.Text

/-- There is a first sign, and it is not blank. -/
def BeginsSolid (cs : List Char) : Prop := ∃ c ∈ cs.head?, isSpace c = false

/-- The text begins and ends with signs that are not blank. -/
structure Edged (s : String) : Prop where
  front : BeginsSolid s.toList
  back : BeginsSolid s.toList.reverse

/-- The second text is edged, and is the first one without blanks on its two sides. -/
def Trims (s k : String) : Prop :=
  Edged k ∧ ∃ front back : List Char, s.toList = front ++ k.toList ++ back ∧
    (∀ c ∈ front, isSpace c = true) ∧ ∀ c ∈ back, isSpace c = true

/-! ## Edged texts -/

theorem BeginsSolid.append {cs : List Char} (h : BeginsSolid cs) (ds : List Char) :
    BeginsSolid (cs ++ ds) := by
  obtain ⟨c, hc, hspace⟩ := h
  refine ⟨c, ?_, hspace⟩
  rw [List.head?_append, Option.mem_def.1 hc]
  rfl

theorem BeginsSolid.of_forall {cs : List Char} (hne : cs ≠ [])
    (h : ∀ c ∈ cs, isSpace c = false) : BeginsSolid cs :=
  ⟨cs.head hne, List.head?_eq_some_head hne, h _ (List.head_mem hne)⟩

theorem edged_append {s t : String} (hs : BeginsSolid s.toList)
    (ht : BeginsSolid t.toList.reverse) : Edged (s ++ t) := by
  constructor
  · rw [String.toList_append]
    exact hs.append _
  · rw [String.toList_append, List.reverse_append]
    exact ht.append _

theorem Edged.ne_empty {s : String} (h : Edged s) : s ≠ "" := by
  rintro rfl
  obtain ⟨c, hc, -⟩ := h.front
  cases hc

theorem Edged.not_blank {s : String} (h : Edged s) : ¬ ∀ c ∈ s.toList, isSpace c = true := by
  intro hblank
  obtain ⟨c, hc, hspace⟩ := h.front
  rw [hblank c (List.mem_of_mem_head? hc)] at hspace
  cases hspace

theorem isSpace_of_isDigit {c : Char} (h : c.isDigit = true) : isSpace c = false := by
  have hdigit : 48 ≤ c.toNat ∧ c.toNat ≤ 57 := by
    simp only [Char.isDigit, Bool.and_eq_true, decide_eq_true_eq] at h
    exact h
  rw [isSpace, ← Bool.not_eq_true, isWithin_iff]
  rintro ⟨r, hr, hfirst, hlast⟩
  simp only [spaceRanges, List.mem_cons, List.not_mem_nil, or_false] at hr
  rcases hr with rfl | rfl | rfl | rfl | rfl | rfl | rfl | rfl | rfl | rfl
  all_goals omega

theorem edged_repr (n : Nat) : Edged n.repr := by
  have hne : n.repr.toList ≠ [] := by
    rw [Nat.toList_repr]
    exact Nat.toDigits_ne_nil
  have hdigit : ∀ c ∈ n.repr.toList, isSpace c = false := by
    intro c hc
    rw [Nat.toList_repr] at hc
    exact isSpace_of_isDigit (Nat.isDigit_of_mem_toDigits (by decide) (by decide) hc)
  constructor
  · exact .of_forall hne hdigit
  · apply BeginsSolid.of_forall
    · intro hnil
      exact hne (List.reverse_eq_nil_iff.1 hnil)
    · intro c hc
      exact hdigit c (List.mem_reverse.1 hc)

/-! ## Trimming -/

theorem trimStart_append {front cs : List Char} (h : ∀ c ∈ front, isSpace c = true) :
    trimStart (front ++ cs) = trimStart cs := by
  induction front with
  | nil => rfl
  | cons c front ih =>
    have hc : isSpace c = true := h c List.mem_cons_self
    have hfront := ih fun d hd => h d (List.mem_cons_of_mem _ hd)
    rw [← hfront]
    simp [trimStart, hc]

theorem BeginsSolid.trimStart_eq {cs : List Char} (h : BeginsSolid cs) : trimStart cs = cs := by
  obtain ⟨c, hc, hspace⟩ := h
  cases cs with
  | nil => cases hc
  | cons d cs =>
    obtain rfl := Option.mem_some_iff.1 hc
    exact trimStart_cons hspace cs

/-- Blanks on the two sides of an edged text are taken away, and nothing else. -/
theorem Trims.eq_trimmed {s k : String} (h : Trims s k) : k = trimmed s := by
  obtain ⟨hk, front, back, hs, hfront, hback⟩ := h
  have hback' : ∀ c ∈ back.reverse, isSpace c = true := by
    intro c hc
    exact hback c (List.mem_reverse.1 hc)
  have hstart : trimStart s.toList = k.toList ++ back := by
    rw [hs, List.append_assoc, trimStart_append hfront, (hk.front.append back).trimStart_eq]
  have htrim : trim s.toList = k.toList := by
    rw [trim, hstart, trimEnd, List.reverse_append, trimStart_append hback', hk.back.trimStart_eq,
      List.reverse_reverse]
  rw [trimmed, htrim, String.ofList_toList]

theorem Edged.trimmed_eq {s : String} (h : Edged s) : trimmed s = s :=
  (Trims.eq_trimmed ⟨h, [], [], by simp, by simp, by simp⟩).symm

theorem exists_trimStart (cs : List Char) :
    ∃ front, cs = front ++ trimStart cs ∧ ∀ c ∈ front, isSpace c = true := by
  refine ⟨cs.takeWhile isSpace, List.takeWhile_append_dropWhile.symm, ?_⟩
  intro c hc
  exact List.all_eq_true.1 List.all_takeWhile c hc

theorem edged_trimmed {s : String} (h : ¬ ∀ c ∈ s.toList, isSpace c = true) :
    Edged (trimmed s) := by
  have hne : trim s.toList ≠ [] := fun hnil => h (trim_eq_nil_iff.1 hnil)
  constructor
  · rw [trimmed, String.toList_ofList]
    have hhead := List.head?_eq_some_head hne
    exact ⟨_, hhead, isSpace_of_mem_head?_trim hhead⟩
  · rw [trimmed, String.toList_ofList, BeginsSolid, List.head?_reverse]
    have hlast := List.getLast?_eq_some_getLast hne
    exact ⟨_, hlast, isSpace_of_mem_getLast?_trim hlast⟩

/-- A text that is more than blanks is trimmed. -/
theorem trims_trimmed {s : String} (h : ¬ ∀ c ∈ s.toList, isSpace c = true) :
    Trims s (trimmed s) := by
  obtain ⟨front, hfront, hfrontBlank⟩ := exists_trimStart s.toList
  obtain ⟨back, hback, hbackBlank⟩ := exists_trimStart (trimStart s.toList).reverse
  have hmiddle : trimStart s.toList = trim s.toList ++ back.reverse := by
    rw [trim, trimEnd, ← List.reverse_append, ← hback, List.reverse_reverse]
  refine ⟨edged_trimmed h, front, back.reverse, ?_, hfrontBlank, ?_⟩
  · rw [trimmed, String.toList_ofList, List.append_assoc, ← hmiddle]
    exact hfront
  · intro c hc
    exact hbackBlank c (List.mem_reverse.1 hc)

end MapBacked.Text
