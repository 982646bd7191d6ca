import MapBacked.Text.Range

/-!
# White space

Which characters count as blank, and trimming. A key written on a marker is used without the
blanks around it, and a key that is nothing but blanks is no key at all, so "blank" has to mean
one thing everywhere. It means the Unicode property `White_Space`: the ASCII blanks, the next-line
control and the no-break and typographic spaces. Core's `Char.isWhitespace` stops at ASCII and
leaves out two of its controls, so it is not used.

Main statements: trimming a second time changes nothing (`trim_trim`), a text trims to nothing
exactly when it is all blank (`trim_eq_nil_iff`), and what is left of another starts and ends with a
sign that is not blank (`isSpace_of_mem_head?_trim`, `isSpace_of_mem_getLast?_trim`).
-/

namespace MapBacked.Text

/-- The ranges of the Unicode property `White_Space`, both ends included. -/
def spaceRanges : List (Nat × Nat) :=
  [(0x09, 0x0d), (0x20, 0x20), (0x85, 0x85), (0xa0, 0xa0), (0x1680, 0x1680),
   (0x2000, 0x200a), (0x2028, 0x2029), (0x202f, 0x202f), (0x205f, 0x205f), (0x3000, 0x3000)]

/-- Whether the character has the property `White_Space`. -/
def isSpace (c : Char) : Bool := isWithin spaceRanges c

def trimStart (cs : List Char) : List Char := cs.dropWhile isSpace

def trimEnd (cs : List Char) : List Char := (trimStart cs.reverse).reverse

def trim (cs : List Char) : List Char := trimEnd (trimStart cs)

/-- What is left after trimming the front is empty or starts with a non-blank. -/
theorem trimStart_eq_nil_or (cs : List Char) :
    trimStart cs = [] ∨ ∃ c r, trimStart cs = c :: r ∧ isSpace c = false := by
  induction cs with
  | nil => exact .inl rfl
  | cons c r ih =>
    by_cases h : isSpace c
    · simpa [trimStart, h] using ih
    · exact .inr ⟨c, r, by simp [trimStart, h], by simpa using h⟩

/-- A text that starts with a non-blank keeps its front. -/
theorem trimStart_cons {c : Char} (h : isSpace c = false) (r : List Char) :
    trimStart (c :: r) = c :: r := by
  simp [trimStart, h]

@[simp] theorem trimStart_nil : trimStart [] = [] := rfl

@[simp] theorem trimEnd_nil : trimEnd [] = [] := rfl

theorem trimStart_trimStart (cs : List Char) : trimStart (trimStart cs) = trimStart cs := by
  rcases trimStart_eq_nil_or cs with h | ⟨c, r, h, hc⟩
  · rw [h]; rfl
  · rw [h, trimStart_cons hc]

theorem trimStart_eq_nil_iff {cs : List Char} :
    trimStart cs = [] ↔ ∀ c ∈ cs, isSpace c = true := by
  induction cs with
  | nil => simp [trimStart]
  | cons c r ih =>
    by_cases h : isSpace c
    · rw [show trimStart (c :: r) = trimStart r by simp [trimStart, h], ih]
      simp [h]
    · simp [trimStart, h]

/-- Cutting blanks off the back of a text with a non-blank front keeps that front. -/
theorem trimEnd_cons {c : Char} (h : isSpace c = false) (r : List Char) :
    trimEnd (c :: r) = c :: trimEnd r := by
  have key : ∀ xs : List Char, trimStart (xs ++ [c]) = trimStart xs ++ [c] := by
    intro xs
    induction xs with
    | nil => simp [trimStart, h]
    | cons x xs ih =>
      by_cases hx : isSpace x
      · simpa [trimStart, hx] using ih
      · simp [trimStart, hx]
  simp [trimEnd, key]

theorem trimEnd_trimEnd (cs : List Char) : trimEnd (trimEnd cs) = trimEnd cs := by
  simp [trimEnd, trimStart_trimStart]

/-- A text trims to nothing exactly when it is all blank. -/
theorem trim_eq_nil_iff {cs : List Char} : trim cs = [] ↔ ∀ c ∈ cs, isSpace c = true := by
  rw [← trimStart_eq_nil_iff]
  rcases trimStart_eq_nil_or cs with h | ⟨c, r, h, hc⟩
  · simp [trim, h]
  · simp [trim, h, trimEnd_cons hc]

/-- Trimming a second time changes nothing. -/
theorem trim_trim (cs : List Char) : trim (trim cs) = trim cs := by
  rcases trimStart_eq_nil_or cs with h | ⟨c, r, h, hc⟩
  · simp [trim, h]
  · have : trim cs = c :: trimEnd r := by rw [trim, h, trimEnd_cons hc]
    rw [this, trim, trimStart_cons hc, trimEnd_cons hc, trimEnd_trimEnd]

/-- A trimmed text starts with a non-blank. -/
theorem isSpace_of_mem_head?_trim {cs : List Char} {c : Char} (h : c ∈ (trim cs).head?) :
    isSpace c = false := by
  rcases trimStart_eq_nil_or cs with hnil | ⟨d, r, hcons, hd⟩
  · simp [trim, hnil] at h
  · rw [trim, hcons, trimEnd_cons hd, List.head?_cons, Option.mem_some_iff] at h
    rw [← h, hd]

/-- A trimmed text ends with a non-blank. -/
theorem isSpace_of_mem_getLast?_trim {cs : List Char} {c : Char} (h : c ∈ (trim cs).getLast?) :
    isSpace c = false := by
  rw [trim, trimEnd, List.getLast?_reverse] at h
  rcases trimStart_eq_nil_or (trimStart cs).reverse with hnil | ⟨d, r, hcons, hd⟩
  · simp [hnil] at h
  · rw [hcons, List.head?_cons, Option.mem_some_iff] at h
    rw [← h, hd]

/-- The text without the blanks on both sides. -/
def trimmed (s : String) : String := String.ofList (trim s.toList)

/-- Whether nothing but blanks is there. -/
def isBlank (s : String) : Bool := s.toList.all isSpace

/-- Nothing but the empty text is left blank by trimming. -/
theorem isBlank_trimmed (s : String) : isBlank (trimmed s) = (trimmed s).isEmpty := by
  rw [Bool.eq_iff_iff, isBlank, List.all_eq_true, ← trim_eq_nil_iff, trimmed, String.toList_ofList,
    trim_trim]
  simp

end MapBacked.Text
