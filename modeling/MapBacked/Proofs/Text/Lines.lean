import MapBacked.Text.List

/-!
# Lines

A text made of lines has a line end behind each of them (`ofLines`). Where no line contains one,
splitting the text at the line ends gives the lines back, and an empty piece behind the last of them
(`split_ofLines`).
-/

namespace MapBacked.Text

/-- The text of lines, a line end behind each of them. -/
def ofLines (ls : List String) : String := String.ofList (ls.flatMap fun l => l.toList ++ ['\n'])

@[simp] theorem ofLines_nil : ofLines [] = "" := rfl

@[simp] theorem ofLines_cons (l : String) (ls : List String) :
    ofLines (l :: ls) = l ++ "\n" ++ ofLines ls := by
  rw [← String.toList_inj]
  simp [ofLines]

@[simp] theorem ofLines_append (ls ks : List String) :
    ofLines (ls ++ ks) = ofLines ls ++ ofLines ks := by
  rw [← String.toList_inj]
  simp [ofLines]

/-- The characters of a text whose first line is written out as a list of characters. -/
theorem toList_ofLines_cons (cs : List Char) (ls : List String) :
    (ofLines (String.ofList cs :: ls)).toList = cs ++ '\n' :: (ofLines ls).toList := by
  simp [ofLines]

/-- A line without a line end in it is the first piece of the text that goes on behind its end. -/
theorem split_append {c : Char} {cs : List Char} (h : c ∉ cs) (rest : List Char) :
    split c (cs ++ c :: rest) = cs :: split c rest := by
  induction cs with
  | nil => simp [split]
  | cons d cs ih =>
    have hd : d ≠ c := fun hd => h (by simp [hd])
    have hcs : c ∉ cs := fun hc => h (List.mem_cons_of_mem _ hc)
    rw [List.cons_append, split, if_neg hd, ih hcs]

theorem split_of_notMem {c : Char} {cs : List Char} (h : c ∉ cs) : split c cs = [cs] := by
  induction cs with
  | nil => rfl
  | cons d cs ih =>
    have hd : d ≠ c := fun hd => h (by simp [hd])
    have hcs : c ∉ cs := fun hc => h (List.mem_cons_of_mem _ hc)
    rw [split, if_neg hd, ih hcs]

/-- There is a first piece. -/
theorem exists_split_eq_cons (c : Char) (cs : List Char) :
    ∃ piece rest, split c cs = piece :: rest := by
  fun_induction split c cs with
  | case1 => exact ⟨[], [], rfl⟩
  | case2 cs ih => exact ⟨[], _, rfl⟩
  | case3 d cs hd hnil ih => exact ⟨[d], [], rfl⟩
  | case4 d cs hd piece rest hcons ih => exact ⟨d :: piece, rest, rfl⟩

/-- What stands on the two sides of a separator is split on its own. -/
theorem split_append_split (c : Char) (cs ds : List Char) :
    split c (cs ++ c :: ds) = split c cs ++ split c ds := by
  induction cs with
  | nil => simp [split]
  | cons d cs ih =>
    obtain ⟨piece, rest, hcs⟩ := exists_split_eq_cons c cs
    rw [List.cons_append, split, split, ih, hcs]
    split
    · rfl
    · rfl

/-- **The lines come back.** -/
theorem split_ofLines {ls : List String} (h : ∀ l ∈ ls, '\n' ∉ l.toList) :
    split '\n' (ofLines ls).toList = ls.map String.toList ++ [[]] := by
  induction ls with
  | nil => rfl
  | cons l ls ih =>
    have hl : '\n' ∉ l.toList := h l List.mem_cons_self
    have hls : ∀ k ∈ ls, '\n' ∉ k.toList := fun k hk => h k (List.mem_cons_of_mem _ hk)
    rw [ofLines_cons, String.toList_append, String.toList_append, List.append_assoc]
    show split '\n' (l.toList ++ '\n' :: (ofLines ls).toList) = _
    rw [split_append hl, ih hls]
    rfl

/-- The pieces of a text between its line ends. -/
def lines (s : String) : List String := (split '\n' s.toList).map String.ofList

theorem lines_ofLines {ls : List String} (h : ∀ l ∈ ls, '\n' ∉ l.toList) :
    lines (ofLines ls) = ls ++ [""] := by
  rw [lines, split_ofLines h, List.map_append, List.map_map]
  have hid : (String.ofList ∘ String.toList) = id := funext fun s => String.ofList_toList
  rw [hid, List.map_id]
  rfl

/-- The lines of a text come behind those of whatever is put in front of it. -/
theorem suffix_lines_append (ks ls : List String) :
    lines (ofLines ls) <:+ lines (ofLines (ks ++ ls)) := by
  induction ks with
  | nil => exact List.suffix_refl _
  | cons k ks ih =>
    have hsplit : lines (ofLines (k :: ks ++ ls)) = lines k ++ lines (ofLines (ks ++ ls)) := by
      rw [List.cons_append, ofLines_cons, lines, String.toList_append, String.toList_append,
        List.append_assoc]
      show (split '\n' (k.toList ++ '\n' :: (ofLines (ks ++ ls)).toList)).map String.ofList = _
      rw [split_append_split, List.map_append]
      rfl
    rw [hsplit]
    exact ih.trans (List.suffix_append _ _)

/-- Texts in a row have the characters of the texts and of the separator. -/
theorem not_mem_separated {c : Char} {sep : String} {ls : List String} (hsep : c ∉ sep.toList)
    (h : ∀ l ∈ ls, c ∉ l.toList) : c ∉ (separated sep ls).toList := by
  fun_induction separated sep ls with
  | case1 => exact List.not_mem_nil
  | case2 l => exact h l List.mem_cons_self
  | case3 l k rest ih =>
    have hl : c ∉ l.toList := h l List.mem_cons_self
    have hrest := ih fun m hm => h m (List.mem_cons_of_mem _ hm)
    simp only [String.toList_append, List.mem_append, not_or]
    exact ⟨⟨hl, hsep⟩, hrest⟩

end MapBacked.Text
