import MapBacked.Path
import MapBacked.Proofs.Text.Lines

/-!
# The parts of a path

A path is kept as it is spelled, and a place has many spellings: a slash may be doubled or stand at
the end, and a dot may stand between two slashes. `Path.parts` is what such spellings share.

The operations on paths work on the spelling. This file says what they do to the parts. Joining puts
the parts of the second path behind those of the first (`Path.parts_join`), and taking the parent
drops the last part (`Path.parts_of_parent?`). So the parts of what is joined to a path depend on the
parts of that path alone (`Path.parts_join_congr`), with one case to be careful about: nothing is
put in front of what is joined to the empty path, so that a dot at its very front stays a part.
-/

namespace MapBacked.Path

/-! ## Parts -/

/-- The pieces between the slashes, without those that count for nothing. -/
def pieces (cs : List Char) : List (List Char) := (Text.split '/' cs).filter counts

/-- What else opens a path: the root, or a dot at the very front. -/
def opening (cs : List Char) : List (List Char) :=
  if cs.head? = some '/' then [['/']]
  else if (Text.split '/' cs).head? = some ['.'] then [['.']]
  else []

def partsOf (cs : List Char) : List (List Char) := opening cs ++ pieces cs

/-- The parts of a path. -/
def parts (p : Path) : List (List Char) := partsOf p.text.toList

variable {cs ds : List Char}

theorem pieces_append_slash (cs ds : List Char) :
    pieces (cs ++ '/' :: ds) = pieces cs ++ pieces ds := by
  rw [pieces, Text.split_append_split, List.filter_append, pieces, pieces]

theorem pieces_slash (cs : List Char) : pieces ('/' :: cs) = pieces cs := pieces_append_slash [] cs

theorem pieces_of_notMem (h : '/' ∉ cs) : pieces cs = if counts cs then [cs] else [] := by
  rw [pieces, Text.split_of_notMem h]
  cases hc : counts cs <;> simp [hc]

/-- Nothing behind a slash changes how a path is opened, unless the slash is the root. -/
theorem opening_append_slash (h : cs ≠ []) (ds : List Char) :
    opening (cs ++ '/' :: ds) = opening cs := by
  obtain ⟨piece, rest, hsplit⟩ := Text.exists_split_eq_cons '/' cs
  obtain ⟨c, cs', rfl⟩ := List.exists_cons_of_ne_nil h
  rw [opening, opening, Text.split_append_split, hsplit]
  rfl

theorem partsOf_slash (cs : List Char) : partsOf ('/' :: cs) = ['/'] :: pieces cs := by
  rw [partsOf, pieces_slash]
  rfl

theorem partsOf_append_slash (h : cs ≠ []) (ds : List Char) :
    partsOf (cs ++ '/' :: ds) = partsOf cs ++ pieces ds := by
  rw [partsOf, opening_append_slash h, pieces_append_slash, partsOf, List.append_assoc]

theorem pieces_nil : pieces [] = [] := rfl

theorem partsOf_dot : partsOf ['.'] = [['.']] := by decide

theorem partsOf_dot_slash (cs : List Char) : partsOf ('.' :: '/' :: cs) = ['.'] :: pieces cs := by
  have hdot : ['.'] ≠ [] := List.cons_ne_nil _ _
  rw [← List.singleton_append, partsOf_append_slash hdot, partsOf_dot]
  rfl

/-- The same with a slash that may be the root. -/
theorem partsOf_append_slash_root (cs ds : List Char) :
    partsOf (cs ++ '/' :: ds) = partsOf (cs ++ ['/']) ++ pieces ds := by
  by_cases h : cs = []
  · subst h
    rw [List.nil_append, List.nil_append, partsOf_slash, partsOf_slash, pieces_nil]
    rfl
  · rw [partsOf_append_slash h, partsOf_append_slash h, pieces_nil, List.append_nil]

theorem partsOf_cons_ne_nil (c : Char) (cs : List Char) : partsOf (c :: cs) ≠ [] := by
  by_cases hc : c = '/'
  · rw [hc, partsOf_slash]
    exact List.cons_ne_nil _ _
  · obtain ⟨piece, rest, hcs⟩ := Text.exists_split_eq_cons '/' cs
    have hsplit : Text.split '/' (c :: cs) = (c :: piece) :: rest := by
      rw [Text.split, if_neg hc, hcs]
    by_cases hdot : c :: piece = ['.']
    · have hopening : opening (c :: cs) = [['.']] := by
        rw [opening, hsplit, hdot, if_neg (by simpa using hc), List.head?_cons, if_pos rfl]
      rw [partsOf, hopening]
      exact List.cons_ne_nil _ _
    · have hpieces : pieces (c :: cs) = (c :: piece) :: rest.filter counts := by
        rw [pieces, hsplit, List.filter_cons_of_pos (by simp [counts, hdot])]
      rw [partsOf, hpieces]
      exact List.append_ne_nil_of_right_ne_nil _ (List.cons_ne_nil _ _)

/-- The empty path is the one without parts. -/
theorem partsOf_eq_nil_iff : partsOf cs = [] ↔ cs = [] := by
  cases cs with
  | nil => exact ⟨fun _ => rfl, fun _ => rfl⟩
  | cons c cs =>
    constructor
    · intro h
      exact absurd h (partsOf_cons_ne_nil c cs)
    · intro h
      cases h

/-! ## Joining -/

theorem joinChars_of_slash (h : ds.head? = some '/') : joinChars cs ds = ds := if_pos h

theorem partsOf_joinChars (h : ds.head? ≠ some '/') :
    partsOf (joinChars cs ds) = if cs = [] then partsOf ds else partsOf cs ++ pieces ds := by
  rw [joinChars, if_neg h]
  split
  · next hlast => rw [if_pos (List.getLast?_eq_none_iff.1 hlast)]
  · next c hlast =>
    obtain ⟨front, rfl⟩ := List.getLast?_eq_some_iff.1 hlast
    have hne : front ++ [c] ≠ [] := List.append_ne_nil_of_right_ne_nil _ (List.cons_ne_nil _ _)
    rw [if_neg hne]
    split
    · next hc =>
      -- the slash is there already, and it may be the root
      rw [hc, List.append_assoc, List.singleton_append, partsOf_append_slash_root]
    · rw [partsOf_append_slash hne]

/-! ## The parent -/

theorem counts_reverse (comp : List Char) : counts comp.reverse = counts comp := by
  have hdot : comp.reverse = ['.'] ↔ comp = ['.'] := by
    rw [List.reverse_eq_iff]
    rfl
  simp only [counts, ne_eq, List.reverse_eq_nil_iff, hdot]

theorem splitLast_slash (rev : List Char) : splitLast ('/' :: rev) = ([], rev) := by
  simp [splitLast]

theorem splitLast_cons {c : Char} (hc : c ≠ '/') (rev : List Char) :
    splitLast (c :: rev) = (c :: (splitLast rev).1, (splitLast rev).2) := by
  simp [splitLast, hc]

/-- Reversed characters have a slash behind their last component, or none at all. -/
theorem exists_splitLast (rev : List Char) :
    ('/' ∉ rev ∧ splitLast rev = (rev, [])) ∨
    ∃ comp rest, '/' ∉ comp ∧ rev = comp ++ '/' :: rest ∧ splitLast rev = (comp, rest) := by
  induction rev with
  | nil => exact .inl ⟨List.not_mem_nil, rfl⟩
  | cons c rev ih =>
    by_cases hc : c = '/'
    · subst hc
      exact .inr ⟨[], rev, List.not_mem_nil, rfl, splitLast_slash rev⟩
    · rcases ih with ⟨hmem, hsplit⟩ | ⟨comp, rest, hmem, rfl, hsplit⟩
      · refine .inl ⟨?_, by rw [splitLast_cons hc, hsplit]⟩
        simpa [Ne.symm hc] using hmem
      · refine .inr ⟨c :: comp, rest, ?_, rfl, by rw [splitLast_cons hc, hsplit]⟩
        simpa [Ne.symm hc] using hmem

theorem pieces_reverse_splitLast (rev : List Char) : pieces rev.reverse
    = pieces (splitLast rev).2.reverse
      ++ if counts (splitLast rev).1 then [(splitLast rev).1.reverse] else [] := by
  rcases exists_splitLast rev with ⟨hmem, hsplit⟩ | ⟨comp, rest, hmem, rfl, hsplit⟩
  · rw [hsplit, pieces_of_notMem (by simpa using hmem), counts_reverse]
    rfl
  · rw [hsplit, List.reverse_append, List.reverse_cons, List.append_assoc, List.singleton_append,
      pieces_append_slash]
    congr 1
    rw [pieces_of_notMem (by simpa using hmem), counts_reverse]

theorem pieces_dropIdle (rev : List Char) : pieces (dropIdle rev).reverse = pieces rev.reverse := by
  fun_induction dropIdle rev with
  | case1 => rfl
  | case2 c rev h => rfl
  | case3 c rev h ih =>
    rw [ih, pieces_reverse_splitLast (c :: rev), if_neg h, List.append_nil]

theorem counts_dropIdle {rev : List Char} (h : dropIdle rev ≠ []) :
    counts (splitLast (dropIdle rev)).1 = true := by
  fun_induction dropIdle rev with
  | case1 => exact absurd rfl h
  | case2 c rev hc => exact hc
  | case3 c rev hc ih => exact ih h

/-- The first characters are the second ones, all of them or broken off in front of a slash, or
there are none. -/
def BrokenOff (cs ds : List Char) : Prop := cs = [] ∨ cs = ds ∨ ∃ tail, ds = cs ++ '/' :: tail

theorem BrokenOff.trans {es : List Char} (h : BrokenOff cs ds) (h' : BrokenOff ds es) :
    BrokenOff cs es := by
  rcases h with h | rfl | ⟨tail, rfl⟩
  · exact .inl h
  · exact h'
  · rcases h' with h' | rfl | ⟨tail', rfl⟩
    · simp at h'
    · exact .inr (.inr ⟨tail, rfl⟩)
    · exact .inr (.inr ⟨tail ++ '/' :: tail', by simp⟩)

theorem brokenOff_splitLast (rev : List Char) :
    BrokenOff (splitLast rev).2.reverse rev.reverse := by
  rcases exists_splitLast rev with ⟨-, hsplit⟩ | ⟨comp, rest, -, rfl, hsplit⟩
  · rw [hsplit]
    exact .inl rfl
  · rw [hsplit]
    exact .inr (.inr ⟨comp.reverse, by simp⟩)

theorem brokenOff_dropIdle (rev : List Char) : BrokenOff (dropIdle rev).reverse rev.reverse := by
  fun_induction dropIdle rev with
  | case1 => exact .inl rfl
  | case2 c rev h => exact .inr (.inl rfl)
  | case3 c rev h ih => exact ih.trans (brokenOff_splitLast (c :: rev))

theorem eq_nil_or_slash_of_split {rest : List (List Char)} (h : Text.split '/' cs = [] :: rest) :
    cs = [] ∨ ∃ ds, cs = '/' :: ds := by
  cases cs with
  | nil => exact .inl rfl
  | cons c cs =>
    by_cases hc : c = '/'
    · exact .inr ⟨cs, by rw [hc]⟩
    · obtain ⟨piece, rest', hcs⟩ := Text.exists_split_eq_cons '/' cs
      rw [Text.split, if_neg hc, hcs] at h
      cases h

/-- A path that does not open with the root or a dot is opened by nothing else. -/
theorem opening_eq_nil (hroot : ∀ ds, cs ≠ '/' :: ds) (hdot : cs ≠ ['.'])
    (hslash : ∀ ds, cs ≠ '.' :: '/' :: ds) : opening cs = [] := by
  cases cs with
  | nil => rfl
  | cons c cs =>
    have hc : c ≠ '/' := fun hc => hroot cs (by rw [hc])
    obtain ⟨piece, rest, hcs⟩ := Text.exists_split_eq_cons '/' cs
    rw [opening, Text.split, if_neg hc, hcs, if_neg (by simpa using hc), if_neg]
    intro hfirst
    obtain ⟨rfl, rfl⟩ : c = '.' ∧ piece = [] := by simpa using hfirst
    rcases eq_nil_or_slash_of_split hcs with rfl | ⟨ds, rfl⟩
    · exact hdot rfl
    · exact hslash ds rfl

/-- What is left of a path when something is broken off behind its front. -/
theorem partsOf_front (h : BrokenOff ds (splitFront cs).2) :
    partsOf ((splitFront cs).1 ++ ds)
      = (if (splitFront cs).1 = [] then [] else [(splitFront cs).1]) ++ pieces ds := by
  revert h
  fun_cases splitFront cs with
  | case1 rest =>
    intro _
    exact partsOf_slash ds
  | case2 =>
    intro h
    obtain rfl : ds = [] := by
      rcases h with h | h | ⟨tail, htail⟩
      · exact h
      · exact h
      · simp at htail
    exact partsOf_dot
  | case3 rest =>
    intro h
    have hds : ds = [] ∨ ∃ ds', ds = '/' :: ds' := by
      rcases h with h | h | ⟨tail, htail⟩
      · exact .inl h
      · exact .inr ⟨rest, h⟩
      · rcases List.cons_eq_append_iff.1 htail with ⟨h, -⟩ | ⟨ds', h, -⟩
        · exact .inl h
        · exact .inr ⟨ds', h⟩
    rcases hds with rfl | ⟨ds', rfl⟩
    · exact partsOf_dot
    · rw [pieces_slash]
      exact partsOf_dot_slash ds'
  | case4 _ hroot hdot hslash =>
    intro h
    have hopening : opening cs = [] := opening_eq_nil hroot hdot hslash
    show partsOf ds = pieces ds
    rcases h with rfl | rfl | ⟨tail, rfl⟩
    · rfl
    · rw [partsOf, hopening, List.nil_append]
    · by_cases hne : ds = []
      · rw [hne]
        rfl
      · rw [opening_append_slash hne] at hopening
        rw [partsOf, hopening, List.nil_append]

/-- The front of a path as a part, if there is one. -/
theorem partsOf_splitFront (cs : List Char) : partsOf cs
    = (if (splitFront cs).1 = [] then [] else [(splitFront cs).1]) ++ pieces (splitFront cs).2 := by
  have hall : (splitFront cs).1 ++ (splitFront cs).2 = cs := by
    fun_cases splitFront cs <;> rfl
  rw [← partsOf_front (.inr (.inl rfl)), hall]

theorem splitFront_fst (cs : List Char) :
    (splitFront cs).1 = [] ∨ (splitFront cs).1 = ['/'] ∨ (splitFront cs).1 = ['.'] := by
  fun_cases splitFront cs <;> simp

/-- Without a component that counts there may still be the dot that opens the path. -/
theorem parentChars?_of_idle (h : dropIdle (splitFront cs).2.reverse = []) :
    parentChars? cs = if (splitFront cs).1 = ['.'] then some [] else none := by
  simp only [parentChars?, h]

theorem parentChars?_of_last (h : dropIdle (splitFront cs).2.reverse ≠ []) :
    parentChars? cs = some ((splitFront cs).1
      ++ (dropIdle (splitLast (dropIdle (splitFront cs).2.reverse)).2).reverse) := by
  simp only [parentChars?]

theorem pieces_of_idle (h : dropIdle (splitFront cs).2.reverse = []) :
    pieces (splitFront cs).2 = [] := by
  rw [← List.reverse_reverse (splitFront cs).2, ← pieces_dropIdle, h]
  rfl

/-- The last component that counts is behind what the parent keeps. -/
theorem pieces_of_last (h : dropIdle (splitFront cs).2.reverse ≠ []) :
    ∃ part, pieces (splitFront cs).2
      = pieces (dropIdle (splitLast (dropIdle (splitFront cs).2.reverse)).2).reverse ++ [part] := by
  refine ⟨(splitLast (dropIdle (splitFront cs).2.reverse)).1.reverse, ?_⟩
  rw [pieces_dropIdle, ← List.reverse_reverse (splitFront cs).2, ← pieces_dropIdle,
    pieces_reverse_splitLast, List.reverse_reverse, if_pos (counts_dropIdle h)]

theorem brokenOff_of_last (cs : List Char) :
    BrokenOff (dropIdle (splitLast (dropIdle cs.reverse)).2).reverse cs := by
  have hlast := brokenOff_splitLast (dropIdle cs.reverse)
  have hidle := brokenOff_dropIdle cs.reverse
  rw [List.reverse_reverse] at hidle
  exact (brokenOff_dropIdle _).trans (hlast.trans hidle)

/-- Only the root and the empty path have no parent. -/
theorem partsOf_of_no_parent (h : parentChars? cs = none) :
    partsOf cs = [] ∨ partsOf cs = [['/']] := by
  by_cases hidle : dropIdle (splitFront cs).2.reverse = []
  · rw [parentChars?_of_idle hidle] at h
    rw [partsOf_splitFront, pieces_of_idle hidle]
    rcases splitFront_fst cs with hfront | hfront | hfront
    · simp [hfront]
    · simp [hfront]
    · simp [hfront] at h
  · rw [parentChars?_of_last hidle] at h
    cases h

/-- The parent of a path has the parts of the path but for the last one. -/
theorem partsOf_of_parent (h : parentChars? cs = some ds) :
    ∃ part, partsOf cs = partsOf ds ++ [part] := by
  by_cases hidle : dropIdle (splitFront cs).2.reverse = []
  · rw [parentChars?_of_idle hidle] at h
    split at h
    · next hfront =>
      cases h
      refine ⟨['.'], ?_⟩
      rw [partsOf_splitFront, pieces_of_idle hidle, hfront]
      rfl
    · cases h
  · rw [parentChars?_of_last hidle] at h
    cases h
    obtain ⟨part, hpart⟩ := pieces_of_last hidle
    refine ⟨part, ?_⟩
    rw [partsOf_front (brokenOff_of_last _), partsOf_splitFront, hpart, List.append_assoc]

/-! ## Paths -/

variable {base base' p q : Path}

theorem isAbsolute_iff : p.isAbsolute = true ↔ p.text.toList.head? = some '/' := by
  simp [isAbsolute]

/-- An absolute path is not read from anywhere. -/
theorem join_of_isAbsolute (h : p.isAbsolute = true) (base : Path) : base.join p = p := by
  rw [join, joinChars_of_slash (isAbsolute_iff.1 h), String.ofList_toList]

theorem parts_eq_nil_iff : p.parts = [] ↔ p.text.toList = [] := partsOf_eq_nil_iff

theorem parts_join (h : p.isAbsolute = false) :
    (base.join p).parts
      = if base.parts = [] then p.parts else base.parts ++ pieces p.text.toList := by
  have hrelative : p.text.toList.head? ≠ some '/' := by
    rw [ne_eq, ← isAbsolute_iff, h]
    exact Bool.false_ne_true
  rw [parts, join, String.toList_ofList, partsOf_joinChars hrelative]
  simp only [parts_eq_nil_iff]
  rfl

/-- What is joined to two spellings of a path comes to two spellings of a path. -/
theorem parts_join_congr (h : base.parts = base'.parts) (p : Path) :
    (base.join p).parts = (base'.join p).parts := by
  cases hp : p.isAbsolute with
  | true => rw [join_of_isAbsolute hp, join_of_isAbsolute hp]
  | false => rw [parts_join hp, parts_join hp, h]

theorem parts_of_parent? (h : p.parent? = some q) : ∃ part, p.parts = q.parts ++ [part] := by
  obtain ⟨cs, hcs, rfl⟩ := Option.map_eq_some_iff.1 h
  obtain ⟨part, hpart⟩ := partsOf_of_parent hcs
  refine ⟨part, ?_⟩
  rw [parts, hpart, parts, String.toList_ofList]

theorem parts_of_no_parent (h : p.parent? = none) : p.parts = [] ∨ p.parts = [['/']] :=
  partsOf_of_no_parent (Option.map_eq_none_iff.1 h)

end MapBacked.Path
