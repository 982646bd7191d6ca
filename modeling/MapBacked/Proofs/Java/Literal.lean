import MapBacked.Proofs.Java.Reading
import MapBacked.Text.Literal

/-!
# Literals say what they were made of

The literal of a text is read back as that text, whatever stands behind it. All that is known of
`Text.escape` is in `escape_cases`: a character is written as a backslash and a letter for it, as a
Unicode escape, or as itself.

What carries the induction over the text is the state of the first pass. A written character that
starts behind an even number of backslashes also ends behind an even number of them
(`signs_escape`), so the first pass takes the characters of a literal one by one, and the text
behind the literal as if nothing were in front of it.
-/

namespace MapBacked

/-! ## Written characters -/

namespace Text

theorem hexValue?_digitChar : ∀ d < 16, hexValue? (Nat.digitChar d) = some d := by
  decide

/-- A digit is neither a mark of an escape nor a control. -/
theorem digitChar_ne : ∀ d < 16, Nat.digitChar d ≠ 'u' ∧ isControl (Nat.digitChar d) = false := by
  decide

theorem hexNumber?_hexDigits4 {n : Nat} (h : n < 0x10000) : hexNumber? (hexDigits4 n) = some n := by
  have hd (m : Nat) : hexValue? (Nat.digitChar (m % 16)) = some (m % 16) :=
    hexValue?_digitChar _ (Nat.mod_lt _ (by decide))
  have hlt (m : Nat) : m % 16 < 16 := Nat.mod_lt _ (by decide)
  simp only [hexNumber?, number?, hexDigits4, List.map_cons, List.map_nil, List.foldl_cons,
    List.foldl_nil, hd, hlt, Option.bind_eq_bind, Option.bind_some, if_true]
  show some _ = some n
  congr 1
  omega

/-- The characters that have a letter: the four that may not stand for themselves between quotes,
and three others. -/
def lettered : List Char := ['"', '\\', '\n', '\r', '\t', '\x08', '\x0c']

/-- How a character is written. -/
theorem escape_cases (c : Char) :
    (∃ e, escape c = ['\\', e] ∧ Java.letter? e.toNat = some c.toNat ∧ e ≠ 'u' ∧
      isControl e = false) ∨
    (escape c = '\\' :: 'u' :: hexDigits4 c.toNat ∧ isControl c = true ∧ c ∉ lettered) ∨
    (escape c = [c] ∧ isControl c = false ∧ c ∉ lettered) := by
  by_cases hl : c ∈ lettered
  · left
    simp only [lettered, List.mem_cons, List.not_mem_nil, or_false] at hl
    -- each of the seven is looked up among the letters
    rcases hl with rfl | rfl | rfl | rfl | rfl | rfl | rfl
    all_goals exact ⟨_, rfl, by decide, by decide, by decide⟩
  · right
    have hc : escape c = if isControl c then '\\' :: 'u' :: hexDigits4 c.toNat else [c] := by
      simp only [lettered, List.mem_cons, List.not_mem_nil, or_false, not_or] at hl
      simp [escape, hl]
    by_cases hcontrol : isControl c = true
    · exact .inl ⟨by rw [hc, if_pos hcontrol], hcontrol, hl⟩
    · exact .inr ⟨by rw [hc, if_neg hcontrol], by simpa using hcontrol, hl⟩

theorem isControl_escape {c d : Char} (h : d ∈ escape c) : isControl d = false := by
  have hbackslash : isControl '\\' = false := by decide
  rcases escape_cases c with ⟨e, he, -, -, hcontrol⟩ | ⟨he, -, -⟩ | ⟨he, hcontrol, -⟩
  · rw [he, List.mem_cons, List.mem_singleton] at h
    rcases h with rfl | rfl
    · exact hbackslash
    · exact hcontrol
  · rw [he, List.mem_cons, List.mem_cons] at h
    rcases h with rfl | rfl | h
    · exact hbackslash
    · decide
    · simp only [hexDigits4, List.map_cons, List.map_nil, List.mem_cons, List.not_mem_nil,
        or_false] at h
      rcases h with rfl | rfl | rfl | rfl
      all_goals exact (digitChar_ne _ (Nat.mod_lt _ (by decide))).2
  · rw [he, List.mem_singleton] at h
    rw [h]
    exact hcontrol

theorem isControl_literal {s : String} {c : Char} (h : c ∈ (literal s).toList) :
    isControl c = false := by
  have hquote : isControl '"' = false := by decide
  rw [toList_literal, literalChars, List.mem_cons, List.mem_append, List.mem_singleton] at h
  rcases h with rfl | h | rfl
  · exact hquote
  · obtain ⟨d, -, hd⟩ := List.mem_flatMap.1 h
    exact isControl_escape hd
  · exact hquote

end Text

namespace Java

open Text

/-! ## The first pass over written characters -/

theorem signs_nil (even : Bool) : signs even [] = [] := by
  rw [signs]

theorem signs_plain {c : Char} (h : c ≠ '\\') (cs : List Char) (even : Bool) :
    signs even (c :: cs) = .plain c :: signs true cs := by
  rw [signs, if_neg h]

/-- A backslash in front of something else than a mark takes it along. -/
theorem signs_pair {e : Char} (h : e ≠ 'u') (cs : List Char) :
    signs true ('\\' :: e :: cs) = .plain '\\' :: .plain e :: signs true cs := by
  have he : signs false (e :: cs) = .plain e :: signs true cs := by
    by_cases hb : e = '\\'
    · subst hb
      rw [signs, if_pos rfl]
      rfl
    · exact signs_plain hb cs false
  rw [signs, if_pos rfl, if_neg (by simpa using h)]
  exact congrArg _ he

theorem signs_unicode {n : Nat} (h : n < 0x10000) (cs : List Char) :
    signs true ('\\' :: 'u' :: (hexDigits4 n ++ cs))
      = .escaped ['u'] (hexDigits4 n) n :: signs true cs := by
  -- the first digit ends the marks
  have hfirst : Nat.digitChar (n / 0x1000 % 16) ≠ 'u' :=
    (digitChar_ne _ (Nat.mod_lt _ (by decide))).1
  have hmarks : ('u' :: (hexDigits4 n ++ cs)).takeWhile (· == 'u') = ['u'] := by
    simp [hexDigits4, hfirst]
  have hbehind : behindMarks ('u' :: (hexDigits4 n ++ cs)) = hexDigits4 n ++ cs := by
    simp [behindMarks, hexDigits4, hfirst]
  have hdigits : (hexDigits4 n ++ cs).take 4 = hexDigits4 n := rfl
  have hfour : fourDigits? (hexDigits4 n ++ cs) = some n := by
    rw [fourDigits?, hdigits]
    exact hexNumber?_hexDigits4 h
  have hmark : (true && ('u' :: (hexDigits4 n ++ cs)).head? == some 'u') = true := rfl
  rw [signs, if_pos rfl, if_pos hmark, hbehind, hfour, hmarks]
  rfl

/-- The signs of a written character: a backslash and a letter, or one sign that stands for it. -/
theorem signs_escape_cases (c : Char) :
    (∃ e, letter? e.toNat = some c.toNat ∧
      ∀ cs, signs true (escape c ++ cs) = .plain '\\' :: .plain e :: signs true cs) ∨
    (c ∉ lettered ∧ ∃ s : Sign, s.value = some c.toNat ∧
      (s = .plain c ∨ s = .escaped ['u'] (hexDigits4 c.toNat) c.toNat ∧ c.toNat < 0x10000) ∧
      ∀ cs, signs true (escape c ++ cs) = s :: signs true cs) := by
  rcases escape_cases c with ⟨e, he, hletter, hu, -⟩ | ⟨he, hcontrol, hc⟩ | ⟨he, -, hc⟩
  · refine .inl ⟨e, hletter, fun cs => ?_⟩
    rw [he]
    exact signs_pair hu cs
  · have hn : c.toNat < 0x10000 := by
      have := lt_of_isControl hcontrol
      omega
    refine .inr ⟨hc, _, rfl, .inr ⟨rfl, hn⟩, fun cs => ?_⟩
    rw [he]
    exact signs_unicode hn cs
  · have hb : c ≠ '\\' := fun hb => hc (by simp [hb, lettered])
    refine .inr ⟨hc, _, rfl, .inl rfl, fun cs => ?_⟩
    rw [he]
    exact signs_plain hb cs true

/-- **A written character is translated by itself**, and leaves the first pass as it was. -/
theorem signs_escape (c : Char) (cs : List Char) :
    signs true (escape c ++ cs) = signs true (escape c) ++ signs true cs := by
  have hself := List.append_nil (escape c)
  rcases signs_escape_cases c with ⟨e, -, h⟩ | ⟨-, s, -, -, h⟩
  · rw [← hself, h, hself, h, signs_nil]
    rfl
  · rw [← hself, h, hself, h, signs_nil]
    rfl

/-- The signs of a literal are those of its characters between two quotes. -/
theorem signs_literal (s : String) (rest : List Char) :
    signs true ((literal s).toList ++ rest)
      = .plain '"' :: ((s.toList.flatMap fun c => signs true (escape c)) ++
          .plain '"' :: signs true rest) := by
  have hquote (cs : List Char) : signs true ('"' :: cs) = .plain '"' :: signs true cs :=
    signs_plain (by decide) cs true
  -- every character leaves an even number of backslashes behind, so the induction goes through
  have hbody (cs : List Char) : signs true (cs.flatMap escape ++ '"' :: rest)
      = (cs.flatMap fun c => signs true (escape c)) ++ .plain '"' :: signs true rest := by
    induction cs with
    | nil => exact hquote rest
    | cons c cs ih =>
      rw [List.flatMap_cons, List.flatMap_cons, List.append_assoc, List.append_assoc,
        signs_escape, ih]
  rw [toList_literal, literalChars, List.cons_append, List.append_assoc, hquote]
  exact congrArg _ (hbody s.toList)

/-- Nothing of a literal is taken together with what stands behind it. -/
theorem signs_literal_append (s : String) (rest : List Char) :
    signs true ((literal s).toList ++ rest)
      = signs true (literal s).toList ++ signs true rest := by
  have hself := signs_literal s []
  rw [List.append_nil, signs_nil] at hself
  rw [signs_literal, hself, List.cons_append, List.append_assoc]
  rfl

/-- A sign that is no error, and no Unicode escape but one with four digits of a number that ends
neither a line nor a literal and starts no escape. -/
def Sign.Harmless : Sign → Prop
  | .plain _ => True
  | .escaped _ digits n =>
    digits.length = 4 ∧ hexNumber? digits = some n ∧ n ∉ ['"', '\\', '\n', '\r'].map Char.toNat
  | .broken => False

theorem harmless_of_mem {c : Char} {s : Sign} (h : s ∈ signs true (escape c)) : s.Harmless := by
  rw [← List.append_nil (escape c)] at h
  rcases signs_escape_cases c with ⟨e, -, hsigns⟩ | ⟨hc, t, -, ht, hsigns⟩
  · rw [hsigns, signs_nil, List.mem_cons, List.mem_singleton] at h
    rcases h with rfl | rfl
    · trivial
    · trivial
  · rw [hsigns, signs_nil, List.mem_singleton] at h
    subst h
    rcases ht with rfl | ⟨rfl, hn⟩
    · trivial
    · -- a number on the list would be that of a character with a letter
      refine ⟨rfl, hexNumber?_hexDigits4 hn, fun hmem => hc ?_⟩
      obtain ⟨d, hd, hdc⟩ := List.mem_map.1 hmem
      rw [← Char.toNat_inj.1 hdc]
      exact List.mem_append_left ['\t', '\x08', '\x0c'] hd

theorem harmless_literal {s : String} {sign : Sign} (h : sign ∈ signs true (literal s).toList) :
    sign.Harmless := by
  rw [← List.append_nil (literal s).toList, signs_literal, signs_nil, List.mem_cons,
    List.mem_append, List.mem_singleton] at h
  rcases h with rfl | h | rfl
  · trivial
  · obtain ⟨c, -, hc⟩ := List.mem_flatMap.1 h
    exact harmless_of_mem hc
  · trivial

/-! ## The second pass over written characters -/

theorem body_self {s : Sign} {c : Char} (hs : s.value = some c.toNat) (hc : c ∉ lettered)
    (ss : List Sign) :
    body false (s :: ss) = (body false ss).map fun (said, rest) => (c.toNat :: said, rest) := by
  have hne {d : Char} (hd : d ∈ lettered) : c.toNat ≠ d.toNat := fun h =>
    hc (Char.toNat_inj.1 h ▸ hd)
  rw [body, hs, Option.bind_eq_bind, Option.bind_some, if_neg (hne (by decide)),
    if_neg (not_or.2 ⟨hne (by decide), hne (by decide)⟩), if_neg (hne (by decide))]

theorem body_letter {e : Char} {n : Nat} (he : letter? e.toNat = some n) (ss : List Sign) :
    body false (.plain '\\' :: .plain e :: ss)
      = (body false ss).map fun (said, rest) => (n :: said, rest) := by
  show (letter? e.toNat).bind _ = _
  rw [he]
  rfl

/-- **A written character is read back as itself.** -/
theorem body_escape (c : Char) (cs : List Char) :
    body false (signs true (escape c ++ cs))
      = (body false (signs true cs)).map fun (said, rest) => (c.toNat :: said, rest) := by
  rcases signs_escape_cases c with ⟨e, hletter, h⟩ | ⟨hc, s, hs, -, h⟩
  · rw [h]
    exact body_letter hletter _
  · rw [h]
    exact body_self hs hc _

theorem body_literal (cs rest : List Char) :
    body false (signs true (cs.flatMap escape ++ '"' :: rest))
      = some (cs.map Char.toNat, signs true rest) := by
  induction cs with
  | nil =>
    rw [List.flatMap_nil, List.nil_append, signs_plain (by decide)]
    rfl
  | cons c cs ih =>
    rw [List.flatMap_cons, List.append_assoc, body_escape, ih]
    rfl

theorem codePoints_chars (cs : List Char) : codePoints (cs.map Char.toNat) = cs.map Char.toNat := by
  -- no character is half of a surrogate pair
  have hhigh (c : Char) : isHigh c.toNat = false := by
    have hc : c.toNat < 0xd800 ∨ 0xdfff < c.toNat ∧ c.toNat < 0x110000 := c.valid
    simp only [isHigh, Bool.and_eq_false_iff, decide_eq_false_iff_not]
    omega
  induction cs with
  | nil => rfl
  | cons c cs ih =>
    cases cs with
    | nil => rfl
    | cons d cs =>
      rw [List.map_cons, List.map_cons, codePoints, hhigh, Bool.false_and, if_neg (by decide)]
      exact congrArg _ ih

/-- **The literal of a text is read as the text**, whatever stands behind it. -/
theorem read_literal (s : String) (rest : List Char) :
    read ((literal s).toList ++ rest) = some (s.toList.map Char.toNat, rest) := by
  have hopen : signs true ((literal s).toList ++ rest)
      = .plain '"' :: signs true (s.toList.flatMap escape ++ '"' :: rest) := by
    rw [toList_literal, literalChars, List.cons_append, List.append_assoc]
    exact signs_plain (by decide) _ true
  rw [read, hopen]
  show (body false _).map _ = _
  rw [body_literal]
  show some (codePoints (s.toList.map Char.toNat), (signs true rest).flatMap Sign.source) = _
  rw [codePoints_chars, source_signs]

/-- Two literals in front of whatever are told apart. -/
theorem literal_append_inj {s t : String} {as bs : List Char}
    (h : (literal s).toList ++ as = (literal t).toList ++ bs) : s = t ∧ as = bs := by
  have hread : some (s.toList.map Char.toNat, as) = some (t.toList.map Char.toNat, bs) := by
    rw [← read_literal, ← read_literal, h]
  obtain ⟨hs, hrest⟩ := Prod.mk.inj (Option.some.inj hread)
  refine ⟨String.toList_inj.1 ?_, hrest⟩
  exact List.map_inj_right (fun _ _ => Char.toNat_inj.1) |>.1 hs

/-- **Texts stay in their literals.** Java reads the literal of a text as that text and goes on with
whatever stands behind it, so different texts have different literals. No literal contains a control
character, and of its signs none is an error, and a Unicode escape only with four digits of the
number of something else than a quote, a backslash or a line end. -/
theorem literal_faithful :
    (∀ s rest, read ((literal s).toList ++ rest) = some (s.toList.map Char.toNat, rest)) ∧
    Function.Injective literal ∧
    (∀ s, ∀ c ∈ (literal s).toList, isControl c = false) ∧
    ∀ s rest,
      signs true ((literal s).toList ++ rest) = signs true (literal s).toList ++ signs true rest ∧
      ∀ sign ∈ signs true (literal s).toList, sign.Harmless := by
  refine ⟨read_literal, ?_, fun s c hc => isControl_literal hc, fun s rest => ?_⟩
  · intro s t h
    have happend : (literal s).toList ++ [] = (literal t).toList ++ [] := by rw [h]
    exact (literal_append_inj happend).1
  · exact ⟨signs_literal_append s rest, fun sign hsign => harmless_literal hsign⟩

end Java
end MapBacked
