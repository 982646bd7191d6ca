import Mathlib.Tactic.SplitIfs

/-!
# The order of texts by their bytes

Texts are compared character by character here, and characters by their numbers. Where texts are
kept as bytes in UTF-8 they are compared byte by byte instead. Both ways give the same order
(`Text.lt_iff_utf8`), since the encoding was made for it: a character with a greater number has a
greater byte at the first place where the two encodings differ, and there is always such a place, as
no encoding begins with another one (`Text.lower_units`).
-/

namespace MapBacked.Text

/-- The bytes of a text. -/
def utf8 (s : String) : List UInt8 := s.toByteArray.data.toList

/-- The numbers that encode the character with a given number. -/
def units (v : Nat) : List Nat :=
  if v ≤ 0x7f then [v]
  else if v ≤ 0x7ff then [v / 64 % 32 + 192, v % 64 + 128]
  else if v ≤ 0xffff then [v / 4096 % 16 + 224, v / 64 % 64 + 128, v % 64 + 128]
  else [v / 262144 % 8 + 240, v / 4096 % 64 + 128, v / 64 % 64 + 128, v % 64 + 128]

/-- There is a place where the lists differ first, and the number there is lower in the first one. -/
def Lower : List Nat → List Nat → Prop
  | x :: xs, y :: ys => x < y ∨ x = y ∧ Lower xs ys
  | _, _ => False

/-- Of two numbers written to the base 64, the last digit decides where the others agree. -/
theorem lt_or_of_lt {v w : Nat} (h : v < w) :
    v / 64 < w / 64 ∨ v / 64 = w / 64 ∧ v % 64 < w % 64 := by
  omega

theorem digits_of_lt {v w : Nat} (h : v < w) :
    v / 262144 < w / 262144 ∨ v / 262144 = w / 262144 ∧
      (v / 4096 % 64 < w / 4096 % 64 ∨ v / 4096 % 64 = w / 4096 % 64 ∧
      (v / 64 % 64 < w / 64 % 64 ∨ v / 64 % 64 = w / 64 % 64 ∧ v % 64 < w % 64)) := by
  rcases lt_or_of_lt h with h₁ | ⟨h₁, hlast⟩
  · rcases lt_or_of_lt h₁ with h₂ | ⟨h₂, hlast⟩
    · rcases lt_or_of_lt h₂ with h₃ | ⟨h₃, hlast⟩
      · omega
      · omega
    · omega
  · omega

/-- **A character with a greater number has a greater encoding.** -/
theorem lower_units {v w : Nat} (h : v < w) (hw : w < 0x110000) : Lower (units v) (units w) := by
  have hdigits := digits_of_lt h
  have hv : v / 262144 % 8 = v / 262144 := Nat.mod_eq_of_lt (by omega)
  have hw' : w / 262144 % 8 = w / 262144 := Nat.mod_eq_of_lt (by omega)
  -- longer encodings begin with greater numbers, those of one length are compared digit by digit
  unfold units
  rw [hv, hw']
  split_ifs <;> simp only [Lower] <;> omega

theorem lt_of_lower {xs ys : List Nat} (hxs : ∀ x ∈ xs, x < 256) (hys : ∀ y ∈ ys, y < 256)
    (h : Lower xs ys) (r r' : List UInt8) : xs.map UInt8.ofNat ++ r < ys.map UInt8.ofNat ++ r' := by
  fun_induction Lower xs ys with
  | case1 x xs y ys ih =>
    have hx : x < 256 := hxs x List.mem_cons_self
    have hy : y < 256 := hys y List.mem_cons_self
    rw [List.map_cons, List.map_cons, List.cons_append, List.cons_append, List.cons_lt_cons_iff]
    rcases h with h | ⟨rfl, h⟩
    · left
      exact (UInt8.ofNat_lt_iff_lt hx hy).2 h
    · right
      exact ⟨rfl, ih (fun z hz => hxs z (List.mem_cons_of_mem _ hz))
        (fun z hz => hys z (List.mem_cons_of_mem _ hz)) h⟩
  | case2 => exact h.elim

theorem units_lt {v : Nat} : ∀ x ∈ units v, x < 256 := by
  intro x hx
  unfold units at hx
  split_ifs at hx <;> simp only [List.mem_cons, List.not_mem_nil, or_false] at hx <;> omega

theorem utf8EncodeChar_eq (c : Char) :
    String.utf8EncodeChar c = (units c.toNat).map UInt8.ofNat := by
  unfold String.utf8EncodeChar units Char.toNat
  simp only
  split
  · rfl
  split
  · rfl
  split
  · rfl
  · rfl

theorem utf8_eq_flatMap (s : String) :
    utf8 s = s.toList.flatMap String.utf8EncodeChar := by
  rw [utf8, ← String.utf8Encode_toList, List.utf8Encode, List.data_toByteArray]

/-- What follows two different characters is of no consequence. -/
theorem utf8EncodeChar_append_lt {c d : Char} (h : c < d) (r r' : List UInt8) :
    String.utf8EncodeChar c ++ r < String.utf8EncodeChar d ++ r' := by
  rw [utf8EncodeChar_eq, utf8EncodeChar_eq]
  apply lt_of_lower units_lt units_lt
  apply lower_units h
  have hd := d.valid
  simp only [UInt32.isValidChar, Nat.isValidChar] at hd
  show d.val.toNat < 0x110000
  omega

theorem flatMap_utf8EncodeChar_lt {cs ds : List Char} (h : cs < ds) :
    cs.flatMap String.utf8EncodeChar < ds.flatMap String.utf8EncodeChar := by
  induction List.lex_lt.2 h with
  | @nil d ds =>
    cases hd : String.utf8EncodeChar d with
    | nil => exact absurd hd String.utf8EncodeChar_ne_nil
    | cons b bs =>
      rw [List.flatMap_cons, hd, List.cons_append, List.flatMap_nil]
      exact List.nil_lt_cons b _
  | rel hcd =>
    rw [List.flatMap_cons, List.flatMap_cons]
    exact utf8EncodeChar_append_lt hcd _ _
  | cons hrest ih =>
    rw [List.flatMap_cons, List.flatMap_cons]
    exact List.append_left_lt (ih (List.lex_lt.1 hrest))

theorem utf8_lt_of_lt {s t : String} (h : s < t) : utf8 s < utf8 t := by
  rw [utf8_eq_flatMap, utf8_eq_flatMap]
  exact flatMap_utf8EncodeChar_lt (String.lt_iff.1 h)

/-- **Texts are in the order of their bytes.** -/
theorem lt_iff_utf8 {s t : String} : s < t ↔ utf8 s < utf8 t := by
  constructor
  · exact utf8_lt_of_lt
  · intro h
    rcases Std.lt_trichotomy s t with hst | rfl | hts
    · exact hst
    · exact absurd h (List.lt_irrefl _)
    · exact absurd h (List.lt_asymm (utf8_lt_of_lt hts))

theorem compare_eq_lt_iff {s t : String} : compare s t = .lt ↔ utf8 s < utf8 t := by
  rw [← lt_iff_utf8]
  exact compareOfLessAndEq_eq_lt

end MapBacked.Text
