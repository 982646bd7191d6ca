import Mathlib.Data.List.Nodup
import MapBacked.Proofs.Types.Names

/-!
# The text of a use can be read in one way

A use is printed with its arguments between angle brackets, and a comma and a space between two of
them. Names that contain none of these three signs end where the first one stands, so a printed use
says what it was printed from (`TypeRef.text_eq_iff`). Neither the space nor the length of the names
is of any help: a name may be empty, and it may begin or end with spaces.

The uses inside the brackets are not at the end of the text. What the induction carries is therefore
about a use with something behind it (`TypeRef.ReadsOnce`), a comma or a closing bracket: an opening
bracket there would be read as its own.
-/

namespace MapBacked.TypeRef

/-- The signs that are written between names. -/
def isMark (c : Char) : Bool := c == '<' || c == '>' || c == ','

/-- No name in the use contains a sign that is written between names. -/
def PlainNames (t : TypeRef) : Prop :=
  ∀ name ∈ t.namesIn, ∀ c ∈ name.toList, isMark c = false

instance (t : TypeRef) : Decidable t.PlainNames :=
  decidable_of_iff ((t.namesIn.all fun name => name.toList.all (!isMark ·)) = true)
    (by simp [PlainNames])

/-- What can stand behind an argument, or behind the whole text. -/
def EndsUse (r : List Char) : Prop := ∀ c ∈ r.head?, c = ',' ∨ c = '>'

/-- With something behind it, the text of the use is the text of no other one. -/
def ReadsOnce (t : TypeRef) : Prop :=
  ∀ (u : TypeRef) (r r' : List Char), u.PlainNames → EndsUse r → EndsUse r' →
    t.text.toList ++ r = u.text.toList ++ r' → t = u ∧ r = r'

/-! ## The text behind a name -/

/-- What is written behind the first argument, given the other ones and what follows the use. -/
def behindFirst : List TypeRef → List Char → List Char
  | [], r => '>' :: r
  | t :: ts, r => ',' :: ' ' :: (t.text.toList ++ behindFirst ts r)

/-- What is written behind the name of a use. -/
def behindName : List TypeRef → List Char → List Char
  | [], r => r
  | t :: ts, r => '<' :: (t.text.toList ++ behindFirst ts r)

theorem toList_separated_texts (t : TypeRef) (ts : List TypeRef) (r : List Char) :
    (Text.separated ", " (texts (t :: ts))).toList ++ '>' :: r
      = t.text.toList ++ behindFirst ts r := by
  induction ts generalizing t with
  | nil => rfl
  | cons u ts ih =>
    have htexts : texts (t :: u :: ts) = t.text :: u.text :: texts ts := rfl
    have hsep : (", " : String).toList = [',', ' '] := rfl
    rw [htexts, Text.separated_cons_cons, String.toList_append, String.toList_append, hsep,
      List.append_assoc, List.append_assoc, behindFirst, ← ih u, texts]
    rfl

theorem toList_text_append (name : String) (args : List TypeRef) (r : List Char) :
    (mk name args).text.toList ++ r = name.toList ++ behindName args r := by
  cases args with
  | nil => simp [text, texts, Text.bracketed, behindName]
  | cons t ts =>
    have hopen : ("<" : String).toList = ['<'] := rfl
    have hclose : (">" : String).toList = ['>'] := rfl
    have hne : (texts (t :: ts)).isEmpty = false := rfl
    rw [text, Text.bracketed, hne, if_neg Bool.false_ne_true, behindName,
      ← toList_separated_texts t ts r]
    simp only [String.toList_append, hopen, hclose, List.append_assoc, List.cons_append,
      List.nil_append]

theorem endsUse_behindFirst (ts : List TypeRef) (r : List Char) : EndsUse (behindFirst ts r) := by
  intro c hc
  cases ts with
  | nil =>
    right
    exact (Option.mem_some_iff.1 hc).symm
  | cons t ts =>
    left
    exact (Option.mem_some_iff.1 hc).symm

/-- Behind a name stands the end of the text or a sign that no name contains. -/
theorem isMark_behindName {args : List TypeRef} {r : List Char} (hr : EndsUse r) :
    ∀ c ∈ (behindName args r).head?, isMark c = true := by
  intro c hc
  cases args with
  | nil =>
    rcases hr c hc with rfl | rfl
    · rfl
    · rfl
  | cons t ts =>
    obtain rfl := Option.mem_some_iff.1 hc
    rfl

/-! ## Reading -/

/-- Two texts without a certain kind of signs end where the first of these stands. -/
theorem append_inj_of_head {p : Char → Bool} {cs ds r r' : List Char} (hcs : ∀ c ∈ cs, p c = false)
    (hds : ∀ d ∈ ds, p d = false) (hr : ∀ c ∈ r.head?, p c = true)
    (hr' : ∀ c ∈ r'.head?, p c = true) (h : cs ++ r = ds ++ r') : cs = ds ∧ r = r' := by
  induction cs generalizing ds with
  | nil =>
    cases ds with
    | nil => exact ⟨rfl, h⟩
    | cons d ds =>
      rw [List.nil_append] at h
      subst h
      exact absurd (hds d List.mem_cons_self) (by rw [hr d rfl]; simp)
  | cons c cs ih =>
    cases ds with
    | nil =>
      rw [List.nil_append] at h
      subst h
      exact absurd (hcs c List.mem_cons_self) (by rw [hr' c rfl]; simp)
    | cons d ds =>
      rw [List.cons_append, List.cons_append, List.cons.injEq] at h
      obtain ⟨rfl, h⟩ := h
      obtain ⟨rfl, hrest⟩ := ih (fun x hx => hcs x (List.mem_cons_of_mem _ hx))
        (fun x hx => hds x (List.mem_cons_of_mem _ hx)) h
      exact ⟨rfl, hrest⟩

/-- The next sign says whether there is another argument. -/
theorem behindFirst_inj {ts us : List TypeRef} {r r' : List Char} (hts : ∀ t ∈ ts, t.ReadsOnce)
    (hus : ∀ u ∈ us, u.PlainNames) (h : behindFirst ts r = behindFirst us r') :
    ts = us ∧ r = r' := by
  induction ts generalizing us with
  | nil =>
    cases us with
    | nil => exact ⟨rfl, List.tail_eq_of_cons_eq h⟩
    | cons u us => exact absurd (List.head_eq_of_cons_eq h) (by decide)
  | cons t ts ih =>
    cases us with
    | nil => exact absurd (List.head_eq_of_cons_eq h) (by decide)
    | cons u us =>
      have htext := List.tail_eq_of_cons_eq (List.tail_eq_of_cons_eq h)
      obtain ⟨rfl, hrest⟩ := hts t List.mem_cons_self u _ _ (hus u List.mem_cons_self)
        (endsUse_behindFirst ts r) (endsUse_behindFirst us r') htext
      obtain ⟨rfl, rfl⟩ := ih (fun x hx => hts x (List.mem_cons_of_mem _ hx))
        (fun x hx => hus x (List.mem_cons_of_mem _ hx)) hrest
      exact ⟨rfl, rfl⟩

/-- **Unique readability.** -/
theorem readsOnce (t : TypeRef) (ht : t.PlainNames) : t.ReadsOnce := by
  induction t using inductionOn with
  | step name args ih =>
    intro u r r' hu hr hend h
    obtain ⟨m, bs⟩ := u
    obtain ⟨hname, hargs⟩ := forall_namesIn_iff.1 ht
    obtain ⟨hm, hbs⟩ := forall_namesIn_iff.1 hu
    rw [toList_text_append, toList_text_append] at h
    obtain ⟨hnames, hbehind⟩ :=
      append_inj_of_head hname hm (isMark_behindName hr) (isMark_behindName hend) h
    obtain rfl := String.toList_inj.1 hnames
    -- an opening bracket tells a use with arguments from one without
    cases args with
    | nil =>
      cases bs with
      | nil => exact ⟨rfl, hbehind⟩
      | cons b bs =>
        rw [behindName, behindName] at hbehind
        rw [hbehind] at hr
        exact absurd (hr '<' rfl) (by decide)
    | cons a as =>
      cases bs with
      | nil =>
        rw [behindName, behindName] at hbehind
        rw [← hbehind] at hend
        exact absurd (hend '<' rfl) (by decide)
      | cons b bs =>
        have hfirst := List.tail_eq_of_cons_eq hbehind
        have hreads : ∀ x ∈ a :: as, x.ReadsOnce := fun x hx => ih x hx (hargs x hx)
        obtain ⟨rfl, hrest⟩ := hreads a List.mem_cons_self b _ _ (hbs b List.mem_cons_self)
          (endsUse_behindFirst as r) (endsUse_behindFirst bs r') hfirst
        obtain ⟨rfl, rfl⟩ := behindFirst_inj (fun x hx => hreads x (List.mem_cons_of_mem _ hx))
          (fun x hx => hbs x (List.mem_cons_of_mem _ hx)) hrest
        exact ⟨rfl, rfl⟩

theorem text_eq_iff {t u : TypeRef} (ht : t.PlainNames) (hu : u.PlainNames) :
    t.text = u.text ↔ t = u := by
  constructor
  · intro h
    have hempty : EndsUse [] := fun c hc => absurd hc (by simp)
    have hlist : t.text.toList ++ [] = u.text.toList ++ [] := by rw [h]
    exact (readsOnce t ht u [] [] hu hempty hempty hlist).1
  · rintro rfl
    rfl

/-- **The text of a type identifies it.** -/
theorem text_identifies :
    (∀ t u : TypeRef, t.PlainNames → u.PlainNames → (t.text = u.text ↔ t = u)) ∧
    (∀ name : String, (plain name).text ≠ (mk name [plain ""]).text) := by
  constructor
  · intro t u ht hu
    exact text_eq_iff ht hu
  · intro name h
    -- two brackets make the difference, whatever is in the name
    have hlength := congrArg String.length h
    simp [plain, text, texts, Text.bracketed] at hlength

/-- A name with a comma in it is not told from two. -/
example : (mk "A" [plain "B, C"]).text = (mk "A" [plain "B", plain "C"]).text := by decide

/-- An argument of an argument, two arguments, an empty name and spaces around a name. -/
def nestings : List TypeRef :=
  [⟨"A", [⟨"B", [plain "C"]⟩]⟩, ⟨"A", [plain "B", plain "C"]⟩, ⟨"A", [plain "B", plain " C"]⟩,
   ⟨"A", [plain ""]⟩, plain "A", ⟨"A", [plain "", plain ""]⟩, ⟨"", [plain "A "]⟩]

/-- The uses are all different, and so are their texts. -/
theorem text_identifies_nestings :
    (∀ t ∈ nestings, t.PlainNames) ∧ nestings.Nodup ∧ (nestings.map text).Nodup := by
  have hplain : ∀ t ∈ nestings, t.PlainNames := by decide
  have hnodup : nestings.Nodup := by decide
  refine ⟨hplain, hnodup, ?_⟩
  refine (List.nodup_map_iff_inj_on hnodup).2 ?_
  intro t ht u hu h
  exact (text_identifies.1 t u (hplain t ht) (hplain u hu)).1 h

end MapBacked.TypeRef
