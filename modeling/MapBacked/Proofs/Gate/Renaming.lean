import Mathlib.Data.List.GetD
import Mathlib.Data.List.Nodup
import MapBacked.Proofs.Gate.Rounds
import MapBacked.Proofs.Gate.Supertypes
import MapBacked.Proofs.Types.Names

/-!
# The names of type parameters

A type variable is written like any other name, and nothing in a use tells it from a class or from
the variable of another declaration. Still the names that a declaration chooses for its parameters
are its own affair: renaming them changes no answer and no look-up, whatever names the arguments
come with.

The reason is that arguments are put in the places of all parameters at once, and never looked at
again. So a use inherits the same from the renamed declaration as from the one it was made of
(`TypeDecl.supertypesFor_renamed`), provided that it has arguments for all parameters: a variable
without an argument would stay, under either name. That every use on the way has them is what a walk
keeps (`Gate.Round.saturates`), and so both walks go through the same positions
(`Gate.Round.of_renamesTo`).
-/

namespace MapBacked

open Relation

/-! ## Renamed uses -/

/-- The new name of a type variable. A parameter gets the name at its first position among the
parameters, and a name that is no parameter stays. -/
def newName (params names : List String) (name : String) : String :=
  match params.idxOf? name with
  | some i => names.getD i name
  | none => name

namespace TypeRef

mutual

/-- The use with new names for its variables, at any depth. Only a use without arguments can be a
variable. -/
def renamed (f : String → String) : TypeRef → TypeRef
  | ⟨name, []⟩ => plain (f name)
  | ⟨name, a :: as⟩ => ⟨name, a.renamed f :: renamedAll f as⟩
termination_by structural t => t

def renamedAll (f : String → String) : List TypeRef → List TypeRef
  | [] => []
  | t :: ts => t.renamed f :: renamedAll f ts
termination_by structural ts => ts

end

variable {params names : List String} {args : List TypeRef}

theorem newName_of_notMem {name : String} (h : name ∉ params) :
    newName params names name = name := by
  rw [newName, List.idxOf?_eq_none_iff.2 h]

theorem renamed_name {f : String → String} {t : TypeRef} (h : t.args = [] → f t.name = t.name) :
    (t.renamed f).name = t.name := by
  obtain ⟨name, as⟩ := t
  cases as with
  | nil => exact h rfl
  | cons a as => rfl

/-- Under its new name a parameter is bound to the same argument. -/
theorem binding?_newName (hlength : names.length = params.length) (hnodup : names.Nodup)
    {name : String} (h : name ∈ params) :
    binding? names args (newName params names name) = binding? params args name := by
  obtain ⟨i, hi⟩ := Option.isSome_iff_exists.1 (List.isSome_idxOf?.2 h)
  obtain ⟨hlt, -, -⟩ := List.idxOf?_eq_some_iff.1 hi
  have hlt' : i < names.length := by omega
  have hname : newName params names name = names[i] := by
    rw [newName, hi]
    exact List.getD_eq_getElem _ _ hlt'
  -- the new names are distinct, so the position is the first one of its name again
  have hfirst : names.idxOf? names[i] = some i := by
    refine List.idxOf?_eq_some_iff.2 ⟨hlt', rfl, fun j hj he => ?_⟩
    exact absurd ((List.Nodup.getElem_inj_iff hnodup).1 he) (Nat.ne_of_lt hj)
  rw [hname, binding?, hfirst, binding?, hi]

theorem isSome_binding? (hargs : params.length ≤ args.length) {name : String}
    (h : name ∈ params) : (binding? params args name).isSome := by
  obtain ⟨i, hi⟩ := Option.isSome_iff_exists.1 (List.isSome_idxOf?.2 h)
  obtain ⟨hlt, -, -⟩ := List.idxOf?_eq_some_iff.1 hi
  rw [binding?, hi, Option.bind_some, List.getElem?_eq_getElem (Nat.lt_of_lt_of_le hlt hargs)]
  rfl

theorem substitute_plain_newName (hlength : names.length = params.length) (hnodup : names.Nodup)
    (hargs : params.length ≤ args.length) {name : String} (hfresh : name ∉ names) :
    (plain (newName params names name)).substitute names args
      = (plain name).substitute params args := by
  rw [substitute_plain, substitute_plain]
  by_cases h : name ∈ params
  · obtain ⟨a, ha⟩ := Option.isSome_iff_exists.1 (isSome_binding? hargs h)
    rw [binding?_newName hlength hnodup h, ha]
    rfl
  · rw [newName_of_notMem h, binding?_of_notMem h, binding?_of_notMem hfresh]

mutual

/-- **No capture.** Replacing the renamed variables of a use comes to the same as replacing the
variables it had. The new names must not have been written in it before. -/
theorem substitute_renamed (hlength : names.length = params.length) (hnodup : names.Nodup)
    (hargs : params.length ≤ args.length) : ∀ t : TypeRef, (∀ n ∈ t.namesIn, n ∉ names) →
    (t.renamed (newName params names)).substitute names args = t.substitute params args
  | ⟨name, []⟩, hfresh =>
    substitute_plain_newName hlength hnodup hargs (hfresh name List.mem_cons_self)
  | ⟨name, a :: as⟩, hfresh => by
    have hmem : ∀ n ∈ namesInAll (a :: as), n ∉ names := fun n hn =>
      hfresh n (List.mem_cons_of_mem _ hn)
    have ha := substitute_renamed hlength hnodup hargs a fun n hn =>
      hmem n (List.mem_append_left _ hn)
    have has := substituteAll_renamed hlength hnodup hargs as fun n hn =>
      hmem n (List.mem_append_right _ hn)
    rw [renamed, substitute, substitute, ha, has]

theorem substituteAll_renamed (hlength : names.length = params.length) (hnodup : names.Nodup)
    (hargs : params.length ≤ args.length) : ∀ ts : List TypeRef,
    (∀ n ∈ namesInAll ts, n ∉ names) →
    substituteAll names args (renamedAll (newName params names) ts) = substituteAll params args ts
  | [], _ => rfl
  | t :: ts, hfresh => by
    have ht := substitute_renamed hlength hnodup hargs t fun n hn =>
      hfresh n (List.mem_append_left _ hn)
    have hts := substituteAll_renamed hlength hnodup hargs ts fun n hn =>
      hfresh n (List.mem_append_right _ hn)
    rw [renamedAll, substituteAll, substituteAll, ht, hts]

end

end TypeRef

/-! ## Renamed declarations -/

/-- The declaration with new names for its parameters, in their list and wherever they stand. -/
def TypeDecl.renamed (d : TypeDecl) (names : List String) : TypeDecl :=
  { d with
    typeParameters := names
    supertypes := d.supertypes.map (TypeRef.renamed (newName d.typeParameters names)) }

/-- Names that the parameters of a declaration can have instead: as many of them, all different, and
none that the supertypes mention already. -/
structure TypeDecl.FreshNames (d : TypeDecl) (names : List String) : Prop where
  length : names.length = d.typeParameters.length
  nodup : names.Nodup
  fresh : ∀ s ∈ d.supertypes, ∀ n ∈ s.namesIn, n ∉ names

/-- The same declaration, or the declaration with other names for its parameters. -/
inductive TypeDecl.RenamesTo (d : TypeDecl) : TypeDecl → Prop where
  | unchanged : d.RenamesTo d
  | renamed {names : List String} (h : d.FreshNames names) : d.RenamesTo (d.renamed names)

/-- Two resolvers that know the same names, the declarations of the second having other names for
their parameters at most. -/
def Resolver.RenamesTo (types types' : Resolver) : Prop :=
  ∀ name, Option.Rel TypeDecl.RenamesTo (types.declaration name) (types'.declaration name)

/-- The use has an argument for each parameter of its declaration, or no arguments at all. -/
def Resolver.Saturates (types : Resolver) (t : TypeRef) : Prop :=
  t.args ≠ [] → ∀ d ∈ types.declaration t.name, d.typeParameters.length ≤ t.args.length

/-- That is so of the supertypes of every declaration that can be looked up. -/
def Resolver.Saturated (types : Resolver) : Prop :=
  ∀ name d, types.declaration name = some d → ∀ s ∈ d.supertypes, types.Saturates s

instance (types : Resolver) (t : TypeRef) : Decidable (types.Saturates t) :=
  inferInstanceAs (Decidable (t.args ≠ [] → _))

theorem TypeDecl.RenamesTo.name {d d' : TypeDecl} (h : d.RenamesTo d') : d'.name = d.name := by
  cases h with
  | unchanged => rfl
  | renamed hn => rfl

theorem Resolver.RenamesTo.empty : (Resolver.ofTable .empty).RenamesTo (.ofTable .empty) :=
  fun _ => .none

/-- Tables may be compared declaration by declaration, as they are put in. -/
theorem Resolver.RenamesTo.insert {t t' : TypeTable} {d d' : TypeDecl}
    (h : (Resolver.ofTable t).RenamesTo (.ofTable t')) (hd : d.RenamesTo d') :
    (Resolver.ofTable (t.insert d)).RenamesTo (.ofTable (t'.insert d')) := by
  intro name
  have hr := h name
  rw [declaration_ofTable, declaration_ofTable] at hr ⊢
  rw [TypeTable.declaration_insert, TypeTable.declaration_insert, hd.name]
  split
  · exact .some hd
  · exact hr

namespace TypeDecl

variable {d d' : TypeDecl} {names : List String} {t : TypeRef}

/-- A use with enough arguments puts them in the places of the parameters, be there any or none. -/
theorem supertypesFor_of_le (h : d.typeParameters.length ≤ t.args.length) :
    d.supertypesFor t = d.supertypes.map (TypeRef.substitute d.typeParameters t.args) := by
  by_cases hargs : t.args = []
  · rw [hargs] at h
    have hparams : d.typeParameters = [] := List.eq_nil_of_length_eq_zero (Nat.le_zero.1 h)
    rw [supertypesFor, if_neg (by simp [hparams])]
  · exact supertypesFor_of_args hargs

/-- **A renamed declaration hands on the same supertypes**, to every use that has arguments for all
parameters or none at all. -/
theorem supertypesFor_renamed (hv : d.ExtendsNoVariable) (hn : d.FreshNames names)
    (ht : t.args ≠ [] → d.typeParameters.length ≤ t.args.length) :
    (d.renamed names).supertypesFor t = d.supertypesFor t := by
  by_cases hargs : d.typeParameters.length ≤ t.args.length
  · have hargs' : (d.renamed names).typeParameters.length ≤ t.args.length := by
      rw [renamed, hn.length]
      exact hargs
    rw [supertypesFor_of_le hargs, supertypesFor_of_le hargs', renamed, List.map_map]
    refine List.map_congr_left fun s hs => ?_
    exact TypeRef.substitute_renamed hn.length hn.nodup hargs s (hn.fresh s hs)
  · -- a raw use: both declarations are generic, and only the names of the supertypes are left
    have hraw : t.args = [] := by
      by_contra hne
      exact hargs (ht hne)
    have hgeneric : d.typeParameters ≠ [] := fun he => hargs (by simp [he])
    have hgeneric' : (d.renamed names).typeParameters ≠ [] := fun he => by
      have hlength : names.length = 0 := List.length_eq_zero_iff.2 he
      exact hgeneric (List.length_eq_zero_iff.1 (hn.length ▸ hlength))
    rw [supertypesFor_of_raw hraw hgeneric, supertypesFor_of_raw hraw hgeneric', renamed,
      List.map_map]
    refine List.map_congr_left fun s hs => TypeRef.erased_eq_of_name (TypeRef.renamed_name ?_)
    intro hs'
    exact TypeRef.newName_of_notMem (hv s hs hs')

theorem RenamesTo.supertypesFor_eq (hr : d.RenamesTo d') (hv : d.ExtendsNoVariable)
    (ht : t.args ≠ [] → d.typeParameters.length ≤ t.args.length) :
    d'.supertypesFor t = d.supertypesFor t := by
  cases hr with
  | unchanged => rfl
  | renamed hn => exact supertypesFor_renamed hv hn ht

/-- What a use inherits has as many arguments as the supertype that is listed, or none. -/
theorem length_args_of_mem_supertypesFor (hv : d.ExtendsNoVariable) {r : TypeRef}
    (h : r ∈ d.supertypesFor t) :
    ∃ s ∈ d.supertypes, r.name = s.name ∧ (r.args = [] ∨ r.args.length = s.args.length) := by
  unfold supertypesFor at h
  split at h
  · obtain ⟨s, hs, rfl⟩ := List.mem_map.1 h
    exact ⟨s, hs, rfl, .inl rfl⟩
  · obtain ⟨s, hs, rfl⟩ := List.mem_map.1 h
    refine ⟨s, hs, TypeRef.substitute_name (hv s hs), ?_⟩
    by_cases hraw : s.args = []
    · obtain ⟨name, as⟩ := s
      obtain rfl : as = [] := hraw
      rw [TypeRef.substitute, TypeRef.binding?_of_notMem (hv _ hs rfl)]
      exact .inl rfl
    · rw [TypeRef.substitute_of_args_ne_nil hraw]
      exact .inr (List.length_map _)

end TypeDecl

/-! ## Walks in step -/

namespace Gate

variable {types types' : Resolver} {p q : Position}

theorem saturates_of_mem_supertypesFor (hv : types.ExtendsNoVariable) (hs : types.Saturated)
    {name : String} {d : TypeDecl} (hd : types.declaration name = some d) {t r : TypeRef}
    (h : r ∈ d.supertypesFor t) : types.Saturates r := by
  obtain ⟨s, hmem, hname, hargs⟩ := TypeDecl.length_args_of_mem_supertypesFor (hv _ _ hd) h
  intro hne e he
  rcases hargs with hargs | hargs
  · exact absurd hargs hne
  · have hsargs : s.args ≠ [] := by
      rintro hnil
      rw [hnil] at hargs
      exact hne (List.eq_nil_of_length_eq_zero hargs)
    rw [hname] at he
    rw [hargs]
    exact hs _ _ hd s hmem hsargs e he

/-- The uses that are pending keep having arguments for all parameters, or none. -/
theorem Round.saturates (hv : types.ExtendsNoVariable) (hs : types.Saturated)
    (hr : Round types p q) (h : ∀ t ∈ p.pending, types.Saturates t) :
    ∀ t ∈ q.pending, types.Saturates t := by
  cases hr with
  | undecided hn hd => exact fun t ht => h t (List.mem_cons_of_mem _ ht)
  | repeated hn hseen => exact fun t ht => h t (List.mem_cons_of_mem _ ht)
  | known hn hseen hd =>
    intro t ht
    rcases List.mem_append.1 ht with ht | ht
    · exact saturates_of_mem_supertypesFor hv hs hd ht
    · exact h t (List.mem_cons_of_mem _ ht)
  | unknown hn hseen hd => exact fun t ht => h t (List.mem_cons_of_mem _ ht)

/-- **In step.** The same round is made where the declarations have other names for their
parameters. -/
theorem Round.of_renamesTo (ht : types.RenamesTo types') (hv : types.ExtendsNoVariable)
    (hr : Round types p q) (h : ∀ t ∈ p.pending, types.Saturates t) : Round types' p q := by
  cases hr with
  | undecided hn hd => exact .undecided hn hd
  | repeated hn hseen => exact .repeated hn hseen
  | known hn hseen hd =>
    obtain ⟨d', hd', hrenames⟩ := Resolver.exists_declaration_of_rel ht hd
    have hargs := fun hne => h _ List.mem_cons_self hne _ hd
    rw [← hrenames.supertypesFor_eq (hv _ _ hd) hargs]
    exact .known hn hseen hd'
  | unknown hn hseen hd => exact .unknown hn hseen (Resolver.declaration_eq_none_of_rel ht hd)

theorem run_of_renamesTo (ht : types.RenamesTo types') (hv : types.ExtendsNoVariable)
    (hs : types.Saturated) (hrun : ReflTransGen (Round types) p q)
    (h : ∀ t ∈ p.pending, types.Saturates t) : ReflTransGen (Round types') p q := by
  -- from the first round on, so that the pending uses have their arguments before each round
  induction hrun using ReflTransGen.head_induction_on with
  | refl => exact .refl
  | head hr _ ih => exact .head (hr.of_renamesTo ht hv h) (ih (hr.saturates hv hs h))

end Gate

/-- **Type parameters are bound.** Where declarations list no type variables as supertypes, and the
uses that are written have arguments for all parameters or none, renaming the parameters of
declarations changes neither the answer nor what is looked up. -/
theorem mapUsage_of_renamed_parameters {types types' : Resolver} {v : ValueType}
    (ht : types.RenamesTo types') (hv : types.ExtendsNoVariable) (hs : types.Saturated)
    (h : ∀ s ∈ v.supertypes, types.Saturates s) :
    mapUsage v types' = mapUsage v types ∧ mapLookups v types' = mapLookups v types :=
  Gate.outcome_eq_of_same_run fun _ hrun _ => Gate.run_of_renamesTo ht hv hs hrun h

/-! ## Variables with exchanged names -/

/-- A pair is a map from texts to its second part, beside a list of pairs the other way round. -/
def pairDecl : TypeDecl :=
  ⟨"Pair", ["X", "Y"],
    [⟨"List", [⟨"Pair", [.plain "Y", .plain "X"]⟩]⟩, ⟨mapName, [.plain stringName, .plain "Y"]⟩]⟩

/-- A swap is a pair of its parts in the other order. -/
def swapDecl : TypeDecl := ⟨"Swap", ["A", "B"], [⟨"Pair", [.plain "B", .plain "A"]⟩]⟩

/-- The pair with the names of the swap's parameters, in the other order. -/
example : pairDecl.renamed ["B", "A"] = ⟨"Pair", ["B", "A"],
    [⟨"List", [⟨"Pair", [.plain "A", .plain "B"]⟩]⟩,
     ⟨mapName, [.plain stringName, .plain "A"]⟩]⟩ := by decide

def pairs : Resolver := .ofTable (.ofList [pairDecl, swapDecl])

/-- The same types, each declared with the names that the other one had for its parameters. -/
def pairsRenamed : Resolver :=
  .ofTable (.ofList [pairDecl.renamed ["B", "A"], swapDecl.renamed ["Y", "X"]])

/-- A value type with a variable of its own, which is named like a parameter of the pair and of the
renamed swap. -/
def swappedType : ValueType :=
  ⟨"", "Swapped", ["X"], [⟨"Swap", [.plain objectName, .plain "X"]⟩], []⟩

theorem pairs_renamesTo : pairs.RenamesTo pairsRenamed := by
  have hpair : pairDecl.FreshNames ["B", "A"] := ⟨rfl, by decide, by decide⟩
  have hswap : swapDecl.FreshNames ["Y", "X"] := ⟨rfl, by decide, by decide⟩
  exact .insert (.insert .empty (.renamed hpair)) (.renamed hswap)

/-- Although the argument has the name of a parameter, the pair is one of texts and objects under
either names. -/
theorem mapUsage_of_renamed_parameters_swapped :
    pairs.RenamesTo pairsRenamed ∧ pairs.ExtendsNoVariable ∧ pairs.Saturated ∧
    (∀ s ∈ swappedType.supertypes, pairs.Saturates s) ∧
    mapUsage swappedType pairsRenamed = some .parameterized ∧
    mapLookups swappedType pairsRenamed = ["Swap", "Pair", "List"] := by
  have hv : pairs.ExtendsNoVariable := Resolver.extendsNoVariable_of_layers (by decide)
  have hs : pairs.Saturated := fun _ _ hd =>
    Resolver.of_declaration (p := fun d => ∀ s ∈ d.supertypes, pairs.Saturates s) (by decide) hd
  have hstart : ∀ s ∈ swappedType.supertypes, pairs.Saturates s := by decide
  have hswap : pairs.declaration "Swap" = some swapDecl := by decide
  have hpair : pairs.declaration "Pair" = some pairDecl := by decide
  have hrun : ReflTransGen (Gate.Round pairs) (.start swappedType)
      ⟨["List", "Pair", "Swap"], [targetMap]⟩ :=
    .head (.known (by decide) (by decide) hswap) <| .head (.known (by decide) (by decide) hpair) <|
    .head (.unknown (by decide) (by decide) (by decide)) .refl
  have hend : Gate.Ended ⟨["List", "Pair", "Swap"], [targetMap]⟩ (some .parameterized) :=
    .decided rfl (by decide)
  obtain ⟨husage, hlookups⟩ := mapUsage_of_renamed_parameters pairs_renamesTo hv hs hstart
  refine ⟨pairs_renamesTo, hv, hs, hstart, ?_, ?_⟩
  · rw [husage, Gate.mapUsage_of_run hrun hend]
  · rw [hlookups, Gate.mapLookups_of_run hrun hend]
    rfl

end MapBacked
