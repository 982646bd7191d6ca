import MapBacked.Generation
import MapBacked.Proofs.ClassText.Tree
import MapBacked.Proofs.Template.Running

/-!
# The template writes the class

Rendering the built-in template gives the class line by line as `ClassDescriptor.lines` says it,
for every descriptor. Each of the three loops is a run of its body over the properties, and what a
round puts out is a line, or an argument, of the direct description (`run_parameters`,
`run_arguments`, `run_entries`). The rest is putting the statements one behind the other.
-/

namespace MapBacked

open Template ClassText

namespace ClassTemplate

variable {d : ClassDescriptor} {p : PropertySpec} {ps : List PropertySpec} {scope : Scope}
  {index total : Nat}

theorem run_passage (s : String) : (passage s).run scope = .ok (scope, s) := by
  rw [passage, String.ofList_toList]
  exact run_text s

/-! ## A round over the properties -/

/-- The scope of the round of a property. -/
def propertyScope (scope : Scope) (index total : Nat) (p : PropertySpec) : Scope :=
  roundScope scope "property" index total p.toValue

theorem eval_part {name s : String} (h : p.toValue.attr name = .ok (.text s)) :
    (Expr.attr (.name "property") name).eval (propertyScope scope index total p)
      = .ok (.text s) := by
  rw [Expr.eval, Expr.eval, propertyScope, roundScope, NameMap.get?_insert_self]
  exact h

theorem run_part {name s : String} (h : p.toValue.attr name = .ok (.text s)) :
    (part name).run (propertyScope scope index total p)
      = .ok (propertyScope scope index total p, s) :=
  run_output (eval_part h)

/-- The last item has no separator behind it. -/
theorem run_separator (sep : String) :
    (separator sep).run (propertyScope scope index total p)
      = .ok (propertyScope scope index total p, if total == index + 1 then "" else sep) := by
  have hloop : (propertyScope scope index total p).get? "loop"
      = some (roundValue index (some total)) := by
    rw [propertyScope, roundScope, NameMap.get?_insert, if_neg (by decide),
      NameMap.get?_insert_self]
  have hlast : (Expr.attr (.name "loop") "last").eval (propertyScope scope index total p)
      = .ok (.bool (total == index + 1)) := by
    rw [Expr.eval, Expr.eval, hloop]
    rfl
  have hnot : (Expr.not (.attr (.name "loop") "last")).eval (propertyScope scope index total p)
      = .ok (.bool !(total == index + 1)) := by
    rw [Expr.eval, hlast]
    rfl
  refine run_output ?_
  rw [Expr.eval, hnot]
  cases total == index + 1 <;> rfl

/-- The loop over the properties puts out the text of its body for each of them. -/
theorem run_overProperties {body : List Stmt} {f : Bool → PropertySpec → String}
    (hb : ∀ i p, runAll body (propertyScope d.scope i d.properties.length p)
      = .ok (propertyScope d.scope i d.properties.length p,
          f (d.properties.length == i + 1) p)) :
    (overProperties body).run d.scope = .ok (d.scope, eachText f d.properties) :=
  run_loop (eval_name rfl) fun i p => ⟨_, hb i p⟩

/-! ## The three loops -/

theorem eachText_parameter : eachText (fun last p =>
    parameter p ++ (if last then "" else ",") ++ "\n") ps = Text.ofLines (parameterLines ps) := by
  fun_induction parameterLines ps with
  | case1 => rfl
  | case2 p => simp [eachText]
  | case3 p q rest ih => simp [eachText, ih]

theorem run_parameters : (overProperties parameterBody).run d.scope
    = .ok (d.scope, Text.ofLines (parameterLines d.properties)) := by
  rw [← eachText_parameter]
  refine run_overProperties fun i p => ?_
  -- the text as the statements put it out, one behind the other
  have htext (sep : String) : parameter p ++ sep ++ "\n" = "      " ++ (p.nullable ++ ("" ++
      (p.type ++ (" " ++ (p.name ++ ("" ++ (sep ++ ("\n" ++ "")))))))) := by
    simp [parameter, String.append_assoc]
  rw [htext]
  exact runAll_cons (run_passage _) <| runAll_cons (run_part rfl) <|
    runAll_cons (run_passage _) <| runAll_cons (run_part rfl) <|
    runAll_cons (run_passage _) <| runAll_cons (run_part rfl) <|
    runAll_cons (run_passage _) <| runAll_cons (run_separator _) <|
    runAll_cons (run_passage _) runAll_nil

theorem run_arguments : (overProperties argumentBody).run d.scope
    = .ok (d.scope, Text.separated ", " (d.properties.map PropertySpec.name)) := by
  rw [← eachText_separated]
  refine run_overProperties fun i p => ?_
  have htext (sep : String) : p.name ++ sep = "" ++ (p.name ++ ("" ++ (sep ++ ("" ++ "")))) := by
    simp
  rw [htext]
  exact runAll_cons (run_passage _) <| runAll_cons (run_part rfl) <|
    runAll_cons (run_passage _) <| runAll_cons (run_separator _) <|
    runAll_cons (run_passage _) runAll_nil

/-- The key of a property goes through the filter that makes a literal of it. -/
theorem run_key :
    (Stmt.output (.filter "java_string" (.attr (.name "property") "key") [] [])).run
        (propertyScope scope index total p)
      = .ok (propertyScope scope index total p, Text.literal p.key) := by
  refine run_output ?_
  rw [Expr.eval, eval_part (s := p.key) rfl]
  rfl

theorem run_entries : (overProperties entryBody).run d.scope
    = .ok (d.scope, Text.ofLines (d.properties.map putLine)) := by
  rw [← eachText_lines]
  refine run_overProperties fun i p => ?_
  have htext : putLine p ++ "\n" = "    $entries.put(" ++ (Text.literal p.key ++ (", " ++
      (p.value ++ (");\n" ++ "")))) := by
    unfold putLine
    simp [String.append_assoc]
  rw [htext]
  exact runAll_cons (run_passage _) <| runAll_cons run_key <| runAll_cons (run_passage _) <|
    runAll_cons (run_part rfl) <| runAll_cons (run_passage _) runAll_nil

/-! ## The parts that ask for a name -/

/-- The default package is not named. -/
theorem run_package : (Stmt.branch (.name "packageName")
      [passage "package ", .output (.name "packageName"), passage ";\n\n"] []).run d.scope
    = .ok (d.scope, Text.ofLines (packageLines d.packageName)) := by
  have hname : (Expr.name "packageName").eval d.scope = .ok (.text d.packageName) := eval_name rfl
  rw [run_branch hname rfl]
  by_cases hp : d.packageName = ""
  · rw [hp]
    rfl
  · have htext : Text.ofLines ["package " ++ d.packageName ++ ";", ""]
        = "package " ++ (d.packageName ++ (";\n\n" ++ "")) := by
      simp [String.append_assoc]
    rw [if_pos (bne_iff_ne.2 hp), packageLines, if_neg hp, htext]
    exact runAll_cons (run_passage _) <| runAll_cons (run_output hname) <|
      runAll_cons (run_passage _) runAll_nil

/-- A flag of the class chooses between two texts. -/
theorem run_flag {x yes no : String} {b : Bool}
    (h : (Expr.name x).eval d.scope = .ok (.bool b)) :
    (Stmt.branch (.name x) [passage yes] [passage no]).run d.scope
      = .ok (d.scope, if b then yes else no) := by
  rw [run_branch h rfl, ← String.append_empty (s := if b then yes else no)]
  cases b with
  | true => exact runAll_cons (run_passage yes) runAll_nil
  | false => exact runAll_cons (run_passage no) runAll_nil

/-! ## All statements -/

/-- What is put out in front of the first entry. -/
theorem ofLines_linesBefore : Text.ofLines d.linesBefore =
    Text.ofLines (packageLines d.packageName) ++ (Text.ofLines importLines ++
    ((if d.isFinal then "final" else "abstract") ++ (" class " ++ (d.className ++
    (d.typeParameters ++ (" extends " ++ (d.superclassName ++ (d.typeParameters ++
    (beforeConstructor ++ (d.className ++ ("(\n" ++
    (Text.ofLines (parameterLines d.properties) ++ ("  ) \x7b\n    super(" ++
    (Text.separated ", " (d.properties.map PropertySpec.name) ++ beforeEntries)))))))))))))) := by
  unfold ClassDescriptor.linesBefore constructorLines headLine superLine beforeConstructor
    beforeEntries
  simp only [Text.ofLines_append, Text.ofLines_cons, Text.ofLines_nil, String.append_assoc]
  rfl

/-- What is put out behind the last entry. -/
theorem ofLines_linesBehind : Text.ofLines d.linesBehind =
    beforePut ++ ((if d.rawMap then signatureLine (putSignature true)
      else signatureLine (putSignature false)) ++ (beforePutAll ++
    ((if d.rawMap then signatureLine (putAllSignature true)
      else signatureLine (putAllSignature false)) ++ behindPutAll))) := by
  unfold ClassDescriptor.linesBehind
  cases d.rawMap
  all_goals
    unfold beforePut beforePutAll behindPutAll signatureLine
    simp only [if_true, Bool.false_eq_true, if_false, ← Text.ofLines_append]
    rfl

/-- **The tree puts out the lines of the class.** -/
theorem run_tree : runAll tree d.scope = .ok (d.scope, Text.ofLines d.lines) := by
  refine Eq.trans (runAll_cons (run_passage _) <| runAll_cons run_package <|
    runAll_cons (run_passage _) <| runAll_cons (run_flag (eval_name rfl)) <|
    runAll_cons (run_passage _) <| runAll_cons (run_output (eval_name rfl)) <|
    runAll_cons (run_passage _) <| runAll_cons (run_output (eval_name rfl)) <|
    runAll_cons (run_passage _) <| runAll_cons (run_output (eval_name rfl)) <|
    runAll_cons (run_passage _) <| runAll_cons (run_output (eval_name rfl)) <|
    runAll_cons (run_passage _) <| runAll_cons (run_output (eval_name rfl)) <|
    runAll_cons (run_passage _) <| runAll_cons run_parameters <|
    runAll_cons (run_passage _) <| runAll_cons run_arguments <|
    runAll_cons (run_passage _) <| runAll_cons run_entries <|
    runAll_cons (run_passage _) <| runAll_cons (run_flag (eval_name rfl)) <|
    runAll_cons (run_passage _) <| runAll_cons (run_flag (eval_name rfl)) <|
    runAll_cons (run_passage _) runAll_nil) (congrArg (fun s => Except.ok (d.scope, s)) ?_)
  unfold ClassDescriptor.lines
  rw [Text.ofLines_append, Text.ofLines_append, ofLines_linesBefore, ofLines_linesBehind]
  simp only [String.append_assoc, String.empty_append, String.append_empty]

/-- The template renders to the lines of the class. -/
theorem text_tree (d : ClassDescriptor) :
    Renderer.text (E := .ofTrees) ⟨tree⟩ d = .ok (Text.ofLines d.lines) := by
  rw [Renderer.text, Engine.render_ofTrees, render, run_tree]
  rfl

end ClassTemplate

/-- **The class is what the direct description says.** The built-in template is read without a
fault, rendering it has none for any class, and the text is made of the lines of the class. -/
theorem Renderer.builtin_render : ∃ r, Renderer.builtin .ofTrees = .ok r ∧ ∀ d : ClassDescriptor,
    (r.render d).result = .ok (Text.ofLines d.lines) ∧
    (r.render d).events = [.classRendered d.className (Text.ofLines d.lines).utf8ByteSize] := by
  refine ⟨⟨ClassTemplate.tree⟩, ClassTemplate.builtin_eq, fun d => ?_⟩
  rw [Renderer.render, ClassTemplate.text_tree]
  exact ⟨rfl, rfl⟩

end MapBacked
