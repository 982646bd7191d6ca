import MapBacked.Attempt
import MapBacked.Types.MapFamily

/-!
# What a message tells

A host that is told of a failure sees its message only. Every kind of failure has words of its own
in front, and none of these begins with another, so they tell which kind it is whatever names, paths
and causes stand behind them (`Failure.front_eq_of_message_eq`).
-/

namespace MapBacked

namespace Failure

/-- The words that a message begins with. -/
def front : Failure → String
  | .config (.unreadable _ _) => "failed to read config '"
  | .config (.malformed _) => "invalid config: "
  | .embeddedTemplate _ => "embedded template failed to compile: "
  | .inapplicable _ => "'"
  | .template _ => "template error: "
  | .templateUnreadable _ _ => "failed to read template '"

def fronts : List String :=
  ["failed to read config '", "invalid config: ", "embedded template failed to compile: ", "'",
   "template error: ", "failed to read template '"]

theorem front_mem (f : Failure) : f.front ∈ fronts := by
  cases f with
  | config e => cases e <;> simp [front, fronts]
  | embeddedTemplate message => simp [front, fronts]
  | inapplicable valueType => simp [front, fronts]
  | template cause => simp [front, fronts]
  | templateUnreadable path cause => simp [front, fronts]

/-- None of the fronts begins with another one. -/
theorem fronts_apart : ∀ a ∈ fronts, ∀ b ∈ fronts, a.toList <+: b.toList → a = b := by decide

theorem exists_message_eq (f : Failure) : ∃ rest, f.message = f.front ++ rest := by
  cases f with
  | config e =>
    cases e with
    | unreadable path cause =>
      refine ⟨path.text ++ ("': " ++ cause.message), ?_⟩
      rw [← String.append_assoc, ← String.append_assoc]
      rfl
    | malformed cause => exact ⟨cause, rfl⟩
  | embeddedTemplate message => exact ⟨message, rfl⟩
  | inapplicable valueType => exact ⟨_, String.append_assoc⟩
  | template cause => exact ⟨cause, rfl⟩
  | templateUnreadable path cause =>
    refine ⟨path.text ++ ("': " ++ cause.message), ?_⟩
    rw [← String.append_assoc, ← String.append_assoc]
    rfl

theorem front_isPrefixOf_message (f : Failure) : f.front.toList <+: f.message.toList := by
  obtain ⟨rest, hrest⟩ := exists_message_eq f
  rw [hrest, String.toList_append]
  exact List.prefix_append _ _

/-- **A message tells the kind of failure.** -/
theorem front_eq_of_message_eq {f g : Failure} (h : f.message = g.message) :
    f.front = g.front := by
  have hg : g.front.toList <+: f.message.toList := by
    rw [h]
    exact front_isPrefixOf_message g
  rcases List.prefix_or_prefix_of_prefix (front_isPrefixOf_message f) hg with hfg | hgf
  · exact fronts_apart _ (front_mem f) _ (front_mem g) hfg
  · exact (fronts_apart _ (front_mem g) _ (front_mem f) hgf).symm

/-- What a refusal says is missing is the use of the map interface that the gate asks for. -/
theorem message_inapplicable (valueType : String) : (inapplicable valueType).message
    = "'" ++ valueType ++ "' is not assignable to " ++ targetMap.text := by
  have htarget : targetMap.text = "java.util.Map<java.lang.String, java.lang.Object>" := by decide
  rw [htarget, String.append_assoc]
  rfl

end Failure

end MapBacked
