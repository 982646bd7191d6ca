import MapBacked.Proofs.Text.Trimming
import MapBacked.Property.Rule

/-!
# Usable keys

A key-bearing marker names a key if its attribute is there and is more than blanks, and the key is
then free of blanks on both sides. Only texts can be blank or have blanks there: all other values
are printed with signs of their own at the two ends (`MarkerValue.edged_shown`), braces in the case
of lists, so that the blanks and the empty texts within a list are of no consequence. A map-key
marker names what the marker would name as a key, or else the empty text.
-/

namespace MapBacked

namespace MarkerValue

theorem edged_bool (b : Bool) : Text.Edged (bool b).shown := by
  cases b with
  | false => exact ⟨⟨'f', rfl, by decide⟩, ⟨'e', rfl, by decide⟩⟩
  | true => exact ⟨⟨'t', rfl, by decide⟩, ⟨'e', rfl, by decide⟩⟩

theorem edged_int (i : Int64) : Text.Edged (int i).shown := by
  show Text.Edged (toString i.toInt)
  rw [Int.toString_eq_repr, Int.repr_eq_if]
  split
  · exact Text.edged_repr _
  · have hsign : Text.BeginsSolid ("-" : String).toList := ⟨'-', rfl, by decide⟩
    exact Text.edged_append hsign (Text.edged_repr _).back

/-- What stands between the braces is of no consequence. -/
theorem edged_list (vs : List MarkerValue) : Text.Edged (list vs).shown := by
  have hopen : Text.BeginsSolid ("\x7b" : String).toList := ⟨'\x7b', rfl, by decide⟩
  have hclose : Text.BeginsSolid ("\x7d" : String).toList.reverse := ⟨'\x7d', rfl, by decide⟩
  rw [shown]
  apply Text.edged_append
  · rw [String.toList_append]
    exact hopen.append _
  · exact hclose

/-- Only texts are printed with nothing of their own around them. -/
theorem edged_shown {v : MarkerValue} (h : ∀ s, v ≠ text s) : Text.Edged v.shown := by
  cases v with
  | bool b => exact edged_bool b
  | int i => exact edged_int i
  | list vs => exact edged_list vs
  | text s => exact absurd rfl (h s)

end MarkerValue

namespace MarkerRule

variable {m : Marker} {attr : KeyAttribute}

theorem keyOverride_key_of_none (h : m.value? attr.text = none) :
    (key attr).keyOverride m = none := by
  rw [keyOverride, trimmedValue?, h]
  rfl

theorem keyOverride_key_of_some {v : MarkerValue} (h : m.value? attr.text = some v) :
    (key attr).keyOverride m = (some (Text.trimmed v.shown)).filter (!·.isEmpty) := by
  rw [keyOverride, trimmedValue?, h]
  rfl

theorem keyOverride_key_of_blank {v : MarkerValue} (h : m.value? attr.text = some v)
    (hv : ∀ c ∈ v.shown.toList, Text.isSpace c = true) : (key attr).keyOverride m = none := by
  rw [keyOverride_key_of_some h, Text.trimmed, Text.trim_eq_nil_iff.2 hv]
  rfl

theorem keyOverride_key_of_edged {v : MarkerValue} (h : m.value? attr.text = some v)
    (hv : Text.Edged (Text.trimmed v.shown)) :
    (key attr).keyOverride m = some (Text.trimmed v.shown) := by
  have hne : (Text.trimmed v.shown).isEmpty = false := by
    simpa using hv.ne_empty
  rw [keyOverride_key_of_some h, Option.filter_some, hne]
  rfl

/-- An attribute that is there names no key exactly if it is a blank text. -/
theorem keyOverride_key_eq_none_iff :
    (key attr).keyOverride m = none ↔ m.value? attr.text = none ∨
      ∃ s, m.value? attr.text = some (.text s) ∧ ∀ c ∈ s.toList, Text.isSpace c = true := by
  constructor
  · intro hnone
    cases hvalue : m.value? attr.text with
    | none => exact .inl rfl
    | some v =>
      right
      by_cases hv : ∀ c ∈ v.shown.toList, Text.isSpace c = true
      · cases v with
        | text s => exact ⟨s, rfl, hv⟩
        | bool b => exact absurd hv (MarkerValue.edged_bool b).not_blank
        | int i => exact absurd hv (MarkerValue.edged_int i).not_blank
        | list vs => exact absurd hv (MarkerValue.edged_list vs).not_blank
      · rw [keyOverride_key_of_edged hvalue (Text.edged_trimmed hv)] at hnone
        cases hnone
  · rintro (hvalue | ⟨s, hvalue, hs⟩)
    · exact keyOverride_key_of_none hvalue
    · exact keyOverride_key_of_blank hvalue hs

theorem keyOverride_mapKey (m : Marker) :
    mapKey.keyOverride m = some (((key .value).keyOverride m).getD "") := by
  rw [keyOverride, keyOverride]
  cases htext : trimmedValue? m .value with
  | none => rfl
  | some k =>
    rw [Option.filter_some]
    split
    · rfl
    · -- a key that is dropped is empty, and the empty text is what takes its place
      rename_i hempty
      have hk : k = "" := by simpa using hempty
      rw [hk]
      rfl

end MarkerRule

open MarkerRule

/-- **When a marker carries a usable key.** -/
theorem usable_keys (m : Marker) :
    (∀ attr : KeyAttribute,
      ((key attr).keyOverride m = none ↔ m.value? attr.text = none ∨
        ∃ s, m.value? attr.text = some (.text s) ∧ ∀ c ∈ s.toList, Text.isSpace c = true) ∧
      (∀ v, m.value? attr.text = some v → (∀ s, v ≠ .text s) →
        (key attr).keyOverride m = some v.shown ∧ Text.trimmed v.shown = v.shown ∧
        ¬ ∀ c ∈ v.shown.toList, Text.isSpace c = true) ∧
      (∀ s, m.value? attr.text = some (.text s) → (¬ ∀ c ∈ s.toList, Text.isSpace c = true) →
        ∃ k, (key attr).keyOverride m = some k ∧ Text.Trims s k ∧ k ≠ "" ∧ Text.trimmed k = k)) ∧
    mapKey.keyOverride m = some (((key .value).keyOverride m).getD "") ∧
    nullable.keyOverride m = none := by
  refine ⟨?_, keyOverride_mapKey m, rfl⟩
  intro attr
  refine ⟨keyOverride_key_eq_none_iff, ?_, ?_⟩
  · intro v hvalue hv
    have hedged := MarkerValue.edged_shown hv
    have htrimmed := hedged.trimmed_eq
    refine ⟨?_, htrimmed, hedged.not_blank⟩
    rw [keyOverride_key_of_edged hvalue (htrimmed.symm ▸ hedged), htrimmed]
  · intro s hvalue hs
    have htrims := Text.trims_trimmed hs
    exact ⟨_, keyOverride_key_of_edged hvalue htrims.1, htrims, htrims.1.ne_empty,
      htrims.1.trimmed_eq⟩

/-- A marker with blanks within a list, and with blanks beyond the ASCII ones around a text. -/
def roomyMarker : Marker :=
  ((Marker.new "Json").withAttribute "name" (.list [.text " ", .list [], .text "a "])).withAttribute
    "value" (.text "\u00a0\tkey \u2003")

/-- The blanks in the list stay, those around the text go. -/
theorem usable_keys_roomy :
    roomyMarker.value? "name" = some (.list [.text " ", .list [], .text "a "]) ∧
    (∀ s, MarkerValue.list [.text " ", .list [], .text "a "] ≠ .text s) ∧
    (key .name).keyOverride roomyMarker = some "\x7b , \x7b\x7d, a \x7d" ∧
    roomyMarker.value? "value" = some (.text "\u00a0\tkey \u2003") ∧
    (¬ ∀ c ∈ "\u00a0\tkey \u2003".toList, Text.isSpace c = true) ∧
    (key .value).keyOverride roomyMarker = some "key" ∧
    mapKey.keyOverride roomyMarker = some "key" := by
  have hname : roomyMarker.value? "name" = some (.list [.text " ", .list [], .text "a "]) := rfl
  have hlist : ∀ s, MarkerValue.list [.text " ", .list [], .text "a "] ≠ .text s := fun _ => nofun
  have hvalue : roomyMarker.value? "value" = some (.text "\u00a0\tkey \u2003") := rfl
  have htext : ¬ ∀ c ∈ "\u00a0\tkey \u2003".toList, Text.isSpace c = true := by
    intro hblank
    exact absurd (hblank 'k' (by simp)) (by decide)
  obtain ⟨hkeys, hmapKey, -⟩ := usable_keys roomyMarker
  obtain ⟨hshown, -, -⟩ := (hkeys .name).2.1 _ hname hlist
  obtain ⟨k, hk, htrims, -, -⟩ := (hkeys .value).2.2 _ hvalue htext
  obtain rfl : k = "key" := htrims.eq_trimmed
  refine ⟨hname, hlist, hshown, hvalue, htext, hk, ?_⟩
  rw [hmapKey, hk]
  rfl

end MapBacked
