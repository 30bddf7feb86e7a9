import Mathlib.Data.List.Basic
import ScriptHost.Text.Stem

/-!
# What a stem says about a text

A text has a stem exactly if it is the stem followed by something, and that
something is what is found after the stem.
-/

namespace ScriptHost.Text

theorem afterStem?_eq_some_iff {stem text rest : String} :
    afterStem? stem text = some rest ↔ text = stem ++ rest := by
  rw [afterStem?, Option.map_eq_some_iff]
  constructor
  · rintro ⟨letters, hletters, rfl⟩
    rw [List.isPrefixOf?_eq_some_iff_append_eq] at hletters
    apply String.toList_inj.mp
    rw [String.toList_append, String.toList_ofList, hletters]
  · rintro rfl
    refine ⟨rest.toList, ?_, String.ofList_toList⟩
    rw [List.isPrefixOf?_eq_some_iff_append_eq, String.toList_append]

theorem hasStem_eq_isSome (stem text : String) :
    hasStem stem text = (afterStem? stem text).isSome := by
  rw [hasStem, afterStem?, Option.isSome_map,
    List.isSome_isPrefixOf?_eq_isPrefixOf]

/-- A text has a stem if and only if it is the stem with something after
it. -/
theorem hasStem_iff {stem text : String} :
    hasStem stem text = true ↔ ∃ rest, text = stem ++ rest := by
  rw [hasStem_eq_isSome, Option.isSome_iff_exists]
  simp only [afterStem?_eq_some_iff]

end ScriptHost.Text
