import Mathlib.Data.List.DropRight
import ScriptHost.Text.Blank

/-!
# What is left without the blanks around it

Leaving the blank characters at both ends of a text aside gives the one part of
it that has only blank characters around it and neither begins nor ends with
one.
-/

namespace ScriptHost.Text

/-- A text is `kept` with blank characters around it, and `kept` neither begins
nor ends with one. -/
def Trims (text kept : String) : Prop :=
  ∃ front back, text.toList = front ++ kept.toList ++ back ∧
    (∀ c ∈ front, isBlank c = true) ∧ (∀ c ∈ back, isBlank c = true) ∧
    (∀ c ∈ kept.toList.head?, isBlank c = false) ∧
    ∀ c ∈ kept.toList.getLast?, isBlank c = false

theorem trimChars_eq (cs : List Char) :
    trimChars cs = (cs.dropWhile isBlank).rdropWhile isBlank := rfl

theorem trimChars_append_blank {kept back : List Char}
    (hback : ∀ c ∈ back, isBlank c = true)
    (hhead : ∀ c ∈ kept.head?, isBlank c = false)
    (hlast : ∀ c ∈ kept.getLast?, isBlank c = false) :
    trimChars (kept ++ back) = kept := by
  have hkept : kept.rdropWhile isBlank = kept := by
    rw [List.rdropWhile_eq_self_iff]
    intro hne
    simp [hlast _ (List.getLast?_eq_some_getLast hne)]
  have hdropped : (kept ++ back).rdropWhile isBlank = kept := by
    rw [List.rdropWhile, List.reverse_append,
      List.dropWhile_append_of_pos fun c hc =>
        hback c (List.mem_reverse.mp hc)]
    exact hkept
  rw [trimChars_eq]
  cases kept with
  | nil =>
      rw [List.nil_append, List.dropWhile_eq_nil_iff.mpr hback]
      rfl
  | cons c rest =>
      have hc : ¬ isBlank c = true := by simp [hhead c rfl]
      rw [List.cons_append, List.dropWhile_cons_of_neg hc]
      exact hdropped

theorem trims_trim (text : String) : Trims text (trim text) := by
  let unled := text.toList.dropWhile isBlank
  have htrim : (trim text).toList = unled.rdropWhile isBlank := by
    rw [trim, String.toList_ofList]
    rfl
  refine ⟨text.toList.takeWhile isBlank, unled.rtakeWhile isBlank, ?_, ?_, ?_,
    ?_, ?_⟩
  · rw [htrim, List.append_assoc, List.rdropWhile_append_rtakeWhile,
      List.takeWhile_append_dropWhile]
  · intro c hc
    exact List.mem_takeWhile_imp hc
  · intro c hc
    exact List.mem_rtakeWhile_imp hc
  · -- What is kept begins as the text does after its leading blanks.
    intro c hc
    have hunled : unled.head? = some c := by
      rw [htrim] at hc
      obtain ⟨rest, hrest⟩ := List.rdropWhile_prefix isBlank (l := unled)
      rw [← hrest, List.head?_append, hc]
      rfl
    have hnot := List.head?_dropWhile_not isBlank text.toList
    rw [hunled] at hnot
    exact hnot
  · intro c hc
    rw [htrim] at hc
    obtain ⟨hne, rfl⟩ := List.mem_getLast?_eq_getLast hc
    simpa using List.rdropWhile_last_not isBlank unled hne

theorem trims_iff {text kept : String} :
    Trims text kept ↔ trim text = kept := by
  constructor
  · rintro ⟨front, back, htext, hfront, hback, hhead, hlast⟩
    apply String.toList_inj.mp
    have hled : trimChars text.toList = trimChars (kept.toList ++ back) := by
      rw [trimChars_eq, htext, List.append_assoc,
        List.dropWhile_append_of_pos hfront]
      rfl
    rw [trim, String.toList_ofList, hled,
      trimChars_append_blank hback hhead hlast]
  · rintro rfl
    exact trims_trim text

end ScriptHost.Text
