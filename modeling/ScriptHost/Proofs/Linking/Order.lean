import Mathlib.Data.List.Induction
import Mathlib.Data.List.Sort
import ScriptHost.Linking.Pipeline

/-!
# The order of linkers

Every registration sorts the linkers of a pipeline anew.  Sorting leaves linkers
of equal priority as they stand, and a sorted list is determined by the linkers
of each priority in their order.  So sorting after each registration comes to
sorting once, after the last one.
-/

namespace ScriptHost

variable {σ : Type}

namespace Linker

def mayPrecede (earlier later : Linker σ) : Bool :=
  later.priority ≤ earlier.priority

def Descending (linkers : List (Linker σ)) : Prop :=
  linkers.Pairwise fun earlier later => later.priority ≤ earlier.priority

def ofPriority (priority : Int32) (linkers : List (Linker σ)) :
    List (Linker σ) :=
  linkers.filter fun linker => linker.priority = priority

theorem mayPrecede_iff {earlier later : Linker σ} :
    mayPrecede earlier later = true ↔ later.priority ≤ earlier.priority :=
  decide_eq_true_iff

theorem mayPrecede_trans (first second third : Linker σ)
    (hleft : mayPrecede first second = true)
    (hright : mayPrecede second third = true) :
    mayPrecede first third = true := by
  rw [mayPrecede_iff] at hleft hright ⊢
  exact Int32.le_trans hright hleft

theorem mayPrecede_total (left right : Linker σ) :
    (mayPrecede left right || mayPrecede right left) = true := by
  rw [Bool.or_eq_true, mayPrecede_iff, mayPrecede_iff]
  exact Int32.le_total right.priority left.priority

theorem descending_mergeSort (linkers : List (Linker σ)) :
    Descending (linkers.mergeSort mayPrecede) := by
  apply (List.pairwise_mergeSort mayPrecede_trans mayPrecede_total linkers).imp
  intro earlier later hprecedes
  exact mayPrecede_iff.mp hprecedes

theorem ofPriority_append (priority : Int32) (left right : List (Linker σ)) :
    ofPriority priority (left ++ right) =
      ofPriority priority left ++ ofPriority priority right :=
  List.filter_append left right

theorem ofPriority_cons (priority : Int32) (linker : Linker σ)
    (rest : List (Linker σ)) :
    ofPriority priority (linker :: rest) =
      ofPriority priority [linker] ++ ofPriority priority rest :=
  ofPriority_append priority [linker] rest

theorem ofPriority_cons_self (linker : Linker σ) (rest : List (Linker σ)) :
    ofPriority linker.priority (linker :: rest) =
      linker :: ofPriority linker.priority rest :=
  List.filter_cons_of_pos (decide_eq_true rfl)

theorem mem_ofPriority_self {linker : Linker σ} {linkers : List (Linker σ)} :
    linker ∈ ofPriority linker.priority linkers ↔ linker ∈ linkers := by
  rw [ofPriority, List.mem_filter, decide_eq_true_eq]
  exact and_iff_left rfl

/-- Sorting leaves the linkers of each priority in their order. -/
theorem ofPriority_mergeSort (priority : Int32) (linkers : List (Linker σ)) :
    ofPriority priority (linkers.mergeSort mayPrecede) =
      ofPriority priority linkers := by
  have hequal : (ofPriority priority linkers).Pairwise fun earlier later =>
      mayPrecede earlier later = true := by
    rw [ofPriority, List.pairwise_filter]
    apply List.pairwise_of_forall
    intro earlier later hearlier hlater
    rw [decide_eq_true_eq] at hearlier hlater
    rw [mayPrecede_iff, hearlier, hlater]
    exact Int32.le_refl priority
  have hkept := List.sublist_mergeSort mayPrecede_trans mayPrecede_total hequal
    List.filter_sublist
  have hsublist : (ofPriority priority linkers).Sublist
      (ofPriority priority (linkers.mergeSort mayPrecede)) := by
    have hagain := hkept.filter fun linker => linker.priority = priority
    simpa only [ofPriority, List.filter_filter, Bool.and_self] using hagain
  apply Eq.symm
  apply hsublist.eq_of_length
  exact ((List.mergeSort_perm linkers mayPrecede).filter _).symm.length_eq

/-- The first linker of a descending list has the highest priority. -/
theorem priority_le_of_mem_cons {first linker : Linker σ}
    {rest : List (Linker σ)} (hdescending : Descending (first :: rest))
    (hmem : linker ∈ first :: rest) : linker.priority ≤ first.priority := by
  cases List.mem_cons.mp hmem with
  | inl hfirst =>
      rw [hfirst]
      exact Int32.le_refl first.priority
  | inr hrest => exact (List.pairwise_cons.mp hdescending).1 linker hrest

theorem mem_iff_of_ofPriority_eq {left right : List (Linker σ)}
    (heq : ∀ priority, ofPriority priority left = ofPriority priority right)
    (linker : Linker σ) : linker ∈ left ↔ linker ∈ right := by
  rw [← mem_ofPriority_self, heq, mem_ofPriority_self]

/-- Two descending lists are equal if they have the same linkers of each
priority in the same order. -/
theorem eq_of_ofPriority_eq {left right : List (Linker σ)}
    (hleft : Descending left) (hright : Descending right)
    (heq : ∀ priority, ofPriority priority left = ofPriority priority right) :
    left = right := by
  have hmem := mem_iff_of_ofPriority_eq heq
  induction left generalizing right with
  | nil =>
      apply Eq.symm
      apply List.eq_nil_iff_forall_not_mem.mpr
      intro linker hlinker
      exact List.not_mem_nil ((hmem linker).mpr hlinker)
  | cons first rest ih =>
      cases right with
      | nil => exact absurd ((hmem first).mp List.mem_cons_self) List.not_mem_nil
      | cons other others =>
          have hpriority : first.priority = other.priority := by
            apply Int32.le_antisymm
            · exact priority_le_of_mem_cons hright
                ((hmem first).mp List.mem_cons_self)
            · exact priority_le_of_mem_cons hleft
                ((hmem other).mpr List.mem_cons_self)
          have hheads := heq first.priority
          rw [ofPriority_cons_self, hpriority, ofPriority_cons_self,
            List.cons.injEq] at hheads
          obtain ⟨rfl, _⟩ := hheads
          have hrest : ∀ priority,
              ofPriority priority rest = ofPriority priority others := by
            intro priority
            have hboth := heq priority
            rw [ofPriority_cons, ofPriority_cons priority first others] at hboth
            exact List.append_cancel_left hboth
          rw [ih (List.pairwise_cons.mp hleft).2 (List.pairwise_cons.mp hright).2
            hrest (mem_iff_of_ofPriority_eq hrest)]

end Linker

namespace Pipeline

/-- The pipeline in which linkers were registered one after the other. -/
def ofRegistered (registered : List (Linker σ)) : Pipeline σ :=
  registered.foldl register empty

theorem ofRegistered_append_singleton (registered : List (Linker σ))
    (linker : Linker σ) :
    ofRegistered (registered ++ [linker]) =
      (ofRegistered registered).register linker := by
  rw [ofRegistered, List.foldl_append]
  rfl

theorem linkers_register (pipeline : Pipeline σ) (linker : Linker σ) :
    (pipeline.register linker).linkers =
      (pipeline.linkers ++ [linker]).mergeSort Linker.mayPrecede := rfl

/-- The linkers are asked in the order of one stable sort of all registered
ones. -/
theorem linkers_ofRegistered (registered : List (Linker σ)) :
    (ofRegistered registered).linkers =
      registered.mergeSort Linker.mayPrecede := by
  induction registered using List.reverseRecOn with
  | nil => exact List.mergeSort_nil.symm
  | append_singleton registered linker ih =>
      rw [ofRegistered_append_singleton, linkers_register, ih]
      apply Linker.eq_of_ofPriority_eq
      · exact Linker.descending_mergeSort _
      · exact Linker.descending_mergeSort _
      · intro priority
        rw [Linker.ofPriority_mergeSort, Linker.ofPriority_mergeSort,
          Linker.ofPriority_append, Linker.ofPriority_append,
          Linker.ofPriority_mergeSort]

end Pipeline

end ScriptHost
