import Mathlib.Data.List.Induction
import Mathlib.Data.List.Nodup

/-!
# Lists without repetitions and first elements

Things are numbered from one on in the order of their creation.  The numbers
wrap around, so they tell things apart as long as they have not run out.  Where
a list has repetitions, they can be erased so that first occurrences stay.
What goes through a list until something is wrong stops at the first element
that is.
-/

namespace ScriptHost

/-- The numbers of the first things that are numbered. -/
def numbers (count : Nat) : List UInt32 :=
  (List.range count).map fun place => UInt32.ofNat (place + 1)

theorem numbers_succ (count : Nat) :
    numbers (count + 1) = numbers count ++ [UInt32.ofNat (count + 1)] := by
  rw [numbers, List.range_succ, List.map_append]
  rfl

/-- The next number is a new one until all have been given. -/
theorem next_not_mem_numbers {count : Nat} (hcount : count < UInt32.size) :
    UInt32.ofNat (count + 1) ∉ numbers count := by
  intro hmem
  obtain ⟨place, hplace, hequal⟩ := List.mem_map.mp hmem
  have hplace := List.mem_range.mp hplace
  have hvalue := congrArg UInt32.toNat hequal
  simp only [UInt32.toNat_ofNat'] at hvalue
  rw [UInt32.size] at hcount
  omega

theorem nodup_numbers {count : Nat} (hcount : count ≤ UInt32.size) :
    (numbers count).Nodup := by
  induction count with
  | zero => exact List.nodup_nil
  | succ count ih =>
      rw [numbers_succ, List.nodup_append_comm]
      exact List.nodup_cons.mpr
        ⟨next_not_mem_numbers hcount, ih (Nat.le_of_succ_le hcount)⟩

section

variable {α : Type} [DecidableEq α]

theorem eraseDups_concat (list : List α) (last : α) :
    (list ++ [last]).eraseDups =
      if last ∈ list then list.eraseDups else list.eraseDups ++ [last] := by
  rw [List.eraseDups_append]
  by_cases hlast : last ∈ list
  · simp [List.removeAll, hlast]
  · simp [List.removeAll, hlast, List.eraseDups_cons]

/-- What is left after erasing repetitions comes in the order of first
occurrences. -/
theorem pairwise_eraseDups (list : List α) :
    list.eraseDups.Pairwise fun a b =>
      ∃ front back, list = front ++ a :: back ∧ b ∉ front ++ [a] := by
  induction list using List.reverseRecOn with
  | nil => exact List.Pairwise.nil
  | append_singleton list last ih =>
      have hearlier : list.eraseDups.Pairwise fun a b =>
          ∃ front back, list ++ [last] = front ++ a :: back ∧
            b ∉ front ++ [a] := by
        refine ih.imp ?_
        rintro a b ⟨front, back, rfl, hb⟩
        exact ⟨front, back ++ [last], by simp, hb⟩
      rw [eraseDups_concat]
      split
      · exact hearlier
      · rename_i hlast
        refine List.pairwise_append.mpr
          ⟨hearlier, List.pairwise_singleton _ _, ?_⟩
        intro a ha b hb
        rw [List.mem_singleton.mp hb]
        obtain ⟨front, back, rfl⟩ :=
          List.append_of_mem (List.mem_eraseDups.mp ha)
        refine ⟨front, back ++ [last], by simp, fun hmem => hlast ?_⟩
        rw [List.append_cons]
        exact List.mem_append_left _ hmem

theorem nodup_eraseDups (list : List α) : list.eraseDups.Nodup := by
  refine (pairwise_eraseDups list).imp ?_
  rintro a _ ⟨front, _, _, hb⟩ rfl
  exact hb (List.mem_append_right _ (List.mem_singleton_self a))

theorem eraseDups_of_nodup {list : List α} (hlist : list.Nodup) :
    list.eraseDups = list := by
  induction list using List.reverseRecOn with
  | nil => rfl
  | append_singleton list last ih =>
      rw [List.nodup_append_comm, List.singleton_append, List.nodup_cons]
        at hlist
      rw [eraseDups_concat, if_neg hlist.1, ih hlist.2]

theorem eraseDups_filter (keep : α → Bool) (list : List α) :
    (list.filter keep).eraseDups = list.eraseDups.filter keep := by
  induction list using List.reverseRecOn with
  | nil => rfl
  | append_singleton list last ih =>
      rw [List.filter_append, eraseDups_concat]
      by_cases hkeep : keep last = true
      · rw [List.filter_cons_of_pos hkeep, List.filter_nil, eraseDups_concat,
          ih]
        by_cases hlast : last ∈ list
        · rw [if_pos hlast, if_pos (List.mem_filter.mpr ⟨hlast, hkeep⟩)]
        · rw [if_neg hlast,
            if_neg fun hmem => hlast (List.mem_of_mem_filter hmem),
            List.filter_append, List.filter_cons_of_pos hkeep,
            List.filter_nil]
      · rw [List.filter_cons_of_neg hkeep, List.filter_nil, List.append_nil,
          ih]
        split
        · rfl
        · rw [List.filter_append, List.filter_cons_of_neg hkeep,
            List.filter_nil, List.append_nil]

/-- Repetitions do not change what is found first. -/
theorem find?_eraseDups (wanted : α → Bool) (list : List α) :
    list.eraseDups.find? wanted = list.find? wanted := by
  induction list using List.reverseRecOn with
  | nil => rfl
  | append_singleton list last ih =>
      rw [eraseDups_concat, List.find?_append, ← ih]
      split
      · rename_i hlast
        cases hfound : list.eraseDups.find? wanted with
        | some found => rfl
        | none =>
            rw [List.find?_eq_none] at hfound
            have hlast := hfound last (List.mem_eraseDups.mpr hlast)
            simp [hlast]
      · rw [List.find?_append]

end

/-- Either all elements of a list are good, or there is a first one that is
not. -/
theorem forall_or_first_not {α : Type} (good : α → Prop) (list : List α) :
    (∀ a ∈ list, good a) ∨ ∃ earlier a later, list = earlier ++ a :: later ∧
      (∀ b ∈ earlier, good b) ∧ ¬ good a := by
  classical
  cases hfind : list.find? fun a => !decide (good a) with
  | none => exact .inl (by simpa using hfind)
  | some a =>
      obtain ⟨hbad, earlier, later, hsplit, hearlier⟩ :=
        List.find?_eq_some_iff_append.mp hfind
      exact .inr ⟨earlier, a, later, hsplit, by simpa using hearlier,
        by simpa using hbad⟩

end ScriptHost
