import Mathlib.Logic.Relation
import ScriptHost.HostType.Basic

/-!
# What a type derives from

A type derives from itself and from whatever its base or one of its interfaces
derives from.  The search for an ancestor finds one exactly if a type of the
wanted sort is among those the searched type derives from.
-/

namespace ScriptHost.HostType

/-- A chain of bases and interfaces leads from one type to the other. -/
def Derives : HostType → HostType → Prop :=
  Relation.ReflTransGen fun t supertype => supertype ∈ t.supertypes

/-- A chain leads from one type to one with the number and the name of the
other. -/
def DerivesAs (t u : HostType) : Prop :=
  ∃ a, t.Derives a ∧ a.id = u.id ∧ a.name = u.name

theorem sizeOf_lt_of_mem_supertypes {t supertype : HostType}
    (hmem : supertype ∈ t.supertypes) : sizeOf supertype < sizeOf t := by
  obtain ⟨owner, id, name, base, interfaces, flags⟩ := t
  rw [supertypes, List.mem_append, Option.mem_toList] at hmem
  rcases hmem with rfl | hinterface
  · simp only [mk.sizeOf_spec, Option.some.sizeOf_spec]
    omega
  · have hlt : sizeOf supertype < sizeOf interfaces :=
      List.sizeOf_lt_of_mem hinterface
    simp only [mk.sizeOf_spec]
    omega

/-- What holds of a type whenever it holds of its direct supertypes holds of
every type. -/
theorem supertypes_induction {P : HostType → Prop}
    (hstep : ∀ t : HostType, (∀ u ∈ t.supertypes, P u) → P t)
    (t : HostType) : P t :=
  hstep t fun u _ => supertypes_induction hstep u
termination_by sizeOf t
decreasing_by exact sizeOf_lt_of_mem_supertypes ‹_›

theorem Derives.refl (t : HostType) : t.Derives t :=
  Relation.ReflTransGen.refl

theorem Derives.trans {t u v : HostType} (hleft : t.Derives u)
    (hright : u.Derives v) : t.Derives v :=
  Relation.ReflTransGen.trans hleft hright

/-- A type derives from another one exactly if it is that type or one of its
direct supertypes derives from it. -/
theorem derives_iff {t u : HostType} :
    t.Derives u ↔ u = t ∨ ∃ s ∈ t.supertypes, s.Derives u := by
  rw [Derives, Relation.ReflTransGen.cases_head_iff, eq_comm]

/-- The search for an ancestor decides whether there is one. -/
theorem hasAncestor_iff {wanted : HostType → Bool} {t : HostType} :
    t.hasAncestor wanted = true ↔ ∃ a, t.Derives a ∧ wanted a = true := by
  induction t using supertypes_induction with
  | hstep t ih =>
      rw [hasAncestor_eq, Bool.or_eq_true, List.any_eq_true]
      constructor
      · rintro (hself | ⟨s, hs, hfound⟩)
        · exact ⟨t, Derives.refl t, hself⟩
        · obtain ⟨a, hderives, hwanted⟩ := (ih s hs).mp hfound
          exact ⟨a, derives_iff.mpr (.inr ⟨s, hs, hderives⟩), hwanted⟩
      · rintro ⟨a, hderives, hwanted⟩
        rcases derives_iff.mp hderives with rfl | ⟨s, hs, hrest⟩
        · exact .inl hwanted
        · exact .inr ⟨s, hs, (ih s hs).mpr ⟨a, hrest, hwanted⟩⟩

theorem looksLike_iff {t u : HostType} :
    t.looksLike u = true ↔ t.id = u.id ∧ t.name = u.name := by
  rw [looksLike, Bool.and_eq_true, beq_iff_eq, beq_iff_eq]

theorem isSame_iff {t u : HostType} :
    t.isSame u = true ↔ t.owner = u.owner ∧ t.name = u.name := by
  rw [isSame, Bool.and_eq_true, beq_iff_eq, beq_iff_eq]

/-- A type is assignable to another one exactly if it derives from a type of
the same number and name. -/
theorem isAssignableTo_iff {t u : HostType} :
    t.isAssignableTo u = true ↔ t.DerivesAs u := by
  rw [isAssignableTo, hasAncestor_iff, DerivesAs]
  simp only [looksLike_iff]

theorem isAssignableTo_of_derives {t u : HostType} (hderives : t.Derives u) :
    t.isAssignableTo u = true :=
  isAssignableTo_iff.mpr ⟨u, hderives, rfl, rfl⟩

theorem isAssignableTo_of_mem_supertypes {t u : HostType}
    (hmem : u ∈ t.supertypes) : t.isAssignableTo u = true :=
  isAssignableTo_of_derives (derives_iff.mpr (.inr ⟨u, hmem, .refl u⟩))

end ScriptHost.HostType
