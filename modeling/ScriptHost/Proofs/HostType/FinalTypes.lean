import ScriptHost.Proofs.HostType.Growth

/-!
# Types that derive from final types

A final type is refused as a base, so no type has one.  Interfaces are not
looked at in the same way: whoever lists a final type among the interfaces of a
definition derives from it.  This is the only way to do so, and whatever derives
from a final type without being it goes back to such a definition.
-/

namespace ScriptHost

def TypeCall.interfaces : TypeCall → List HostType
  | define _ _ interfaces _ => interfaces
  | defineProxy interfaces => interfaces

/-! ## Final types are no bases -/

theorem TypeFlags.none_not_final : none.includes final = false := by decide

theorem TypeFlags.interface_not_final : interface.includes final = false := by
  decide

theorem WellKnown.supertypes_not_final (owner : Nat)
    (environment : HostEnvironment) :
    ∀ t ∈ types owner environment, ∀ s ∈ t.supertypes,
      s.flags.includes .final = false := by
  intro t ht s hs
  rcases supertypes_cases owner environment t ht with hnone | hbase | hboth
  · rw [hnone] at hs
    cases hs
  · rw [hbase, List.mem_singleton] at hs
    rw [hs]
    exact TypeFlags.none_not_final
  · rw [hboth, List.mem_cons, List.mem_singleton] at hs
    rcases hs with rfl | rfl
    · exact TypeFlags.none_not_final
    · exact TypeFlags.interface_not_final

namespace TypeRegistry.Sound

variable {registry : TypeRegistry} (hsound : registry.Sound)
variable (hsize : registry.size < UInt32.size)

include hsound hsize

theorem not_final_of_baseFor {name : String} {base : Option HostType}
    {parent : HostType} (hparent : registry.baseFor name base = .ok parent) :
    parent.flags.includes .final = false := by
  cases base with
  | none =>
      rw [baseFor, hsound.objectType_eq hsize] at hparent
      cases hparent
      exact TypeFlags.none_not_final
  | some given =>
      obtain ⟨rfl, _, hfinal⟩ := baseFor_eq_ok_iff.mp hparent
      exact hfinal

/-- A type that is defined has a base that is not final, and implements what
it was asked to implement. -/
theorem supertypes_of_perform {call : TypeCall} {t : HostType}
    (hok : (call.perform registry).result = .ok t) :
    ∃ base, t.base = some base ∧ base.flags.includes .final = false ∧
      t.interfaces = call.interfaces := by
  cases call with
  | define name base interfaces flags =>
      obtain ⟨parent, hparent, rfl⟩ := define_eq_ok hok
      exact ⟨parent, rfl, hsound.not_final_of_baseFor hsize
        (definitionBase_eq_ok_iff.mp hparent).1, rfl⟩
  | defineProxy interfaces =>
      obtain ⟨parent, hparent, _, rfl⟩ := defineProxy_eq_ok hok
      obtain ⟨_, rfl⟩ := (hsound.proxyBase_eq_ok_iff hsize).mp hparent
      exact ⟨_, rfl, TypeFlags.none_not_final, rfl⟩

end TypeRegistry.Sound

namespace TypeRun

variable {serial : Nat} {environment : HostEnvironment}
variable {made : List ServedTypeCall} {registry : TypeRegistry}
variable {t f : HostType}

theorem supertypes_of_defined
    (hrun : TypeRun serial environment made registry)
    (hsize : registry.size < UInt32.size) {call : TypeCall}
    (hmade : ⟨call, .ok t⟩ ∈ made) :
    ∃ base, t.base = some base ∧ base.flags.includes .final = false ∧
      t.interfaces = call.interfaces := by
  obtain ⟨before, hsound, _, hle, hok⟩ := hrun.exists_moment hmade
  exact hsound.supertypes_of_perform (Nat.lt_of_le_of_lt hle hsize) hok.symm

theorem base_ne_final (hrun : TypeRun serial environment made registry)
    (hsize : registry.size < UInt32.size)
    (ht : t ∈ registry.types) (hfinal : f.flags.includes .final = true) :
    t.base ≠ some f := by
  intro hbase
  suffices hnot : f.flags.includes .final = false by
    rw [hnot] at hfinal
    cases hfinal
  rcases hrun.mem_types_iff.mp ht with hwellKnown | ⟨call, hmade⟩
  · apply WellKnown.supertypes_not_final serial environment t hwellKnown
    rw [HostType.supertypes, hbase]
    exact List.mem_cons_self
  · obtain ⟨base, hgiven, hnot, _⟩ := hrun.supertypes_of_defined hsize hmade
    cases hbase.symm.trans hgiven
    exact hnot

/-- A final type is a direct supertype only of types that were defined with it
as an interface. -/
theorem final_mem_supertypes_iff
    (hrun : TypeRun serial environment made registry)
    (hsize : registry.size < UInt32.size)
    (ht : t ∈ registry.types) (hfinal : f.flags.includes .final = true) :
    f ∈ t.supertypes ↔
      ∃ call, ⟨call, .ok t⟩ ∈ made ∧ f ∈ call.interfaces := by
  constructor
  · intro hf
    rcases hrun.mem_types_iff.mp ht with hwellKnown | ⟨call, hmade⟩
    · rw [WellKnown.supertypes_not_final serial environment t hwellKnown f hf]
        at hfinal
      cases hfinal
    · obtain ⟨_, _, _, hinterfaces⟩ := hrun.supertypes_of_defined hsize hmade
      rw [HostType.supertypes, List.mem_append, Option.mem_toList] at hf
      have hlisted := hf.resolve_left (hrun.base_ne_final hsize ht hfinal)
      rw [hinterfaces] at hlisted
      exact ⟨call, hmade, hlisted⟩
  · rintro ⟨call, hmade, hf⟩
    obtain ⟨_, _, _, hinterfaces⟩ := hrun.supertypes_of_defined hsize hmade
    rw [← hinterfaces] at hf
    exact List.mem_append_right _ hf

/-- Final types are no bases, but they have subtypes.  At every moment of a run
below the limit of numbers, no type has a final type as its base, and a type is assignable to a final
one exactly if it is that type or is assignable to a type that was defined with
the final one among its interfaces. -/
theorem final_types_derived_from_as_interfaces_only
    (hrun : TypeRun serial environment made registry)
    (hsize : registry.size < UInt32.size)
    (ht : t ∈ registry.types) (hf : f ∈ registry.types)
    (hfinal : f.flags.includes .final = true) :
    t.base ≠ some f ∧
    (t.isAssignableTo f = true ↔ t = f ∨ ∃ call u, ⟨call, .ok u⟩ ∈ made ∧
      f ∈ call.interfaces ∧ t.isAssignableTo u = true) := by
  have hsound := hrun.sound
  refine ⟨hrun.base_ne_final hsize ht hfinal, ?_⟩
  rw [hsound.isAssignableTo_iff ht hf]
  constructor
  · intro hderives
    cases Relation.ReflTransGen.cases_tail hderives with
    | inl hself => exact .inl hself.symm
    | inr hchain =>
        obtain ⟨u, hu, hedge⟩ := hchain
        have hmem := hsound.mem_of_derives ht hu
        obtain ⟨call, hmade, hlisted⟩ :=
          (hrun.final_mem_supertypes_iff hsize hmem hfinal).mp hedge
        exact .inr ⟨call, u, hmade, hlisted,
          HostType.isAssignableTo_of_derives hu⟩
  · rintro (rfl | ⟨call, u, hmade, hlisted, hassignable⟩)
    · exact HostType.Derives.refl t
    · have hmem := hrun.mem_types_iff.mpr (.inr ⟨call, hmade⟩)
      have hedge : f ∈ u.supertypes :=
        (hrun.final_mem_supertypes_iff hsize hmem hfinal).mpr ⟨call, hmade, hlisted⟩
      exact ((hsound.isAssignableTo_iff ht hmem).mp hassignable).tail hedge

end TypeRun

/-! ## A type that implements the class meta-object -/

def implementClass : TypeCall :=
  .define "app.FakeClass" none [WellKnown.classType 0] .none

def fakeClass : HostType :=
  WellKnown.make 0 14 "app.FakeClass" (some (WellKnown.object 0))
    [WellKnown.classType 0] .none

theorem classType_mem :
    WellKnown.classType 0 ∈ (TypeRegistry.new 0 .full).types :=
  TypeRun.start.mem_of_always (WellKnown.classType_mem_always 0)

theorem implementClass_run :
    TypeRun 0 .full [⟨implementClass, .ok fakeClass⟩]
      (implementClass.perform (.new 0 .full)).state := by
  apply TypeRun.call .start implementClass
  intro t ht _
  rw [List.mem_singleton.mp ht]
  exact classType_mem

theorem fakeClass_mem :
    fakeClass ∈ (implementClass.perform (.new 0 .full)).state.types :=
  List.mem_append_right _ (List.mem_singleton_self _)

theorem classType_still_mem :
    WellKnown.classType 0 ∈
      (implementClass.perform (.new 0 .full)).state.types :=
  List.mem_append_left _ classType_mem

theorem fakeClass_assignable_through_interface :
    (WellKnown.classType 0).flags.includes .final = true ∧
      fakeClass.base ≠ some (WellKnown.classType 0) ∧
      fakeClass.isAssignableTo (WellKnown.classType 0) = true := by
  have hfinal : (WellKnown.classType 0).flags.includes .final = true := by
    decide
  obtain ⟨hbase, hassignable⟩ :=
    implementClass_run.final_types_derived_from_as_interfaces_only
      (by decide +kernel) fakeClass_mem classType_still_mem hfinal
  refine ⟨hfinal, hbase, hassignable.mpr (.inr ⟨implementClass, fakeClass,
    List.mem_cons_self, List.mem_cons_self, ?_⟩)⟩
  exact HostType.isAssignableTo_of_derives (.refl fakeClass)

/-- A final type may have proper subtypes: the type that implements the class
meta-object is one. -/
theorem final_type_has_proper_subtype :
    ¬ ∀ (serial : Nat) (environment : HostEnvironment)
        (made : List ServedTypeCall) (registry : TypeRegistry),
      TypeRun serial environment made registry →
        registry.size < UInt32.size →
        ∀ t ∈ registry.types, ∀ f ∈ registry.types,
          f.flags.includes .final = true → t.isAssignableTo f = true →
            t = f := by
  intro hnone
  have heq : fakeClass = WellKnown.classType 0 :=
    hnone 0 .full _ _ implementClass_run (by decide +kernel) fakeClass
      fakeClass_mem _ classType_still_mem (by decide) (by decide +kernel)
  have hname : "app.FakeClass" = WellKnown.className :=
    congrArg HostType.name heq
  revert hname
  decide

end ScriptHost
