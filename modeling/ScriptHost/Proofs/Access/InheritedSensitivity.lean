import ScriptHost.Proofs.Access.GuardDecisions

/-!
# How far sensitivity is inherited

A type that derives from an introspective type makes every type that derives
from it sensitive.  A reserved name does not: it is looked for in a type's own
name only, so a type of another name that derives from a reflective or an
invocation type is sensitive only if there is a further reason.
-/

namespace ScriptHost

theorem HostType.DerivesAs.of_derives {t u a : HostType}
    (hderives : t.Derives u) (has : u.DerivesAs a) : t.DerivesAs a := by
  obtain ⟨found, hfound, hlooks⟩ := has
  exact ⟨found, hderives.trans hfound, hlooks⟩

theorem TypeRegistry.DerivesNamed.of_derives {registry : TypeRegistry}
    {name : String} {t u : HostType} (hderives : t.Derives u)
    (hnamed : registry.DerivesNamed name u) : registry.DerivesNamed name t := by
  obtain ⟨a, hfind, has⟩ := hnamed
  exact ⟨a, hfind, has.of_derives hderives⟩

theorem Introspects.of_derives {opening registry : TypeRegistry}
    {t u : HostType} (hderives : t.Derives u)
    (hu : Introspects opening registry u) : Introspects opening registry t := by
  rcases hu with hclass | hloader | ⟨name, hname, hbean⟩
  · exact .inl (hclass.of_derives hderives)
  · exact .inr (.inl (hloader.of_derives hderives))
  · exact .inr (.inr ⟨name, hname, hbean.of_derives hderives⟩)

variable {ι : Type} [DecidableEq ι]
variable {serial : Nat} {environment : HostEnvironment}
variable {before : List ServedTypeCall} {opening : TypeRegistry}
variable {keeps : Bool} {created : ι → Context}
variable {served : List (ServedDispatch ι)} {state : DispatchState ι}

/-- At every moment of every run, sensitivity passes from a type to one that
derives from it and is no proxy, except where the only reason for it is the
reserved name of the former.  Without a reason of its own, the latter is then
not sensitive, and access to it is not checked. -/
theorem sensitivity_lost_iff_by_reserved_name_only
    (hopening : TypeRun serial environment before opening)
    (hrun : DispatchRun opening keeps created served state)
    (hsize : state.registry.size < UInt32.size) {t u : HostType}
    (ht : t ∈ state.registry.types) (hu : u ∈ state.registry.types)
    (hassignable : t.isAssignableTo u = true)
    (hproxy : ¬ t.isAssignableTo (WellKnown.proxy state.registry.serial) = true)
    (hsensitive : (state.guard.isSensitive state.registry u).1 = true) :
    ((state.guard.isSensitive state.registry t).1 = false ↔
      (state.guard.familyOf state.registry u).1 = some .reflectiveNamespace ∧
        ¬ Introspects opening state.registry t ∧ ¬ ReservedName t.name) ∧
    ∀ isStatic, (state.guard.requiresCheck state.registry t isStatic).1 =
      (state.guard.isSensitive state.registry t).1 := by
  have hsound := (hrun.typeRun hopening).sound
  have hintrospects : ∀ v, (∃ a ∈ state.guard.anchors.introspective,
      v.isAssignableTo a = true) ↔ Introspects opening state.registry v :=
    fun v => introspects_iff hrun.anchors_eq (hrun.grew hopening hsize)
  have hderives := (hsound.isAssignableTo_iff ht hu).mp hassignable
  simp only [Classifier.isSensitive, Classifier.familyOf,
    Classifier.requiresCheck,
    hrun.lookup_eq hopening (fun _ => hsize) fun _ => ht,
    hrun.lookup_eq hopening (fun _ => hsize) fun _ => hu] at hsensitive ⊢
  have hreason : Introspects opening state.registry u ∨ ReservedName u.name := by
    rwa [Anchors.classify, Anchors.isSome_familyOf_iff,
      hintrospects] at hsensitive
  constructor
  · rw [← Bool.not_eq_true, Anchors.classify, Anchors.classify,
      Anchors.isSome_familyOf_iff, Anchors.familyOf_eq_reflectiveNamespace_iff,
      hintrospects, hintrospects, not_or]
    constructor
    · rintro ⟨hneither, hreserved⟩
      have hbase : ¬ Introspects opening state.registry u :=
        fun hu => hneither (hu.of_derives hderives)
      exact ⟨⟨hbase, hreason.resolve_left hbase⟩, hneither, hreserved⟩
    · exact fun hlost => hlost.2
  · intro isStatic
    rw [(hrun.typeRun hopening).serial_eq,
      ← hrun.anchors_proxy_eq hopening hsize] at hproxy
    rw [Bool.eq_iff_iff, Anchors.requiresCheck_classify_iff]
    constructor
    · intro hchecked
      exact (hchecked.resolve_left fun hleft => hproxy hleft.1).2
    · exact fun hfamily => .inr ⟨hproxy, hfamily⟩

/-! ## A type derived from an invocation type -/

def methodHandle : HostType :=
  WellKnown.make 0 9 "host.lang.invoke.MethodHandle" (some (WellKnown.object 0))
    [] .none

def derivedHandle : HostType :=
  WellKnown.make 0 14 "app.Handle" (some methodHandle) [] .none

def handleRegistry : TypeRegistry :=
  ((TypeCall.define "app.Handle" (some methodHandle) [] .none).perform
    (.new 0 .full)).state

theorem methodHandle_mem_always : methodHandle ∈ WellKnown.always 0 := by
  simp [WellKnown.always, methodHandle, WellKnown.methodHandleName]

theorem handleRegistry_run :
    TypeRun 0 .full
      [⟨.define "app.Handle" (some methodHandle) [] .none, .ok derivedHandle⟩]
      handleRegistry := by
  refine .call .start (.define "app.Handle" (some methodHandle) [] .none) ?_
  intro t ht _
  rw [List.mem_singleton.mp ht]
  exact TypeRun.start.mem_of_always methodHandle_mem_always

theorem derivedHandle_mem : derivedHandle ∈ handleRegistry.types :=
  List.mem_append_right _ (List.mem_singleton_self _)

theorem methodHandle_mem : methodHandle ∈ handleRegistry.types :=
  handleRegistry_run.mem_of_always methodHandle_mem_always

theorem handleRegistry_size : handleRegistry.size < UInt32.size := by
  decide +kernel

theorem handleRegistry_guard (keeps : Bool) :
    Classifier.new handleRegistry keeps = .ok (.full 0 keeps) :=
  Classifier.new_of_full handleRegistry_run handleRegistry_size rfl keeps

/-- What the derived type loses is the sensitivity of a reserved name. -/
theorem derivedHandle_has_no_reason :
    Classifier.new handleRegistry true = .ok (.full 0 true) ∧
      ((Classifier.full 0 true).familyOf handleRegistry methodHandle).1 =
        some .reflectiveNamespace ∧
      ¬ Introspects handleRegistry handleRegistry derivedHandle ∧
      ¬ ReservedName derivedHandle.name := by
  have hrun : DispatchRun handleRegistry true
      (fun _ : Unit => ⟨"main", none⟩) [] _ :=
    .opened (handleRegistry_guard true)
  have hlost : ((Classifier.full 0 true).isSensitive handleRegistry
      derivedHandle).1 = false := by decide +kernel
  exact ⟨handleRegistry_guard true,
    (sensitivity_lost_iff_by_reserved_name_only handleRegistry_run hrun
      handleRegistry_size derivedHandle_mem methodHandle_mem
      (by decide +kernel) (by decide +kernel) (by decide +kernel)).1.mp hlost⟩

/-- Sensitivity is not inherited in general: a method handle is sensitive, and
the type derived from it is not. -/
theorem sensitivity_not_inherited :
    ¬ ∀ (serial : Nat) (environment : HostEnvironment)
        (made : List ServedTypeCall) (registry : TypeRegistry) (keeps : Bool)
        (guard : Classifier),
      TypeRun serial environment made registry →
        Classifier.new registry keeps = .ok guard →
        ∀ t ∈ registry.types, ∀ u ∈ registry.types,
          t.isAssignableTo u = true →
          t.isAssignableTo (WellKnown.proxy registry.serial) = false →
          (guard.isSensitive registry u).1 = true →
          (guard.isSensitive registry t).1 = true := by
  intro hinherited
  have hsensitive := hinherited 0 .full _ handleRegistry true _
    handleRegistry_run (handleRegistry_guard true) derivedHandle derivedHandle_mem
    methodHandle methodHandle_mem (by decide +kernel) (by decide +kernel)
    (by decide +kernel)
  revert hsensitive
  decide +kernel

end ScriptHost
