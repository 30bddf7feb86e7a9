import ScriptHost.Proofs.Access.DispatchRuns

/-!
# What the guard decides

The link gate looks at nothing but whether a policy is installed.  The check of
access looks at that, at the target and at whether the access is static; which
types and policies came and went, what was asked before and whether
classifications are kept does not show in its answers.
-/

namespace ScriptHost

namespace TypeRegistry

variable {registry : TypeRegistry} {t : HostType}

/-- A type derives from one with the number and the name of the type that the
registry has under a name. -/
def DerivesNamed (registry : TypeRegistry) (name : String) (t : HostType) :
    Prop :=
  ∃ a, registry.findNamed? name = some a ∧ t.DerivesAs a

theorem derivesNamed_iff {name : String} {a : HostType}
    (hfind : registry.findNamed? name = some a) :
    registry.DerivesNamed name t ↔ t.isAssignableTo a = true := by
  rw [HostType.isAssignableTo_iff, DerivesNamed, hfind]
  simp only [Option.some.injEq, exists_eq_left']

end TypeRegistry

/-- A type derives from the class meta-object, a class loader or one of the
bean-style helpers that the registry had when the guard was set up. -/
def Introspects (opening registry : TypeRegistry) (t : HostType) : Prop :=
  registry.DerivesNamed WellKnown.className t ∨
    registry.DerivesNamed WellKnown.classLoaderName t ∨
    ∃ name ∈ WellKnown.beanNames, opening.DerivesNamed name t

/-- When access to a type has to be checked.  A type that derives from the
proxy base is checked unless it was generated as a proxy and is not accessed
statically.  Any other type is checked if it derives from an introspective
type, or if its own name is reserved. -/
def MustCheck (opening registry : TypeRegistry) (made : List ServedTypeCall)
    (t : HostType) (isStatic : Bool) : Prop :=
  (registry.DerivesNamed WellKnown.proxyName t ∧
    (isStatic = true ∨ ¬ Produced made t)) ∨
  (¬ registry.DerivesNamed WellKnown.proxyName t ∧
    (Introspects opening registry t ∨ ReservedName t.name))

/-! ## The anchors of a guard -/

section

variable {opening registry : TypeRegistry} {anchors : Anchors} {t : HostType}
variable (hanchors : Anchors.ofRegistry opening = .ok anchors)

include hanchors

theorem beans_iff :
    (∃ a ∈ anchors.beans, t.isAssignableTo a = true) ↔
      ∃ name ∈ WellKnown.beanNames, opening.DerivesNamed name t := by
  obtain ⟨_, _, _, hbeans⟩ := Anchors.ofRegistry_eq_ok_iff.mp hanchors
  simp only [hbeans, List.mem_filterMap, HostType.isAssignableTo_iff,
    TypeRegistry.DerivesNamed]
  constructor
  · rintro ⟨a, ⟨name, hname, hfind⟩, hderives⟩
    exact ⟨name, hname, a, hfind, hderives⟩
  · rintro ⟨name, hname, a, hfind, hderives⟩
    exact ⟨a, ⟨name, hname, hfind⟩, hderives⟩

variable (hgrew : opening.Grew registry)

include hgrew

theorem isAssignableTo_proxy_iff :
    t.isAssignableTo anchors.proxy = true ↔
      registry.DerivesNamed WellKnown.proxyName t := by
  obtain ⟨_, _, hproxy, _⟩ := Anchors.ofRegistry_eq_ok_iff.mp hanchors
  exact (TypeRegistry.derivesNamed_iff (hgrew.findNamed? hproxy)).symm

/-- The anchors of an earlier moment still tell which types derive from an
introspective type. -/
theorem introspects_iff :
    (∃ a ∈ anchors.introspective, t.isAssignableTo a = true) ↔
      Introspects opening registry t := by
  obtain ⟨hclass, hloader, _⟩ := Anchors.ofRegistry_eq_ok_iff.mp hanchors
  rw [Anchors.introspective, List.exists_mem_cons_iff,
    List.exists_mem_cons_iff, beans_iff hanchors, Introspects,
    TypeRegistry.derivesNamed_iff (hgrew.findNamed? hclass),
    TypeRegistry.derivesNamed_iff (hgrew.findNamed? hloader)]

end

/-! ## One decision -/

namespace DispatchCall

variable {ι : Type} [DecidableEq ι]

theorem tryLink_result (x : ι) (request : LinkRequest)
    (state : DispatchState ι) :
    ((tryLink x request).perform state).result =
      if (state.contexts x).policy.isSome then
        .error (.dispatchDenied request.target.name .linkWithPolicy)
      else .ok .done := by
  rw [perform, Action.bind_pure_apply]
  simp only [DispatchState.onGuard, Guard.tryLink, Guard.decide]
  cases (state.contexts x).policy <;> rfl

theorem checkAccess_result (x : ι) (t : HostType) (isStatic : Bool)
    (state : DispatchState ι) :
    ((checkAccess x t isStatic).perform state).result =
      if (state.contexts x).policy.isSome &&
          (state.guard.requiresCheck state.registry t isStatic).1 then
        .error (.dispatchDenied t.name .reflectiveAccess)
      else .ok .done := by
  rw [perform, Action.bind_pure_apply]
  simp only [DispatchState.onGuard, Guard.checkAccess]
  cases (state.contexts x).policy with
  | none => rfl
  | some policy =>
      cases (state.guard.requiresCheck state.registry t isStatic).1 <;> rfl

end DispatchCall

/-! ## All decisions of a run -/

section

variable {ι : Type} [DecidableEq ι]
variable {serial : Nat} {environment : HostEnvironment}
variable {before : List ServedTypeCall} {opening : TypeRegistry}
variable {keeps : Bool} {created : ι → Context}
variable {served : List (ServedDispatch ι)} {state : DispatchState ι}

/-- At any moment of a run, a guard requires the check of access to a type
exactly if it must be checked. -/
theorem requiresCheck_iff_mustCheck
    (hopening : TypeRun serial environment before opening)
    (hrun : DispatchRun opening keeps created served state)
    (hsize : state.registry.size < UInt32.size) {t : HostType}
    (hauthentic : state.registry.Authentic t) (isStatic : Bool) :
    (state.guard.requiresCheck state.registry t isStatic).1 = true ↔
      MustCheck opening state.registry (typeCalls served ++ before) t
        isStatic := by
  have hgrew := hrun.grew hopening hsize
  rw [Classifier.requiresCheck,
    hrun.lookup_eq hopening (fun _ => hsize) hauthentic,
    Anchors.requiresCheck_classify_iff,
    (hrun.typeRun hopening).isProxyType_iff hsize hauthentic,
    isAssignableTo_proxy_iff hrun.anchors_eq hgrew,
    Anchors.isSome_familyOf_iff, introspects_iff hrun.anchors_eq hgrew]
  rfl

/-- The guard decides by the presence of a policy, the target and whether the
access is static.  At every moment of every run, linking is refused exactly if
the last call that decides about the policy of the context left one there, and
access is refused exactly if moreover the type must be checked; nothing else
is ever refused, and refusals say what was refused. -/
theorem guard_decides_by_policy_target_and_staticness
    (hopening : TypeRun serial environment before opening)
    (hrun : DispatchRun opening keeps created served state)
    (hsize : state.registry.size < UInt32.size) (x : ι) :
    (∀ request,
      (((DispatchCall.tryLink x request).perform state).result =
          .error (.dispatchDenied request.target.name .linkWithPolicy) ↔
        (installed created served x).isSome = true) ∧
      (((DispatchCall.tryLink x request).perform state).result = .ok .done ↔
        (installed created served x) = none)) ∧
    (∀ t, state.registry.Authentic t → ∀ isStatic,
      (((DispatchCall.checkAccess x t isStatic).perform state).result =
          .error (.dispatchDenied t.name .reflectiveAccess) ↔
        (installed created served x).isSome = true ∧
          MustCheck opening state.registry (typeCalls served ++ before) t
            isStatic) ∧
      (((DispatchCall.checkAccess x t isStatic).perform state).result =
          .ok .done ↔
        ¬ ((installed created served x).isSome = true ∧
          MustCheck opening state.registry (typeCalls served ++ before) t
            isStatic))) := by
  constructor
  · intro request
    rw [DispatchCall.tryLink_result, hrun.policy_eq]
    cases installed created served x <;> simp
  · intro t hauthentic isStatic
    rw [DispatchCall.checkAccess_result, hrun.policy_eq,
      ← requiresCheck_iff_mustCheck hopening hrun hsize hauthentic,
      ← Bool.and_eq_true]
    split_ifs with hdenied <;> simp [hdenied]

/-- A proxy that is generated while a policy is installed must be checked for
static access only, and the class meta-object for any. -/
theorem class_and_generated_proxy_checked :
    ∃ (served : List (ServedDispatch Unit)) (state : DispatchState Unit),
      DispatchRun (.new 0 .full) true (fun _ => ⟨"main", some .denyAll⟩) served
          state ∧
        MustCheck (.new 0 .full) state.registry (typeCalls served)
          (WellKnown.classType 0) false ∧
        MustCheck (.new 0 .full) state.registry (typeCalls served)
          ⟨0, ⟨14⟩, "host.proxy.$Proxy0", some (WellKnown.proxy 0), [],
            .union .generatedProxy .final⟩ true ∧
        ¬ MustCheck (.new 0 .full) state.registry (typeCalls served)
          ⟨0, ⟨14⟩, "host.proxy.$Proxy0", some (WellKnown.proxy 0), [],
            .union .generatedProxy .final⟩ false := by
  have hnew : TypeRun 0 .full [] (.new 0 .full) := .start
  have hopened : DispatchRun (.new 0 .full) true
      (fun _ : Unit => ⟨"main", some .denyAll⟩) [] _ :=
    .opened (Classifier.new_of_full hnew (by decide +kernel) rfl true)
  have hrun := hopened.call (.types (.defineProxy []))
    fun _ ht => absurd ht List.not_mem_nil
  have hdecides := (guard_decides_by_policy_target_and_staticness hnew hrun
    (by decide +kernel) ()).2
  rw [List.append_nil] at hdecides
  have hclass := hdecides (WellKnown.classType 0)
    fun _ => (hrun.typeRun hnew).mem_of_always
      (WellKnown.classType_mem_always 0)
  have hproxy := hdecides
    ⟨0, ⟨14⟩, "host.proxy.$Proxy0", some (WellKnown.proxy 0), [],
      .union .generatedProxy .final⟩
    (fun _ => List.mem_append_right _ (List.mem_singleton_self _))
  simp only [DispatchCall.checkAccess_result] at hclass hproxy
  exact ⟨_, _, hrun, ((hclass false).1.mp (if_pos (by decide +kernel))).2,
    ((hproxy true).1.mp (if_pos (by decide +kernel))).2,
    fun hmust => (hproxy false).2.mp (if_neg (by decide +kernel)) ⟨rfl, hmust⟩⟩

end

end ScriptHost
