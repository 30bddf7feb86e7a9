import ScriptHost.Proofs.Access.GuardDecisions

/-!
# Access to sensitive types

While a policy is installed, access to a sensitive type is refused, with one
exception: whether a type is a generated proxy is decided first, and instances
of generated proxies may be accessed, also of those that are sensitive by way
of the interfaces they were generated for.
-/

namespace ScriptHost

/-! ## Sensitive types are never ordinary -/

/-- A type known to be sensitive is not taken for an ordinary one. -/
def Classification.Coherent (known : Classification) : Prop :=
  known.family.isSome = true → known.category ≠ .ordinary

theorem Anchors.coherent_classify (anchors : Anchors)
    (registry : TypeRegistry) (t : HostType) :
    (anchors.classify registry t).Coherent := by
  rw [Classification.Coherent, classify]
  cases t.isAssignableTo anchors.proxy <;>
    cases registry.isProxyType t <;>
    cases anchors.familyOf t <;> simp

/-- A sensitive type must be checked, but not for access to an instance of a
generated proxy. -/
theorem Classification.Coherent.requiresCheck_iff {known : Classification}
    (hcoherent : known.Coherent) (hsensitive : known.family.isSome = true)
    (isStatic : Bool) :
    known.category.requiresCheck isStatic = true ↔
      isStatic = true ∨ known.category ≠ .genuineProxy := by
  have hcategory := hcoherent hsensitive
  cases hcase : known.category with
  | ordinary => exact absurd hcase hcategory
  | genuineProxy | forgedProxy | sensitive family =>
      simp [Category.requiresCheck]

namespace Classifier

variable {classifier : Classifier}

def Coherent (classifier : Classifier) : Prop :=
  ∀ kept, classifier.kept = some kept → ∀ entry ∈ kept, entry.2.Coherent

theorem coherent_new {registry : TypeRegistry} {keeps : Bool}
    (hnew : new registry keeps = .ok classifier) : classifier.Coherent := by
  intro kept hkept entry hentry
  rw [kept_eq_nil_of_new hnew hkept] at hentry
  cases hentry

/-- The answer and what is kept of it are coherent if all was so before. -/
theorem Coherent.lookup (hcoherent : classifier.Coherent)
    (registry : TypeRegistry) (t : HostType) :
    (classifier.lookup registry t).1.Coherent ∧
      (classifier.lookup registry t).2.Coherent := by
  have hfresh := classifier.anchors.coherent_classify registry t
  rcases lookup_cases classifier registry t with
    ⟨_, hlookup⟩ | ⟨kept, hkept, _, ⟨_, hknown, hlookup⟩ | ⟨_, hlookup⟩⟩
  · rw [hlookup]
    exact ⟨hfresh, hcoherent⟩
  · rw [hlookup]
    exact ⟨hcoherent kept hkept _ hknown, hcoherent⟩
  · rw [hlookup]
    refine ⟨hfresh, fun added hadded entry hentry => ?_⟩
    cases hadded
    rcases List.mem_append.mp hentry with hold | hnew
    · exact hcoherent kept hkept entry hold
    · rw [List.mem_singleton.mp hnew]
      exact hfresh

end Classifier

section

variable {ι : Type} [DecidableEq ι]
variable {serial : Nat} {environment : HostEnvironment}
variable {before : List ServedTypeCall} {opening : TypeRegistry}
variable {keeps : Bool} {created : ι → Context}
variable {served : List (ServedDispatch ι)} {state : DispatchState ι}

theorem DispatchRun.coherent
    (hrun : DispatchRun opening keeps created served state) :
    state.guard.Coherent :=
  DispatchRun.guard_induction (fun _ hnew => Classifier.coherent_new hnew)
    (fun _ registry t hcoherent => (hcoherent.lookup registry t).2) hrun

/-- While a policy is installed, access to a sensitive type is refused unless
it is access to an instance of a genuine proxy.  Below the limit of numbers,
those are exactly the proxies that the registry generated. -/
theorem sensitive_access_denied_unless_genuine_instance
    (hopening : TypeRun serial environment before opening)
    (hrun : DispatchRun opening keeps created served state) {x : ι}
    {policy : Policy} (hpolicy : (state.contexts x).policy = some policy)
    {t : HostType} (ht : t ∈ state.registry.types)
    (hsensitive : (state.guard.isSensitive state.registry t).1 = true)
    (isStatic : Bool) :
    ((state.guard.requiresCheck state.registry t isStatic).1 = true ↔
      isStatic = true ∨
        (state.guard.categoryOf state.registry t).1 ≠ .genuineProxy) ∧
    ((DispatchCall.checkAccess x t isStatic).perform state).result =
      (if isStatic = true ∨
          (state.guard.categoryOf state.registry t).1 ≠ .genuineProxy then
        .error (.dispatchDenied t.name .reflectiveAccess)
      else .ok .done) ∧
    (state.registry.size < UInt32.size →
      ((state.guard.categoryOf state.registry t).1 = .genuineProxy ↔
        Produced (typeCalls served ++ before) t)) := by
  have hchecked : (state.guard.requiresCheck state.registry t isStatic).1 =
      true ↔ isStatic = true ∨
        (state.guard.categoryOf state.registry t).1 ≠ .genuineProxy :=
    (hrun.coherent.lookup state.registry t).1.requiresCheck_iff hsensitive
      isStatic
  refine ⟨hchecked, ?_, fun hsize => ?_⟩
  · rw [DispatchCall.checkAccess_result, hpolicy, Option.isSome_some,
      Bool.true_and]
    simp only [hchecked]
  · rw [Classifier.categoryOf,
      hrun.lookup_eq hopening (fun _ => hsize) fun _ => ht]
    exact (hrun.typeRun hopening).category_eq_genuineProxy_iff hsize
      (fun _ => ht) (hrun.anchors_proxy_eq hopening hsize)

end

/-! ## A sensitive proxy -/

def loaderInterface : HostType :=
  WellKnown.make 0 14 "app.LoaderApi" (some (WellKnown.classLoader 0)) []
    .interface

def loaderProxy : HostType :=
  ⟨0, ⟨15⟩, "host.proxy.$Proxy0", some (WellKnown.proxy 0), [loaderInterface],
    .union .generatedProxy .final⟩

def loaderCall : TypeCall :=
  .define "app.LoaderApi" (some (WellKnown.classLoader 0)) [] .interface

def loaderRegistry : TypeRegistry :=
  ((TypeCall.defineProxy [loaderInterface]).perform
    (loaderCall.perform (.new 0 .full)).state).state

theorem loaderRegistry_run :
    TypeRun 0 .full
      [⟨.defineProxy [loaderInterface], .ok loaderProxy⟩,
        ⟨loaderCall, .ok loaderInterface⟩] loaderRegistry := by
  refine .call (.call .start loaderCall ?_) (.defineProxy [loaderInterface]) ?_
  · refine List.forall_mem_singleton.mpr fun _ => ?_
    exact TypeRun.start.mem_of_always (WellKnown.classLoader_mem_always 0)
  · refine List.forall_mem_singleton.mpr fun _ => ?_
    exact List.mem_append_right _ (List.mem_singleton_self _)

theorem loaderProxy_mem : loaderProxy ∈ loaderRegistry.types :=
  List.mem_append_right _ (List.mem_singleton_self _)

theorem loaderRegistry_size : loaderRegistry.size < UInt32.size := by
  decide +kernel

theorem loaderRegistry_guard (keeps : Bool) :
    Classifier.new loaderRegistry keeps = .ok (.full 0 keeps) :=
  Classifier.new_of_full loaderRegistry_run loaderRegistry_size rfl keeps

/-- The proxy is sensitive: its type may not be accessed, but its instances
may. -/
theorem loaderProxy_denied_for_static_access_only :
    ∃ state : DispatchState Unit,
      DispatchRun loaderRegistry true (fun _ => ⟨"main", some .denyAll⟩) []
          state ∧
        ((DispatchCall.checkAccess () loaderProxy true).perform state).result =
          .error (.dispatchDenied "host.proxy.$Proxy0" .reflectiveAccess) ∧
        ((DispatchCall.checkAccess () loaderProxy false).perform state).result =
          .ok .done := by
  have hrun : DispatchRun loaderRegistry true
      (fun _ : Unit => ⟨"main", some .denyAll⟩) [] _ :=
    .opened (loaderRegistry_guard true)
  have haccess := sensitive_access_denied_unless_genuine_instance
    loaderRegistry_run hrun (x := ()) rfl loaderProxy_mem (by decide +kernel)
  have hgenuine := ((haccess true).2.2 loaderRegistry_size).mpr
    ⟨_, List.mem_cons_self⟩
  refine ⟨_, hrun, (haccess true).2.1.trans ?_, (haccess false).2.1.trans ?_⟩
  · rw [if_pos (.inl rfl)]
    rfl
  · rw [if_neg (by simp [hgenuine])]

/-- Not every access to a sensitive type is refused while a policy is
installed. -/
theorem sensitive_access_not_always_denied :
    ¬ ∀ (serial : Nat) (environment : HostEnvironment)
        (made : List ServedTypeCall) (registry : TypeRegistry) (keeps : Bool)
        (guard : Classifier) (policy : Policy),
      TypeRun serial environment made registry →
        Classifier.new registry keeps = .ok guard →
        ∀ t ∈ registry.types, (guard.isSensitive registry t).1 = true →
          ∀ isStatic,
            (Guard.checkAccess registry (some policy) t isStatic
              guard).result =
                .error (.dispatchDenied t.name .reflectiveAccess) := by
  intro hdenied
  have hproxy := hdenied 0 .full _ loaderRegistry true _ .denyAll
    loaderRegistry_run (loaderRegistry_guard true) loaderProxy loaderProxy_mem
    (by decide +kernel) false
  have hpermitted : ((Classifier.full 0 true).requiresCheck loaderRegistry
      loaderProxy false).1 = false := by decide +kernel
  simp only [Guard.checkAccess, hpermitted, Bool.false_eq_true, if_false]
    at hproxy
  cases hproxy

end ScriptHost
