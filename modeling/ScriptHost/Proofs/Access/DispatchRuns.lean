import Mathlib.Logic.Function.Basic
import ScriptHost.Access.Guard
import ScriptHost.Proofs.Access.Classification
import ScriptHost.Proofs.Action

/-!
# Runs before a guard

A guard is set up over a registry at some moment.  From then on types are
added, policies of any number of contexts come and go, and the guard is asked,
all in any order.  A run keeps the registry sound, the guard's classifications
faithful, and in each context the policy that the last operation on its policy
left there.
-/

namespace ScriptHost

/-- A registry, a guard over it, and the contexts it is asked for. -/
structure DispatchState (ι : Type) where
  registry : TypeRegistry
  /-- What the guard knows of the registry's types. -/
  guard : Classifier
  contexts : ι → Context

namespace DispatchState

variable {ι α : Type}

def onRegistry (action : Action TypeRegistry α) : Action (DispatchState ι) α :=
  fun state =>
    let outcome := action state.registry
    ⟨outcome.result, { state with registry := outcome.state },
      outcome.journal⟩

def onContext [DecidableEq ι] (x : ι) (action : Action Context α) :
    Action (DispatchState ι) α := fun state =>
  let outcome := action (state.contexts x)
  ⟨outcome.result,
    { state with contexts := Function.update state.contexts x outcome.state },
    outcome.journal⟩

def onGuard (action : DispatchState ι → Action Classifier α) :
    Action (DispatchState ι) α := fun state =>
  let outcome := action state state.guard
  ⟨outcome.result, { state with guard := outcome.state }, outcome.journal⟩

end DispatchState

/-- A call on the registry, on a context or on the guard.  The plain question
whether a type is sensitive is `canLinkType`. -/
inductive DispatchCall (ι : Type) where
  | types (call : TypeCall)
  | create (x : ι) (name : String) (policy : Option Policy)
  | setPolicy (x : ι) (policy : Policy)
  | clearPolicy (x : ι)
  | familyOf (t : HostType)
  | categoryOf (t : HostType)
  | requiresCheck (t : HostType) (isStatic : Bool)
  | canLinkType (t : HostType)
  | tryLink (x : ι) (request : LinkRequest)
  | checkAccess (x : ι) (t : HostType) (isStatic : Bool)

inductive DispatchAnswer where
  | added (t : HostType)
  | done
  | replaced (policy : Option Policy)
  | family (family : Option SensitiveClass)
  | category (category : Category)
  | verdict (value : Bool)

namespace DispatchCall

open DispatchState

variable {ι : Type} [DecidableEq ι]

def perform : DispatchCall ι → Action (DispatchState ι) DispatchAnswer
  | types call => do
    let added ← onRegistry call.perform
    return .added added
  | create x name policy => do
    onContext x fun _ => ⟨.ok (), ⟨name, policy⟩, []⟩
    return .done
  | setPolicy x policy => do
    let replaced ← onContext x (Context.setPolicy policy)
    return .replaced replaced
  | clearPolicy x => do
    let replaced ← onContext x Context.clearPolicy
    return .replaced replaced
  | familyOf t => do
    let family ← onGuard fun state =>
      Action.query (Classifier.familyOf state.registry t)
    return .family family
  | categoryOf t => do
    let category ← onGuard fun state =>
      Action.query (Classifier.categoryOf state.registry t)
    return .category category
  | requiresCheck t isStatic => do
    let checked ← onGuard fun state =>
      Action.query (Classifier.requiresCheck state.registry t isStatic)
    return .verdict checked
  | canLinkType t => do
    let sensitive ← onGuard fun state =>
      Action.query (Guard.canLinkType state.registry t)
    return .verdict sensitive
  | tryLink x request => do
    onGuard fun state => Guard.tryLink (state.contexts x).policy request
    return .done
  | checkAccess x t isStatic => do
    onGuard fun state =>
      Guard.checkAccess state.registry (state.contexts x).policy t isStatic
    return .done

/-- The policy that a call leaves in a context, if it decides about it. -/
def leaves? (x : ι) : DispatchCall ι → Option (Option Policy)
  | create y _ policy => if y = x then some policy else none
  | setPolicy y policy => if y = x then some (some policy) else none
  | clearPolicy y => if y = x then some none else none
  | _ => none

omit [DecidableEq ι]

/-- The type that a call has the guard look up, if it does.  A check of access
does so only in a restricted context, and linking never does. -/
def looksUp? (restricted : ι → Bool) : DispatchCall ι → Option HostType
  | familyOf t | categoryOf t | requiresCheck t _ | canLinkType t => some t
  | checkAccess x t _ => if restricted x then some t else none
  | types _ | create .. | setPolicy .. | clearPolicy _ | tryLink .. => none

def arguments : DispatchCall ι → List HostType
  | types call => call.arguments
  | familyOf t | categoryOf t | requiresCheck t _ | canLinkType t => [t]
  | tryLink _ request => [request.target]
  | checkAccess _ t _ => [t]
  | create .. | setPolicy .. | clearPolicy _ => []

end DispatchCall

structure ServedDispatch (ι : Type) where
  call : DispatchCall ι
  result : Except Fault DispatchAnswer

/-- The call as one on the registry, if it is one. -/
def ServedDispatch.typeCall? {ι : Type} :
    ServedDispatch ι → Option ServedTypeCall
  | ⟨.types call, .ok (.added t)⟩ => some ⟨call, .ok t⟩
  | ⟨.types call, .error fault⟩ => some ⟨call, .error fault⟩
  | _ => none

def typeCalls {ι : Type} (served : List (ServedDispatch ι)) :
    List ServedTypeCall :=
  served.filterMap (·.typeCall?)

/-- The policy in a context after calls, the latest of which comes first: that
which the last call that decides about it left there, or that which the
context was created with. -/
def installed {ι : Type} [DecidableEq ι] (created : ι → Context)
    (served : List (ServedDispatch ι)) (x : ι) : Option Policy :=
  (served.findSome? (·.call.leaves? x)).getD (created x).policy

/-- A sequence of calls, the latest first, on a guard that was set up over a
registry and does or does not keep classifications, and the state they lead
to. -/
inductive DispatchRun {ι : Type} [DecidableEq ι] (opening : TypeRegistry)
    (keeps : Bool) (created : ι → Context) :
    List (ServedDispatch ι) → DispatchState ι → Prop where
  | opened {guard : Classifier}
      (hnew : Classifier.new opening keeps = .ok guard) :
      DispatchRun opening keeps created [] ⟨opening, guard, created⟩
  | call {served : List (ServedDispatch ι)} {state : DispatchState ι}
      (hrun : DispatchRun opening keeps created served state)
      (call : DispatchCall ι)
      (hauthentic : ∀ t ∈ call.arguments, state.registry.Authentic t) :
      DispatchRun opening keeps created
        (⟨call, (call.perform state).result⟩ :: served)
        (call.perform state).state

/-! ## One call -/

/-- A check of access looks the type up if there is a policy. -/
theorem Guard.checkAccess_state (registry : TypeRegistry)
    (policy : Option Policy) (t : HostType) (isStatic : Bool)
    (classifier : Classifier) :
    (Guard.checkAccess registry policy t isStatic classifier).state =
      if policy.isSome then (classifier.lookup registry t).2
      else classifier := by
  rw [Guard.checkAccess.eq_def]
  cases policy with
  | none => rfl
  | some policy =>
      dsimp only
      split <;> rfl

namespace DispatchCall

variable {ι : Type} [DecidableEq ι]

theorem perform_types (call : TypeCall) (state : DispatchState ι) :
    ((types call).perform state).result =
        (call.perform state.registry).result.map .added ∧
      ((types call).perform state).state =
        { state with registry := (call.perform state.registry).state } := by
  rw [perform, Action.bind_pure_apply]
  exact ⟨rfl, rfl⟩

/-- Only calls on the registry change it. -/
theorem registry_perform (call : DispatchCall ι) (state : DispatchState ι) :
    (∃ typeCall, call = .types typeCall) ∨
      ((∀ result, ServedDispatch.typeCall? ⟨call, result⟩ = none) ∧
        (call.perform state).state.registry = state.registry) := by
  cases call with
  | types typeCall => exact .inl ⟨typeCall, rfl⟩
  | _ =>
      refine .inr ⟨fun _ => rfl, ?_⟩
      rw [perform, Action.bind_pure_apply]
      rfl

theorem extends_perform (call : DispatchCall ι) (state : DispatchState ι) :
    state.registry.Extends (call.perform state).state.registry := by
  rcases call.registry_perform state with ⟨typeCall, rfl⟩ | ⟨_, hregistry⟩
  · rw [(perform_types typeCall state).2]
    exact TypeRegistry.extends_perform typeCall state.registry
  · rw [hregistry]
    exact TypeRegistry.Extends.refl _

/-- A context has the policy that a call leaves in it, or the one it had. -/
theorem policy_perform (call : DispatchCall ι) (state : DispatchState ι)
    (x : ι) :
    ((call.perform state).state.contexts x).policy =
      (call.leaves? x).getD (state.contexts x).policy := by
  have hupdate : ∀ (y : ι) (context : Context),
      (Function.update state.contexts y context x).policy =
        (if y = x then some context.policy else none).getD
          (state.contexts x).policy := by
    intro y context
    by_cases heq : y = x
    · subst heq
      rw [Function.update_self, if_pos rfl]
      rfl
    · rw [Function.update_of_ne (Ne.symm heq), if_neg heq]
      rfl
  cases call with
  | create y name policy | setPolicy y policy | clearPolicy y =>
      rw [perform, Action.bind_pure_apply]
      exact hupdate y _
  | _ =>
      rw [perform, Action.bind_pure_apply]
      rfl

/-- A call has the guard look up a type, or leaves it as it is. -/
theorem guard_perform_eq (call : DispatchCall ι) (state : DispatchState ι) :
    (call.perform state).state.guard =
      (call.looksUp? fun x => (state.contexts x).policy.isSome).elim
        state.guard fun t => (state.guard.lookup state.registry t).2 := by
  cases call with
  | types typeCall | create y name policy | setPolicy y policy
  | clearPolicy y | familyOf t | categoryOf t | requiresCheck t isStatic
  | canLinkType t =>
      rw [perform, Action.bind_pure_apply]
      rfl
  | tryLink x request =>
      rw [perform, Action.bind_pure_apply]
      simp only [DispatchState.onGuard, Guard.tryLink]
      split <;> rfl
  | checkAccess x t isStatic =>
      rw [perform, Action.bind_pure_apply]
      simp only [DispatchState.onGuard, Guard.checkAccess_state, looksUp?]
      split_ifs <;> rfl

omit [DecidableEq ι] in
theorem mem_arguments_of_looksUp? {call : DispatchCall ι}
    {restricted : ι → Bool} {t : HostType}
    (hlooks : call.looksUp? restricted = some t) : t ∈ call.arguments := by
  cases call with
  | familyOf u | categoryOf u | requiresCheck u isStatic | canLinkType u =>
      cases hlooks
      exact List.mem_singleton_self _
  | checkAccess x u isStatic =>
      rw [looksUp?, Option.ite_none_right_eq_some] at hlooks
      cases hlooks.2
      exact List.mem_singleton_self _
  | types _ | create _ _ _ | setPolicy _ _ | clearPolicy _ | tryLink _ _ =>
      cases hlooks

/-- A call leaves the guard as it is, or has it look up a type. -/
theorem guard_perform (call : DispatchCall ι) (state : DispatchState ι) :
    (call.perform state).state.guard = state.guard ∨
      ∃ t ∈ call.arguments, (call.perform state).state.guard =
        (state.guard.lookup state.registry t).2 := by
  rw [guard_perform_eq]
  cases hlooks : call.looksUp? fun x => (state.contexts x).policy.isSome with
  | none => exact .inl rfl
  | some t => exact .inr ⟨t, mem_arguments_of_looksUp? hlooks, rfl⟩

end DispatchCall

/-! ## Whole runs -/

namespace DispatchRun

variable {ι : Type} [DecidableEq ι]
variable {serial : Nat} {environment : HostEnvironment}
variable {before : List ServedTypeCall} {opening : TypeRegistry}
variable {keeps : Bool} {created : ι → Context}
variable {served : List (ServedDispatch ι)} {state : DispatchState ι}

/-- What a run does to the registry is a run of the registry. -/
theorem typeRun (hopening : TypeRun serial environment before opening)
    (hrun : DispatchRun opening keeps created served state) :
    TypeRun serial environment (typeCalls served ++ before) state.registry := by
  induction hrun with
  | opened _ => exact hopening
  | @call served state _ call hauthentic ih =>
      rcases call.registry_perform state with
        ⟨typeCall, rfl⟩ | ⟨hnone, hregistry⟩
      · obtain ⟨hresult, hstate⟩ := DispatchCall.perform_types typeCall state
        have hcall := TypeRun.call ih typeCall hauthentic
        rw [hresult, hstate]
        cases houtcome : (typeCall.perform state.registry).result <;>
          rwa [houtcome] at hcall
      · rw [hregistry, typeCalls, List.filterMap_cons_none (hnone _)]
        exact ih

theorem policy_eq (hrun : DispatchRun opening keeps created served state)
    (x : ι) : (state.contexts x).policy = installed created served x := by
  induction hrun with
  | opened _ => rfl
  | call _ call _ ih =>
      rw [DispatchCall.policy_perform, ih, installed, installed,
        List.findSome?_cons]
      cases call.leaves? x <;> rfl

/-- What holds of a new guard, and still holds after any look-up, holds at
every moment of a run. -/
theorem guard_induction {P : Classifier → Prop}
    (hnew : ∀ guard, Classifier.new opening keeps = .ok guard → P guard)
    (hlookup : ∀ guard registry t, P guard →
      P (Classifier.lookup registry t guard).2)
    (hrun : DispatchRun opening keeps created served state) :
    P state.guard := by
  induction hrun with
  | opened hguard => exact hnew _ hguard
  | call _ call _ ih =>
      rcases call.guard_perform _ with hguard | ⟨t, _, hguard⟩
      · rw [hguard]
        exact ih
      · rw [hguard]
        exact hlookup _ _ t ih

theorem anchors_eq (hrun : DispatchRun opening keeps created served state) :
    Anchors.ofRegistry opening = .ok state.guard.anchors := by
  refine guard_induction
    (P := fun guard => Anchors.ofRegistry opening = .ok guard.anchors) ?_ ?_
    hrun
  · exact fun guard hnew => (Classifier.new_eq_ok_iff.mp hnew).1
  · intro guard registry t hanchors
    rw [Classifier.lookup_anchors]
    exact hanchors

theorem kept_eq_none (hrun : DispatchRun opening false created served state) :
    state.guard.kept = none := by
  refine guard_induction (P := fun guard => guard.kept = none) ?_ ?_ hrun
  · exact fun guard hnew => (Classifier.new_eq_ok_iff.mp hnew).2
  · intro guard registry t hkept
    rw [Classifier.lookup_of_kept_none hkept, hkept]

theorem registry_extends (hrun : DispatchRun opening keeps created served state) :
    opening.Extends state.registry := by
  induction hrun with
  | opened _ => exact TypeRegistry.Extends.refl opening
  | call _ call _ ih => exact ih.trans (call.extends_perform _)

theorem grew (hopening : TypeRun serial environment before opening)
    (hrun : DispatchRun opening keeps created served state)
    (hsize : state.registry.size < UInt32.size) :
    opening.Grew state.registry :=
  ⟨hrun.registry_extends, hopening.sound, (hrun.typeRun hopening).sound, hsize⟩

theorem anchors_proxy_eq (hopening : TypeRun serial environment before opening)
    (hrun : DispatchRun opening keeps created served state)
    (hsize : state.registry.size < UInt32.size) :
    state.guard.anchors.proxy = WellKnown.proxy serial := by
  rw [hopening.sound.anchors_proxy_eq (hrun.grew hopening hsize).size_lt
    hrun.anchors_eq, hopening.serial_eq]

/-- The guard never keeps a classification that has become wrong. -/
theorem faithful (hopening : TypeRun serial environment before opening)
    (hrun : DispatchRun opening keeps created served state)
    (hsize : state.registry.size < UInt32.size) :
    state.guard.Faithful state.registry := by
  induction hrun with
  | opened hnew => exact Classifier.faithful_new hnew
  | @call served state hbefore call hauthentic ih =>
      have hextends := call.extends_perform state
      have hsound := (hbefore.typeRun hopening).sound
      have hlater := ((hbefore.call call hauthentic).typeRun hopening).sound
      -- Registries only grow, so the numbers had not run out before either.
      have hkept := ih (Nat.lt_of_le_of_lt hextends.size_le hsize)
      refine Classifier.Faithful.extends ?_ hextends hsound hlater hsize
      rcases call.guard_perform state with hguard | ⟨t, ht, hguard⟩
      · rw [hguard]
        exact hkept
      · rw [hguard]
        exact hkept.lookup hsound (hauthentic t ht)

/-- The guard answers as its anchors would classify afresh.  Only a guard that
keeps classifications depends on the numbers of types for this. -/
theorem lookup_eq (hopening : TypeRun serial environment before opening)
    (hrun : DispatchRun opening keeps created served state)
    (hsize : keeps = true → state.registry.size < UInt32.size) {t : HostType}
    (hauthentic : state.registry.Authentic t) :
    (state.guard.lookup state.registry t).1 =
      state.guard.anchors.classify state.registry t := by
  cases keeps with
  | true =>
      have hsize := hsize rfl
      exact (hrun.faithful hopening hsize).lookup_eq
        (hrun.typeRun hopening).sound hsize hauthentic
  | false => rw [Classifier.lookup_of_kept_none hrun.kept_eq_none]

end DispatchRun

end ScriptHost
