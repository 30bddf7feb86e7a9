import Mathlib.Data.Set.Card
import ScriptHost.Proofs.Access.GuardDecisions

/-!
# What a guard keeps

A guard that keeps classifications has exactly one for each type of its
registry that some call made it look up, and that one is still right.  So it
answers as a guard that keeps nothing, and it keeps nothing of the types of
other registries, whatever their numbers.
-/

namespace ScriptHost

/-! ## Types that exist -/

namespace TypeRegistry.Authentic

variable {registry later : TypeRegistry} {t : HostType}

theorem atLater (hauthentic : registry.Authentic t)
    (hextends : registry.Extends later) : later.Authentic t := by
  intro howner
  rw [hextends.serial] at howner
  exact hextends.types.subset (hauthentic howner)

/-- A type that exists elsewhere never becomes a type of the registry. -/
theorem mem_iff_of_extends (hauthentic : registry.Authentic t)
    (hextends : registry.Extends later) (hlater : later.Sound) :
    t ∈ later.types ↔ t ∈ registry.types := by
  refine ⟨fun ht => hauthentic ?_, fun ht => hextends.types.subset ht⟩
  rw [hlater.owned t ht, hextends.serial]

end TypeRegistry.Authentic

/-! ## One entry for each type looked up -/

/-- The entries are those of the registry's types among the looked-up ones, one
for each of them. -/
structure Tracks (registry : TypeRegistry) (looked : List HostType)
    (kept : List (TypeId × Classification)) : Prop where
  nodup : (kept.map (·.1)).Nodup
  mem_iff : ∀ id, id ∈ kept.map (·.1) ↔
    ∃ t ∈ looked, t ∈ registry.types ∧ t.id = id

namespace Tracks

variable {registry later : TypeRegistry} {looked : List HostType}
variable {kept : List (TypeId × Classification)} {t : HostType}

theorem nil (registry : TypeRegistry) : Tracks registry [] [] where
  nodup := List.nodup_nil
  mem_iff := by simp

theorem cons_of_not_mem (htracks : Tracks registry looked kept)
    (ht : t ∉ registry.types) : Tracks registry (t :: looked) kept where
  nodup := htracks.nodup
  mem_iff := by
    intro id
    rw [htracks.mem_iff, List.exists_mem_cons_iff]
    exact (or_iff_right fun hhead => ht hhead.1).symm

theorem cons_of_kept (htracks : Tracks registry looked kept)
    (hid : t.id ∈ kept.map (·.1)) : Tracks registry (t :: looked) kept where
  nodup := htracks.nodup
  mem_iff := by
    intro id
    rw [List.exists_mem_cons_iff, ← htracks.mem_iff]
    refine (or_iff_right_of_imp ?_).symm
    rintro ⟨_, rfl⟩
    exact hid

theorem cons_of_new (htracks : Tracks registry looked kept)
    (ht : t ∈ registry.types) (hid : t.id ∉ kept.map (·.1))
    (known : Classification) :
    Tracks registry (t :: looked) (kept ++ [(t.id, known)]) where
  nodup := by
    rw [List.map_append]
    refine List.nodup_append.mpr
      ⟨htracks.nodup, List.nodup_singleton _, ?_⟩
    intro id hold other hnew heq
    rw [heq, List.mem_singleton.mp hnew] at hold
    exact hid hold
  mem_iff := by
    intro id
    rw [List.map_append, List.mem_append, htracks.mem_iff,
      List.exists_mem_cons_iff, or_comm]
    refine or_congr_left ?_
    rw [List.map_singleton, List.mem_singleton]
    exact ⟨fun heq => ⟨ht, heq.symm⟩, fun hhead => hhead.2.symm⟩

/-- A look-up leaves one entry for its type, if that is the registry's. -/
theorem lookup (htracks : Tracks registry looked kept)
    {classifier : Classifier} (hkept : classifier.kept = some kept)
    (hsound : registry.Sound) (hsize : registry.size < UInt32.size)
    (hauthentic : registry.Authentic t) :
    ∃ after, (classifier.lookup registry t).2.kept = some after ∧
      Tracks registry (t :: looked) after := by
  rcases classifier.lookup_cases registry t with
    ⟨hapart, hlookup⟩ |
      ⟨found, hfound, howns, ⟨known, hknown, hlookup⟩ | ⟨hnew, hlookup⟩⟩
  · rw [hlookup]
    refine ⟨kept, hkept, htracks.cons_of_not_mem fun ht => ?_⟩
    rcases hapart with hnone | hforeign
    · rw [hnone] at hkept
      cases hkept
    · rw [← hsound.owns_iff hsize hauthentic, hforeign] at ht
      cases ht
  · cases hkept.symm.trans hfound
    rw [hlookup]
    exact ⟨kept, hkept,
      htracks.cons_of_kept (List.mem_map.mpr ⟨_, hknown, rfl⟩)⟩
  · cases hkept.symm.trans hfound
    rw [hlookup]
    exact ⟨_, rfl,
      htracks.cons_of_new (hsound.mem_of_owns hauthentic howns) hnew _⟩

/-- Types that are added later had not been looked up. -/
theorem atLater (htracks : Tracks registry looked kept)
    (hlooked : ∀ t ∈ looked, registry.Authentic t)
    (hextends : registry.Extends later) (hlater : later.Sound) :
    Tracks later looked kept where
  nodup := htracks.nodup
  mem_iff := by
    intro id
    rw [htracks.mem_iff]
    refine exists_congr fun t => and_congr_right fun ht => ?_
    rw [(hlooked t ht).mem_iff_of_extends hextends hlater]

/-- Below the limit of numbers, there are as many entries as types of the
registry were looked up. -/
theorem length_eq (htracks : Tracks registry looked kept)
    (hsound : registry.Sound) (hsize : registry.size < UInt32.size) :
    kept.length = {t | t ∈ registry.types ∧ t ∈ looked}.ncard := by
  have hnumbers : HostType.id '' {t | t ∈ registry.types ∧ t ∈ looked} =
      ((kept.map (·.1)).toFinset : Set TypeId) := by
    ext id
    rw [List.coe_toFinset, Set.mem_ofPred_eq, htracks.mem_iff, Set.mem_image]
    refine exists_congr fun t => ?_
    rw [Set.mem_ofPred_eq, and_assoc, and_left_comm]
  calc
    kept.length = (kept.map (·.1)).toFinset.card := by
      rw [List.toFinset_card_of_nodup htracks.nodup, List.length_map]
    _ = (HostType.id '' {t | t ∈ registry.types ∧ t ∈ looked}).ncard := by
      rw [hnumbers, Set.ncard_coe_finset]
    _ = {t | t ∈ registry.types ∧ t ∈ looked}.ncard :=
      Set.InjOn.ncard_image fun _ ht _ hu hid =>
        hsound.eq_of_id hsize ht.1 hu.1 hid

end Tracks

/-! ## Runs -/

/-- The types that calls had the guard look up, the latest first. -/
def lookedUp {ι : Type} [DecidableEq ι] (created : ι → Context) :
    List (ServedDispatch ι) → List HostType
  | [] => []
  | made :: earlier =>
    (made.call.looksUp? fun x => (installed created earlier x).isSome).toList ++
        lookedUp created earlier

theorem mem_lookedUp_cons {ι : Type} [DecidableEq ι] {created : ι → Context}
    {made : ServedDispatch ι} {earlier : List (ServedDispatch ι)}
    {t : HostType} (ht : t ∈ lookedUp created (made :: earlier)) :
    t ∈ made.call.arguments ∨ t ∈ lookedUp created earlier :=
  (List.mem_append.mp ht).imp_left fun hlatest =>
    DispatchCall.mem_arguments_of_looksUp? (Option.mem_toList.mp hlatest)

namespace DispatchCall

variable {ι : Type} [DecidableEq ι]

/-- How a call ends depends on the guard by its answer only. -/
theorem result_withGuard (call : DispatchCall ι) (state : DispatchState ι)
    (guard : Classifier)
    (hanswer : ∀ t ∈ call.arguments, (guard.lookup state.registry t).1 =
      (state.guard.lookup state.registry t).1) :
    (call.perform { state with guard := guard }).result =
      (call.perform state).result := by
  cases call with
  | types typeCall | create x name policy | setPolicy x policy
  | clearPolicy x =>
      rw [perform, Action.bind_pure_apply, Action.bind_pure_apply]
      rfl
  | familyOf t | categoryOf t | requiresCheck t isStatic | canLinkType t =>
      have hlookup := hanswer t (List.mem_singleton_self t)
      rw [perform, Action.bind_pure_apply, Action.bind_pure_apply]
      simp only [DispatchState.onGuard, Action.query, Classifier.familyOf,
        Classifier.categoryOf, Classifier.requiresCheck, Guard.canLinkType,
        Classifier.isSensitive, hlookup]
  | tryLink x request => rw [tryLink_result, tryLink_result]
  | checkAccess x t isStatic =>
      have hchecked : (guard.requiresCheck state.registry t isStatic).1 =
          (state.guard.requiresCheck state.registry t isStatic).1 := by
        rw [Classifier.requiresCheck, Classifier.requiresCheck,
          hanswer t (List.mem_singleton_self t)]
      rw [checkAccess_result, checkAccess_result, hchecked]

/-- Apart from the guard itself, what a call changes does not depend on it. -/
theorem state_withGuard (call : DispatchCall ι) (state : DispatchState ι)
    (guard : Classifier) :
    (call.perform { state with guard := guard }).state =
      { (call.perform state).state with
        guard := (call.perform { state with guard := guard }).state.guard } := by
  cases call <;>
    rw [perform, Action.bind_pure_apply, Action.bind_pure_apply] <;> rfl

end DispatchCall

namespace DispatchRun

variable {ι : Type} [DecidableEq ι]
variable {serial : Nat} {environment : HostEnvironment}
variable {before : List ServedTypeCall} {opening : TypeRegistry}
variable {keeps : Bool} {created : ι → Context}
variable {served : List (ServedDispatch ι)} {state : DispatchState ι}

/-- The same calls end in the same way before a guard that keeps nothing. -/
theorem withoutKeeping {forgetful : Classifier}
    (hnew : Classifier.new opening false = .ok forgetful)
    (hopening : TypeRun serial environment before opening)
    (hrun : DispatchRun opening keeps created served state)
    (hsize : state.registry.size < UInt32.size) :
    DispatchRun opening false created served
      { state with guard := forgetful } := by
  obtain ⟨hanchors, hkept⟩ := Classifier.new_eq_ok_iff.mp hnew
  induction hrun with
  | opened _ => exact .opened hnew
  | @call served state hbefore call hauthentic ih =>
      have hearlier : state.registry.size < UInt32.size :=
        Nat.lt_of_le_of_lt (call.extends_perform state).size_le hsize
      have hforgetful := ih hearlier
      have hanswer : ∀ t ∈ call.arguments,
          (forgetful.lookup state.registry t).1 =
            (state.guard.lookup state.registry t).1 := by
        intro t ht
        have hsame : forgetful.anchors = state.guard.anchors :=
          Except.ok.inj (hanchors.symm.trans hbefore.anchors_eq)
        rw [hbefore.lookup_eq hopening (fun _ => hearlier) (hauthentic t ht),
          Classifier.lookup_of_kept_none hkept, hsame]
      have hcall := hforgetful.call call hauthentic
      rw [call.result_withGuard state _ hanswer,
        call.state_withGuard state] at hcall
      have hguard : (call.perform
          { state with guard := forgetful }).state.guard = forgetful := by
        rcases call.guard_perform { state with guard := forgetful }
          with hsame | ⟨t, _, hlooked⟩
        · exact hsame
        · rw [hlooked, Classifier.lookup_of_kept_none hkept]
      rw [hguard] at hcall
      exact hcall

theorem authentic_of_lookedUp
    (hrun : DispatchRun opening keeps created served state) {t : HostType}
    (ht : t ∈ lookedUp created served) : state.registry.Authentic t := by
  induction hrun with
  | opened _ => cases ht
  | call _ call hauthentic ih =>
      refine TypeRegistry.Authentic.atLater ?_ (call.extends_perform _)
      exact (mem_lookedUp_cons ht).elim (hauthentic t) ih

/-- A guard that keeps classifications tracks the types that calls had it look
up. -/
theorem tracks (hopening : TypeRun serial environment before opening)
    (hrun : DispatchRun opening true created served state)
    (hsize : state.registry.size < UInt32.size) :
    ∃ kept, state.guard.kept = some kept ∧
      Tracks state.registry (lookedUp created served) kept := by
  induction hrun with
  | opened hnew =>
      exact ⟨[], (Classifier.new_eq_ok_iff.mp hnew).2, .nil opening⟩
  | @call served state hbefore call hauthentic ih =>
      have hextends := call.extends_perform state
      have hsound := (hbefore.typeRun hopening).sound
      have hlater := ((hbefore.call call hauthentic).typeRun hopening).sound
      have hearlier := Nat.lt_of_le_of_lt hextends.size_le hsize
      obtain ⟨kept, hkept, htracks⟩ := ih hearlier
      have hrestricted : (fun x => (state.contexts x).policy.isSome) =
          fun x => (installed created served x).isSome := by
        funext x
        rw [hbefore.policy_eq]
      -- The look-up happens in the registry as it was before the call; a type
      -- that the call then adds had not been looked up.
      have hlooked : ∃ after, (call.perform state).state.guard.kept =
          some after ∧ Tracks state.registry
            (lookedUp created (⟨call, (call.perform state).result⟩ :: served))
            after := by
        rw [DispatchCall.guard_perform_eq, lookedUp, hrestricted]
        cases hcall : call.looksUp?
            fun x => (installed created served x).isSome with
        | none => exact ⟨kept, hkept, htracks⟩
        | some t =>
            exact htracks.lookup hkept hsound hearlier
              (hauthentic t (DispatchCall.mem_arguments_of_looksUp? hcall))
      obtain ⟨after, hafter, htracked⟩ := hlooked
      refine ⟨after, hafter, htracked.atLater (fun t ht => ?_) hextends hlater⟩
      exact (mem_lookedUp_cons ht).elim (hauthentic t)
        hbefore.authentic_of_lookedUp

end DispatchRun

section

variable {ι : Type} [DecidableEq ι]
variable {serial : Nat} {environment : HostEnvironment}
variable {before : List ServedTypeCall} {opening : TypeRegistry}
variable {created : ι → Context}
variable {served : List (ServedDispatch ι)} {state : DispatchState ι}

/-- Keeping classifications does not show, and exactly the right ones are kept.
All calls that were made before a guard that keeps classifications end in the
same way before one that is set up at the same moment and keeps nothing; what
is kept under a number is what the latter would compute now for the registry's
type of that number; as many are kept as types of the registry were looked up;
and a look-up of a type of another registry neither adds to what is kept,
whatever it is, nor reads it. -/
theorem kept_classifications_exact_and_unseen
    (hopening : TypeRun serial environment before opening)
    (hrun : DispatchRun opening true created served state)
    (hsize : state.registry.size < UInt32.size) :
    ∃ forgetful, Classifier.new opening false = .ok forgetful ∧
      DispatchRun opening false created served
        { state with guard := forgetful } ∧
      forgetful.keptCount = 0 ∧
      (∀ kept, state.guard.kept = some kept → ∀ entry ∈ kept,
        ∃ t, state.registry.find? entry.1 = some t ∧
          entry.2 = forgetful.anchors.classify state.registry t) ∧
      state.guard.keptCount =
        {t | t ∈ state.registry.types ∧
          t ∈ lookedUp created served}.ncard ∧
      ∀ t, t.owner ≠ state.registry.serial → ∀ kept,
        Classifier.lookup state.registry t
            { state.guard with kept := kept } =
          (forgetful.anchors.classify state.registry t,
            { state.guard with kept := kept }) := by
  have hsound := (hrun.typeRun hopening).sound
  have hnew : Classifier.new opening false =
      .ok ⟨state.guard.anchors, none⟩ :=
    Classifier.new_eq_ok_iff.mpr ⟨hrun.anchors_eq, rfl⟩
  refine ⟨_, hnew, hrun.withoutKeeping hnew hopening hsize, rfl, ?_, ?_, ?_⟩
  · intro kept hkept entry hentry
    obtain ⟨t, ht, hid, hclass⟩ :=
      hrun.faithful hopening hsize kept hkept entry hentry
    refine ⟨t, ?_, hclass⟩
    rw [← hid]
    exact hsound.find?_id hsize ht
  · obtain ⟨kept, hkept, htracks⟩ := hrun.tracks hopening hsize
    rw [Classifier.keptCount, hkept]
    exact htracks.length_eq hsound hsize
  · intro t howner kept
    rw [Classifier.lookup_of_not_owns (hsound.not_owns_of_owner_ne howner)]

/-- Of the class meta-object that is asked about twice, that of another
registry, and a class loader that is checked without a policy, one
classification is kept. -/
theorem class_kept_once :
    ∃ (served : List (ServedDispatch Unit)) (state : DispatchState Unit),
      DispatchRun (.new 0 .full) true (fun _ => ⟨"main", none⟩) served state ∧
        state.registry.size < UInt32.size ∧
        (∃ forgetful, Classifier.new (.new 0 .full) false = .ok forgetful ∧
          DispatchRun (.new 0 .full) false (fun _ => ⟨"main", none⟩) served
            { state with guard := forgetful }) ∧
        {t | t ∈ state.registry.types ∧
          t ∈ lookedUp (fun _ => ⟨"main", none⟩) served}.ncard = 1 := by
  have hnew : TypeRun 0 .full [] (.new 0 .full) := .start
  have hsize : (TypeRegistry.new 0 .full).size < UInt32.size := by
    decide +kernel
  have hopened : DispatchRun (.new 0 .full) true
      (fun _ : Unit => ⟨"main", none⟩) [] _ :=
    .opened (Classifier.new_of_full hnew hsize rfl true)
  have hown : ∀ t ∈ WellKnown.always 0, ∀ u ∈ [t],
      (TypeRegistry.new 0 .full).Authentic u := fun t ht =>
    List.forall_mem_singleton.mpr fun _ => hnew.mem_of_always ht
  have hclass := hown (WellKnown.classType 0) (WellKnown.classType_mem_always 0)
  have hloader := hown (WellKnown.classLoader 0)
    (WellKnown.classLoader_mem_always 0)
  have hforeign : ∀ u ∈ [WellKnown.classType 1],
      (TypeRegistry.new 0 .full).Authentic u :=
    List.forall_mem_singleton.mpr fun howned =>
      absurd (howned.trans hnew.serial_eq) (by decide)
  have hrun := (((hopened.call (.familyOf (WellKnown.classType 0))
    hclass).call (.canLinkType (WellKnown.classType 1)) hforeign).call
      (.checkAccess () (WellKnown.classLoader 0) true) hloader).call
        (.requiresCheck (WellKnown.classType 0) false) hclass
  obtain ⟨forgetful, hforgetful, hsame, _, _, hcount, _⟩ :=
    kept_classifications_exact_and_unseen hnew hrun hsize
  exact ⟨_, _, hrun, hsize, ⟨forgetful, hforgetful, hsame⟩,
    hcount.symm.trans (by decide +kernel)⟩

end

end ScriptHost
