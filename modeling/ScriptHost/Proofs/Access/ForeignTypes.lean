import ScriptHost.Proofs.Access.GenuineProxies
import ScriptHost.Proofs.HostType.Growth

/-!
# Types of other registries

The registries of full hosts have different types for anchors, but these have
the same numbers and names, and nothing else of a type is compared with.  So a
type is judged abroad as it is at home, with one exception: a proxy is genuine
only where it was generated.
-/

namespace ScriptHost

/-! ## Anchors that look alike -/

/-- What a type is assignable to depends on a number and a name only. -/
theorem HostType.isAssignableTo_congr {t u v : HostType} (hid : u.id = v.id)
    (hname : u.name = v.name) : t.isAssignableTo u = t.isAssignableTo v := by
  have hlooks : (fun a : HostType => a.looksLike u) =
      fun a => a.looksLike v := by
    funext a
    rw [looksLike, looksLike, hid, hname]
  rw [isAssignableTo, isAssignableTo, hlooks]

theorem WellKnown.isAssignableTo_proxy (one two : Nat) (t : HostType) :
    t.isAssignableTo (proxy one) = t.isAssignableTo (proxy two) :=
  HostType.isAssignableTo_congr rfl rfl

/-- The family of a type does not depend on which full host is asked. -/
theorem WellKnown.familyOf_anchors (one two : Nat) (t : HostType) :
    (anchors one).familyOf t = (anchors two).familyOf t := by
  have hclass : t.isAssignableTo (classType one) =
      t.isAssignableTo (classType two) := HostType.isAssignableTo_congr rfl rfl
  have hloader : t.isAssignableTo (classLoader one) =
      t.isAssignableTo (classLoader two) :=
    HostType.isAssignableTo_congr rfl rfl
  have hbeans : (beans one).any t.isAssignableTo =
      (beans two).any t.isAssignableTo := by
    have hbean : ∀ id name,
        t.isAssignableTo (make one id name (object one) [] .none) =
          t.isAssignableTo (make two id name (object two) [] .none) :=
      fun _ _ => HostType.isAssignableTo_congr rfl rfl
    simp only [beans, List.any_cons, hbean]
  change (if t.isAssignableTo (classType one) ||
    t.isAssignableTo (classLoader one) then _ else
      if (beans one).any t.isAssignableTo then _ else _) = _
  rw [hclass, hloader, hbeans]
  rfl

/-! ## Judgements abroad -/

namespace Category

/-- The category that a type of another registry has, given the one it has at
home. -/
def abroad : Category → Category
  | genuineProxy => forgedProxy
  | category => category

/-- What is checked at home is checked abroad. -/
theorem requiresCheck_abroad {category : Category} {isStatic : Bool}
    (hchecked : category.requiresCheck isStatic = true) :
    category.abroad.requiresCheck isStatic = true := by
  cases category with
  | ordinary => exact hchecked
  | genuineProxy => rfl
  | forgedProxy => rfl
  | sensitive family => rfl

end Category

variable {environments : Nat → HostEnvironment}
variable {made : Nat → List ServedTypeCall} {world : World} {t : HostType}

namespace WorldRun

/-- A classifier of a full host judges every type of the world by the anchors
of full hosts, whatever it was asked before. -/
theorem lookup_of_full (hrun : WorldRun environments made world)
    {serial : Nat} (hfull : (environments serial).beanHelpers = true)
    (hsize : (world.registries serial).size < UInt32.size)
    {classifier : Classifier}
    (hmem : (serial, classifier) ∈ world.classifiers) (ht : world.Has t) :
    (classifier.lookup (world.registries serial) t).1 =
      (WellKnown.anchors serial).classify (world.registries serial) t := by
  obtain ⟨_, opening, anchors, hopening, hle, hanchors, hlookup⟩ :=
    hrun.lookup_eq_classify hsize hmem ht
  rw [hopening.anchors_eq (Nat.lt_of_le_of_lt hle hsize) hfull] at hanchors
  cases hanchors
  exact hlookup

/-- A registry generated none of the types that another one has. -/
theorem isProxyType_abroad (hrun : WorldRun environments made world)
    {one two : Nat} (hdistinct : one ≠ two)
    (ht : t ∈ (world.registries two).types) :
    (world.registries one).isProxyType t = false := by
  have howner : t.owner ≠ (world.registries one).serial := by
    rw [hrun.owner_eq ht, (hrun.typeRun one).serial_eq]
    exact hdistinct.symm
  rw [TypeRegistry.isProxyType,
    (hrun.typeRun one).sound.not_owns_of_owner_ne howner, Bool.and_false]

/-- Abroad a type has the family that it has at home, and its category but for
genuine proxies. -/
theorem classify_abroad (hrun : WorldRun environments made world)
    {one two : Nat} (hdistinct : one ≠ two)
    (ht : t ∈ (world.registries two).types) :
    let home := (WellKnown.anchors two).classify (world.registries two) t
    (WellKnown.anchors one).classify (world.registries one) t =
      ⟨home.family, home.category.abroad⟩ := by
  intro home
  have hproxy : t.isAssignableTo (WellKnown.anchors one).proxy =
      t.isAssignableTo (WellKnown.anchors two).proxy :=
    WellKnown.isAssignableTo_proxy one two t
  simp only [home, Anchors.classify, hrun.isProxyType_abroad hdistinct ht,
    WellKnown.familyOf_anchors one two t, hproxy]
  cases t.isAssignableTo (WellKnown.anchors two).proxy with
  | true =>
      cases (world.registries two).isProxyType t <;> rfl
  | false =>
      cases (WellKnown.anchors two).familyOf t <;> rfl

end WorldRun

/-- Types of other registries are judged no more leniently than at home.
Whatever was defined and asked in a world, a classifier of a full host puts a
type of another full host into the family that the classifiers there put it
into, and into the same category, except that a genuine proxy counts as forged;
so what is checked at home is checked abroad. -/
theorem foreign_types_judged_no_more_leniently
    (hrun : WorldRun environments made world) {one two : Nat}
    (hdistinct : one ≠ two) (hone : (environments one).beanHelpers = true)
    (htwo : (environments two).beanHelpers = true)
    (honeSize : (world.registries one).size < UInt32.size)
    (htwoSize : (world.registries two).size < UInt32.size)
    {ours theirs : Classifier} (hours : (one, ours) ∈ world.classifiers)
    (htheirs : (two, theirs) ∈ world.classifiers)
    (ht : t ∈ (world.registries two).types) :
    (ours.familyOf (world.registries one) t).1 =
        (theirs.familyOf (world.registries two) t).1 ∧
      (ours.categoryOf (world.registries one) t).1 =
        (theirs.categoryOf (world.registries two) t).1.abroad ∧
      ∀ isStatic,
        (theirs.requiresCheck (world.registries two) t isStatic).1 = true →
          (ours.requiresCheck (world.registries one) t isStatic).1 = true := by
  have hclass : (ours.lookup (world.registries one) t).1 =
      ⟨(theirs.lookup (world.registries two) t).1.family,
        (theirs.lookup (world.registries two) t).1.category.abroad⟩ := by
    rw [hrun.lookup_of_full hone honeSize hours ⟨two, ht⟩,
      hrun.lookup_of_full htwo htwoSize htheirs ⟨two, ht⟩]
    exact hrun.classify_abroad hdistinct ht
  refine ⟨?_, ?_, ?_⟩
  · rw [Classifier.familyOf, Classifier.familyOf, hclass]
  · rw [Classifier.categoryOf, Classifier.categoryOf, hclass]
  · intro isStatic hchecked
    rw [Classifier.requiresCheck, hclass]
    exact Category.requiresCheck_abroad hchecked

/-! ## A proxy and a class loader of another registry -/

/-- The world of two proxies, with a classifier for the second registry
also. -/
def twoGuardWorld : World := proxyWorld.withClassifier 1 (.full 1 true)

theorem twoGuardWorld_run :
    WorldRun (fun _ => .full) proxyCalls twoGuardWorld :=
  proxyWorld_run.classifier (Classifier.new_of_full (proxyWorld_run.typeRun 1)
    (proxyWorld_size 1) rfl true)

theorem twoGuardWorld_size (serial : Nat) :
    (twoGuardWorld.registries serial).size < UInt32.size := by
  rw [twoGuardWorld, World.registries_withClassifier]
  exact proxyWorld_size serial

/-- A proxy is genuine where it was generated and forged elsewhere, where the
class loader of the other registry is judged as at home. -/
theorem proxy_and_loader_judged_elsewhere :
    ∃ ours theirs, (0, ours) ∈ twoGuardWorld.classifiers ∧
      (1, theirs) ∈ twoGuardWorld.classifiers ∧
      ((theirs.categoryOf (twoGuardWorld.registries 1) (firstProxy 1)).1 =
          .genuineProxy ∧
        (ours.categoryOf (twoGuardWorld.registries 0) (firstProxy 1)).1 =
          .forgedProxy) ∧
      (theirs.requiresCheck (twoGuardWorld.registries 1)
          (WellKnown.classLoader 1) false).1 = true ∧
      (ours.familyOf (twoGuardWorld.registries 0)
        (WellKnown.classLoader 1)).1 = some .metaObject ∧
      (ours.requiresCheck (twoGuardWorld.registries 0)
        (WellKnown.classLoader 1) false).1 = true := by
  have hours : (0, _) ∈ twoGuardWorld.classifiers := List.mem_cons_self
  have htheirs : (1, _) ∈ twoGuardWorld.classifiers :=
    List.mem_cons_of_mem _ List.mem_cons_self
  have hproxy : firstProxy 1 ∈ (twoGuardWorld.registries 1).types :=
    List.mem_append_right _ (List.mem_singleton_self _)
  have hloader : WellKnown.classLoader 1 ∈
      (twoGuardWorld.registries 1).types :=
    (twoGuardWorld_run.typeRun 1).mem_of_always
      (WellKnown.classLoader_mem_always 1)
  obtain ⟨_, hcategory, _⟩ := foreign_types_judged_no_more_leniently
    twoGuardWorld_run Nat.zero_ne_one rfl rfl (twoGuardWorld_size 0)
    (twoGuardWorld_size 1) hours htheirs hproxy
  obtain ⟨hfamily, _, hchecked⟩ := foreign_types_judged_no_more_leniently
    twoGuardWorld_run Nat.zero_ne_one rfl rfl (twoGuardWorld_size 0)
    (twoGuardWorld_size 1) hours htheirs hloader
  refine ⟨_, _, hours, htheirs, ⟨?_, ?_⟩, ?_, ?_, ?_⟩
  · decide +kernel
  · rw [hcategory]
    decide +kernel
  · decide +kernel
  · rw [hfamily]
    decide +kernel
  · apply hchecked
    decide +kernel

end ScriptHost
