import ScriptHost.Proofs.Access.Worlds

/-!
# Genuine proxies

A proxy counts as genuine where it was generated and nowhere else.  Neither
the flags a definition asks for, nor what a type derives from, nor a number or
a name that another registry uses as well can make a genuine proxy of any other
type, and a classifier that has seen many types before is not deceived either.
-/

namespace ScriptHost

variable {environments : Nat → HostEnvironment}
variable {made : Nat → List ServedTypeCall} {world : World}
variable {serial : Nat} {t : HostType}

namespace WorldRun

/-- Below the limit of numbers, a classifier of a registry classifies every
type of the world by that registry's proxy base and as if it had not been asked
before. -/
theorem lookup_eq (hrun : WorldRun environments made world)
    (hsize : (world.registries serial).size < UInt32.size)
    {classifier : Classifier}
    (hmem : (serial, classifier) ∈ world.classifiers) (ht : world.Has t) :
    ∃ anchors : Anchors, anchors.proxy = WellKnown.proxy serial ∧
      (classifier.lookup (world.registries serial) t).1 =
        anchors.classify (world.registries serial) t := by
  obtain ⟨_, opening, anchors, hopening, hle, hanchors, hlookup⟩ :=
    hrun.lookup_eq_classify hsize hmem ht
  refine ⟨anchors, ?_, hlookup⟩
  rw [hopening.sound.anchors_proxy_eq (Nat.lt_of_le_of_lt hle hsize) hanchors,
    hopening.serial_eq]

theorem isProxyType_iff (hrun : WorldRun environments made world)
    (hsize : (world.registries serial).size < UInt32.size)
    (ht : world.Has t) :
    (world.registries serial).isProxyType t = true ↔
      Produced (made serial) t :=
  (hrun.typeRun serial).isProxyType_iff hsize (hrun.authentic ht serial)

end WorldRun

/-- Genuine proxies cannot be forged.  In every world, a registry and each of
its classifiers take a type for a genuine proxy exactly if the registry
generated it; any other type below the proxy base is a forged proxy, and every
access to it is checked.  What a registry generates is final, derives from the
proxy base and from the interfaces it was generated for, and shares its name
with no other type of the registry. -/
theorem genuine_proxies_cannot_be_forged
    (hrun : WorldRun environments made world)
    (hsize : ∀ serial, (world.registries serial).size < UInt32.size)
    (serial : Nat) :
    (∀ t, world.Has t →
      ((world.registries serial).isProxyType t = true ↔
        Produced (made serial) t) ∧
      ∀ classifier, (serial, classifier) ∈ world.classifiers →
        ((classifier.categoryOf (world.registries serial) t).1 =
            .genuineProxy ↔ Produced (made serial) t) ∧
        (t.isAssignableTo (WellKnown.proxy serial) = true →
          ¬ Produced (made serial) t →
          (classifier.categoryOf (world.registries serial) t).1 =
              .forgedProxy ∧
            ∀ isStatic, (classifier.requiresCheck (world.registries serial) t
              isStatic).1 = true)) ∧
    ∀ interfaces t, ⟨.defineProxy interfaces, .ok t⟩ ∈ made serial →
      t ∈ (world.registries serial).types ∧
      t.flags.includes .final = true ∧
      t.isAssignableTo (WellKnown.proxy serial) = true ∧
      (∀ u ∈ interfaces, t.isAssignableTo u = true) ∧
      ∀ u ∈ (world.registries serial).types, u.name = t.name → u = t := by
  have htypes := hrun.typeRun serial
  constructor
  · intro t ht
    have hgenuine := hrun.isProxyType_iff (hsize serial) ht
    refine ⟨hgenuine, fun classifier hmem => ?_⟩
    obtain ⟨anchors, hproxy, hlookup⟩ := hrun.lookup_eq (hsize serial) hmem ht
    rw [Classifier.categoryOf, hlookup]
    constructor
    · exact htypes.category_eq_genuineProxy_iff (hsize serial)
        (hrun.authentic ht serial) hproxy
    · intro hbelow hforged
      rw [← hgenuine] at hforged
      rw [← hproxy] at hbelow
      have hcategory :=
        anchors.category_of_proxy (world.registries serial) hbelow
      rw [if_neg hforged] at hcategory
      refine ⟨hcategory, fun isStatic => ?_⟩
      rw [Classifier.requiresCheck, hlookup, hcategory]
      rfl
  · intro interfaces t hmade
    have ht := htypes.mem_of_produced ⟨interfaces, hmade⟩
    obtain ⟨_, _, hflags⟩ := htypes.proxy_of_made (hsize serial) hmade
    refine ⟨ht, ?_, ?_, fun u hu => ?_, fun u hu hname => ?_⟩
    · rw [hflags]
      decide
    · exact htypes.isAssignableTo_proxy_of_produced (hsize serial)
        ⟨interfaces, hmade⟩
    · apply HostType.isAssignableTo_of_mem_supertypes
      rw [htypes.supertypes_of_made (hsize serial) hmade]
      exact List.mem_cons_of_mem _ hu
    · exact htypes.sound.eq_of_name hu ht hname

/-! ## Two proxies of one number -/

def firstProxy (serial : Nat) : HostType :=
  ⟨serial, ⟨14⟩, "host.proxy.$Proxy0", some (WellKnown.proxy serial), [],
    .union .generatedProxy .final⟩

/-- A world of full hosts in which two registries have generated a proxy
each. -/
def twoProxies : World :=
  .twoCalled (.defineProxy []) (.defineProxy [])

def proxyCalls : Nat → List ServedTypeCall :=
  Function.update
    (Function.update (fun _ => []) 0 [⟨.defineProxy [], .ok (firstProxy 0)⟩])
    1 [⟨.defineProxy [], .ok (firstProxy 1)⟩]

theorem twoProxies_run : WorldRun (fun _ => .full) proxyCalls twoProxies :=
  (WorldRun.start.call 0 (.defineProxy []) nofun).call 1 (.defineProxy []) nofun

theorem twoProxies_size (serial : Nat) :
    (twoProxies.registries serial).size < UInt32.size :=
  World.size_lt_twoCalled (by decide +kernel) (by decide +kernel) serial

/-- The same world after a classifier was made for the first registry. -/
def proxyWorld : World :=
  twoProxies.withClassifier 0 (.full 0 true)

theorem proxyWorld_run : WorldRun (fun _ => .full) proxyCalls proxyWorld :=
  twoProxies_run.classifier (Classifier.new_of_full (twoProxies_run.typeRun 0)
    (twoProxies_size 0) rfl true)

theorem proxyWorld_size (serial : Nat) :
    (proxyWorld.registries serial).size < UInt32.size := by
  rw [proxyWorld, World.registries_withClassifier]
  exact twoProxies_size serial

theorem proxyWorld_has_firstProxy {serial : Nat} (hserial : serial < 2) :
    proxyWorld.Has (firstProxy serial) := by
  refine ⟨serial, ?_⟩
  match serial with
  | 0 | 1 => exact List.mem_append_right _ (List.mem_singleton_self _)

/-- The two proxies have the same number and the same name, but the classifier
of the first registry takes that of the second for forged. -/
theorem proxy_of_other_registry_is_forged :
    ∃ classifier, (0, classifier) ∈ proxyWorld.classifiers ∧
      (classifier.categoryOf (proxyWorld.registries 0) (firstProxy 0)).1 =
        .genuineProxy ∧
      (classifier.categoryOf (proxyWorld.registries 0) (firstProxy 1)).1 =
        .forgedProxy ∧
      (firstProxy 0).flags.includes .final = true := by
  have hmem : (0, _) ∈ proxyWorld.classifiers := List.mem_singleton_self _
  have hmade : ⟨.defineProxy [], .ok (firstProxy 0)⟩ ∈ proxyCalls 0 :=
    List.mem_singleton_self _
  obtain ⟨htypes, hproxies⟩ :=
    genuine_proxies_cannot_be_forged proxyWorld_run proxyWorld_size 0
  have hown := (htypes _ (proxyWorld_has_firstProxy Nat.two_pos)).2 _ hmem
  have hother := (htypes _ (proxyWorld_has_firstProxy Nat.one_lt_two)).2 _ hmem
  refine ⟨_, hmem, hown.1.mpr ⟨[], hmade⟩, (hother.2 rfl ?_).1,
    (hproxies [] _ hmade).2.1⟩
  rintro ⟨interfaces, hforged⟩
  cases List.mem_singleton.mp hforged

end ScriptHost
