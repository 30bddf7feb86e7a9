import ScriptHost.Access.Sensitivity
import ScriptHost.Proofs.HostType.RegistryRuns
import ScriptHost.Proofs.Text.Stem

/-!
# Classifications do not age

How a type of a registry is classified depends on what the registry held when
the type was added, so definitions made later do not change it.  A kept
classification is therefore the one that would be made afresh, and a
classifier that keeps them answers as one that does not.
-/

namespace ScriptHost

def ReservedName (name : String) : Prop :=
  ∃ rest, name = WellKnown.reflectStem ++ rest ∨
    name = WellKnown.invokeStem ++ rest

theorem reservedName_iff {name : String} :
    ReservedName name ↔ (Text.hasStem WellKnown.reflectStem name ||
      Text.hasStem WellKnown.invokeStem name) = true := by
  rw [Bool.or_eq_true, Text.hasStem_iff, Text.hasStem_iff, ← exists_or]
  rfl

namespace Anchors

variable {anchors : Anchors} {registry later : TypeRegistry} {t : HostType}

/-- The anchors of a registry are looked up by name. -/
theorem ofRegistry_eq_ok_iff :
    ofRegistry registry = .ok anchors ↔
      registry.findNamed? WellKnown.className = some anchors.classType ∧
      registry.findNamed? WellKnown.classLoaderName =
        some anchors.classLoader ∧
      registry.findNamed? WellKnown.proxyName = some anchors.proxy ∧
      anchors.beans = WellKnown.beanNames.filterMap registry.findNamed? := by
  obtain ⟨classType, classLoader, proxy, beans⟩ := anchors
  simp only [ofRegistry, required, TypeRegistry.require]
  cases registry.findNamed? WellKnown.className with
  | none => simp [bind, Except.bind]
  | some first =>
      cases registry.findNamed? WellKnown.classLoaderName with
      | none => simp [bind, Except.bind]
      | some second =>
          cases registry.findNamed? WellKnown.proxyName with
          | none => simp [bind, Except.bind]
          | some third =>
              simp [bind, Except.bind, pure, Except.pure, eq_comm]

/-- The types whose descendants are sensitive. -/
def introspective (anchors : Anchors) : List HostType :=
  anchors.classType :: anchors.classLoader :: anchors.beans

theorem introspective_iff :
    (t.isAssignableTo anchors.classType ||
        t.isAssignableTo anchors.classLoader) = true ∨
      anchors.beans.any t.isAssignableTo = true ↔
        ∃ a ∈ anchors.introspective, t.isAssignableTo a = true := by
  simp only [introspective, List.mem_cons, exists_eq_or_imp,
    Bool.or_eq_true, List.any_eq_true, or_assoc]

/-- A type is sensitive if it derives from an introspective type, or if its
own name is reserved. -/
theorem isSome_familyOf_iff :
    (anchors.familyOf t).isSome = true ↔
      (∃ a ∈ anchors.introspective, t.isAssignableTo a = true) ∨
        ReservedName t.name := by
  rw [← introspective_iff, reservedName_iff, familyOf]
  split_ifs with hmeta hbean hname
  · exact iff_of_true rfl (.inl (.inl hmeta))
  · exact iff_of_true rfl (.inl (.inr hbean))
  · exact iff_of_true rfl (.inr hname)
  · exact iff_of_false Bool.false_ne_true
      (not_or.mpr ⟨not_or.mpr ⟨hmeta, hbean⟩, hname⟩)

/-- The family of reserved names is that of the types which are sensitive for
no other reason. -/
theorem familyOf_eq_reflectiveNamespace_iff :
    anchors.familyOf t = some .reflectiveNamespace ↔
      ¬ (∃ a ∈ anchors.introspective, t.isAssignableTo a = true) ∧
        ReservedName t.name := by
  rw [← introspective_iff, reservedName_iff, familyOf]
  split_ifs with hmeta hbean hname
  · simp [hmeta]
  · simp [hbean]
  · simp [hmeta, hbean, hname]
  · simp [hname]

/-- Anchors that differ in the bean-style helpers only agree on the family of a
type exactly if they agree on whether it derives from an introspective type. -/
theorem familyOf_eq_iff {others : Anchors}
    (hclass : others.classType = anchors.classType)
    (hloader : others.classLoader = anchors.classLoader) :
    anchors.familyOf t = others.familyOf t ↔
      ((∃ a ∈ anchors.introspective, t.isAssignableTo a = true) ↔
        ∃ a ∈ others.introspective, t.isAssignableTo a = true) := by
  rw [← introspective_iff, ← introspective_iff, familyOf, familyOf, hclass,
    hloader]
  cases t.isAssignableTo anchors.classType ||
      t.isAssignableTo anchors.classLoader with
  | true => simp
  | false =>
      cases anchors.beans.any t.isAssignableTo <;>
        cases others.beans.any t.isAssignableTo <;>
        cases Text.hasStem WellKnown.reflectStem t.name ||
          Text.hasStem WellKnown.invokeStem t.name <;> simp

/-- Below the proxy base the category does not depend on the family; elsewhere
it tells the family. -/
theorem category_eq_iff {others : Anchors}
    (hproxy : others.proxy = anchors.proxy) :
    (anchors.classify registry t).category =
        (others.classify registry t).category ↔
      t.isAssignableTo anchors.proxy = true ∨
        anchors.familyOf t = others.familyOf t := by
  rw [classify, classify, hproxy]
  cases t.isAssignableTo anchors.proxy with
  | true => simp
  | false =>
      cases anchors.familyOf t <;> cases others.familyOf t <;> simp

/-- Which of the categories of proxies a type is in depends on whether the
registry generated it. -/
theorem category_of_proxy (registry : TypeRegistry)
    (hproxy : t.isAssignableTo anchors.proxy = true) :
    (anchors.classify registry t).category =
      if registry.isProxyType t then .genuineProxy else .forgedProxy := by
  rw [classify]
  simp only [hproxy, if_true]

theorem category_eq_genuineProxy_iff :
    (anchors.classify registry t).category = .genuineProxy ↔
      t.isAssignableTo anchors.proxy = true ∧
        registry.isProxyType t = true := by
  cases hproxy : t.isAssignableTo anchors.proxy with
  | true =>
      rw [category_of_proxy registry hproxy]
      cases registry.isProxyType t <;> simp
  | false =>
      rw [classify]
      cases anchors.familyOf t <;> simp [hproxy]

theorem requiresCheck_classify_iff {isStatic : Bool} :
    (anchors.classify registry t).category.requiresCheck isStatic = true ↔
      (t.isAssignableTo anchors.proxy = true ∧
        (isStatic = true ∨ ¬ registry.isProxyType t = true)) ∨
      (¬ t.isAssignableTo anchors.proxy = true ∧
        (anchors.familyOf t).isSome = true) := by
  rw [classify]
  cases hproxy : t.isAssignableTo anchors.proxy with
  | true =>
      cases hgenuine : registry.isProxyType t <;>
        simp [Category.requiresCheck]
  | false =>
      cases hfamily : anchors.familyOf t <;> simp [Category.requiresCheck]

/-- Later definitions do not change how a type is classified. -/
theorem classify_of_extends (hextends : registry.Extends later)
    (hsound : registry.Sound) (hlater : later.Sound)
    (hsize : later.size < UInt32.size) (ht : t ∈ registry.types) :
    anchors.classify later t = anchors.classify registry t := by
  have hearlier : registry.owns t = true :=
    (hsound.owns_iff (Nat.lt_of_le_of_lt hextends.size_le hsize) fun _ => ht).mpr ht
  have hnow : later.owns t = true :=
    (hlater.owns_iff hsize fun _ => hextends.types.subset ht).mpr
      (hextends.types.subset ht)
  rw [classify, classify, TypeRegistry.isProxyType, TypeRegistry.isProxyType,
    hearlier, hnow]

end Anchors

/-- Below the limit of numbers, the anchors that every host has are found. -/
theorem TypeRegistry.Sound.anchors_eq {registry : TypeRegistry}
    (hsound : registry.Sound) (hsize : registry.size < UInt32.size) :
    Anchors.ofRegistry registry = .ok
      ⟨WellKnown.classType registry.serial,
        WellKnown.classLoader registry.serial,
        WellKnown.proxy registry.serial,
        WellKnown.beanNames.filterMap registry.findNamed?⟩ :=
  Anchors.ofRegistry_eq_ok_iff.mpr
    ⟨hsound.findNamed?_always hsize (WellKnown.classType_mem_always _),
      hsound.findNamed?_always hsize (WellKnown.classLoader_mem_always _),
      hsound.findNamed?_always hsize (WellKnown.proxy_mem_always _), rfl⟩

theorem TypeRegistry.Sound.anchors_proxy_eq {registry : TypeRegistry}
    {anchors : Anchors} (hsound : registry.Sound)
    (hsize : registry.size < UInt32.size)
    (hanchors : Anchors.ofRegistry registry = .ok anchors) :
    anchors.proxy = WellKnown.proxy registry.serial := by
  rw [hsound.anchors_eq hsize] at hanchors
  cases hanchors
  rfl

def WellKnown.anchors (owner : Nat) : Anchors :=
  ⟨classType owner, classLoader owner, proxy owner, beans owner⟩

/-- Whatever was defined before, the anchors of a full host are those it
started with. -/
theorem TypeRun.anchors_eq {serial : Nat} {environment : HostEnvironment}
    {made : List ServedTypeCall} {registry : TypeRegistry}
    (hrun : TypeRun serial environment made registry)
    (hsize : registry.size < UInt32.size)
    (hfull : environment.beanHelpers = true) :
    Anchors.ofRegistry registry = .ok (WellKnown.anchors serial) := by
  have hbean : ∀ bean ∈ WellKnown.beans serial,
      registry.findNamed? bean.name = some bean := by
    intro bean hbean
    refine (hrun.sound.findNamed?_eq_some_iff hsize).mpr ⟨?_, rfl⟩
    apply hrun.mem_of_wellKnown
    rw [WellKnown.types, if_pos hfull]
    exact List.mem_append_right _ hbean
  have hbeans : WellKnown.beanNames.filterMap registry.findNamed? =
      WellKnown.beans serial := by
    have hnames : WellKnown.beanNames =
        (WellKnown.beans serial).map (·.name) := rfl
    rw [hnames, List.filterMap_map]
    exact (List.filterMap_congr hbean).trans List.filterMap_some
  rw [hrun.sound.anchors_eq hsize, hbeans, hrun.serial_eq, WellKnown.anchors]

/-- Below the limit of numbers, the genuine proxies of a registry are the types
it generated as proxies. -/
theorem TypeRun.category_eq_genuineProxy_iff {serial : Nat}
    {environment : HostEnvironment} {made : List ServedTypeCall}
    {registry : TypeRegistry} {anchors : Anchors} {t : HostType}
    (hrun : TypeRun serial environment made registry)
    (hsize : registry.size < UInt32.size) (hauthentic : registry.Authentic t)
    (hproxy : anchors.proxy = WellKnown.proxy serial) :
    (anchors.classify registry t).category = .genuineProxy ↔
      Produced made t := by
  rw [Anchors.category_eq_genuineProxy_iff, hproxy,
    hrun.isProxyType_iff hsize hauthentic]
  exact and_iff_right_of_imp (hrun.isAssignableTo_proxy_of_produced hsize)

namespace Classifier

variable {classifier : Classifier} {registry later : TypeRegistry}
variable {t : HostType}

/-- A look-up classifies afresh and keeps nothing, finds what was kept for the
number of an owned type, or keeps the first classification for that number. -/
theorem lookup_cases (classifier : Classifier) (registry : TypeRegistry)
    (t : HostType) :
    ((classifier.kept = none ∨ registry.owns t = false) ∧
      classifier.lookup registry t =
        (classifier.anchors.classify registry t, classifier)) ∨
    ∃ kept, classifier.kept = some kept ∧ registry.owns t = true ∧
      ((∃ known, (t.id, known) ∈ kept ∧
          classifier.lookup registry t = (known, classifier)) ∨
        (t.id ∉ kept.map (·.1) ∧
          classifier.lookup registry t =
            (classifier.anchors.classify registry t,
              { classifier with
                kept := some (kept ++
                  [(t.id, classifier.anchors.classify registry t)]) }))) := by
  rw [lookup]
  cases hkept : classifier.kept with
  | none => exact .inl ⟨.inl rfl, rfl⟩
  | some kept =>
      cases howns : registry.owns t with
      | false => exact .inl ⟨.inr rfl, rfl⟩
      | true =>
          refine .inr ⟨kept, rfl, rfl, ?_⟩
          cases hknown : kept.lookup t.id with
          | some known =>
              obtain ⟨before, after, rfl, _⟩ := List.lookup_eq_some_iff.mp hknown
              exact .inl ⟨known, by simp, by simp [hknown]⟩
          | none =>
              refine .inr ⟨fun hmem => ?_, by simp [hknown]⟩
              obtain ⟨entry, hentry, hid⟩ := List.mem_map.mp hmem
              simpa [hid] using List.lookup_eq_none_iff.mp hknown entry hentry

/-- Every kept classification is that of a type of the registry, as it would
be made now. -/
def Faithful (registry : TypeRegistry) (classifier : Classifier) : Prop :=
  ∀ kept, classifier.kept = some kept → ∀ entry ∈ kept,
    ∃ t ∈ registry.types, t.id = entry.1 ∧
      entry.2 = classifier.anchors.classify registry t

/-- A new classifier has the anchors of its registry and keeps nothing yet. -/
theorem new_eq_ok_iff {keeps : Bool} :
    new registry keeps = .ok classifier ↔
      Anchors.ofRegistry registry = .ok classifier.anchors ∧
        classifier.kept = if keeps then some [] else none := by
  obtain ⟨anchors, kept⟩ := classifier
  rw [new]
  cases Anchors.ofRegistry registry with
  | error fault => exact iff_of_false nofun nofun
  | ok found => simp [bind, Except.bind, pure, Except.pure, eq_comm]

/-- The classifier of a full host that was not asked before. -/
def full (owner : Nat) (keeps : Bool) : Classifier :=
  ⟨WellKnown.anchors owner, if keeps then some [] else none⟩

/-- A classifier of a full host can be made at any moment, and has the anchors
the host started with. -/
theorem new_of_full {serial : Nat} {environment : HostEnvironment}
    {made : List ServedTypeCall}
    (hrun : TypeRun serial environment made registry)
    (hsize : registry.size < UInt32.size)
    (hfull : environment.beanHelpers = true) (keeps : Bool) :
    new registry keeps = .ok (full serial keeps) :=
  new_eq_ok_iff.mpr ⟨hrun.anchors_eq hsize hfull, rfl⟩

theorem kept_eq_nil_of_new {keeps : Bool}
    {kept : List (TypeId × Classification)}
    (hnew : new registry keeps = .ok classifier)
    (hkept : classifier.kept = some kept) : kept = [] := by
  rw [(new_eq_ok_iff.mp hnew).2] at hkept
  cases keeps with
  | true =>
      cases hkept
      rfl
  | false => cases hkept

theorem faithful_new {keeps : Bool}
    (hnew : new registry keeps = .ok classifier) :
    classifier.Faithful registry := by
  intro kept hkept entry hentry
  rw [kept_eq_nil_of_new hnew hkept] at hentry
  cases hentry

theorem Faithful.extends (hfaithful : classifier.Faithful registry)
    (hextends : registry.Extends later) (hsound : registry.Sound)
    (hlater : later.Sound) (hsize : later.size < UInt32.size) :
    classifier.Faithful later := by
  intro kept hkept entry hentry
  obtain ⟨t, ht, hid, hclass⟩ := hfaithful kept hkept entry hentry
  refine ⟨t, hextends.types.subset ht, hid, ?_⟩
  rw [Anchors.classify_of_extends hextends hsound hlater hsize ht]
  exact hclass

theorem lookup_of_kept_none (hkept : classifier.kept = none)
    (registry : TypeRegistry) (t : HostType) :
    classifier.lookup registry t =
      (classifier.anchors.classify registry t, classifier) := by
  rw [lookup]
  simp only [hkept]

/-- The types of other registries are neither kept nor answered from what is
kept. -/
theorem lookup_of_not_owns (howns : registry.owns t = false)
    (classifier : Classifier) :
    classifier.lookup registry t =
      (classifier.anchors.classify registry t, classifier) := by
  rcases lookup_cases classifier registry t with
    ⟨_, hlookup⟩ | ⟨_, _, howned, _⟩
  · exact hlookup
  · rw [howns] at howned
    cases howned

theorem lookup_anchors (registry : TypeRegistry) (t : HostType)
    (classifier : Classifier) :
    (classifier.lookup registry t).2.anchors = classifier.anchors := by
  rcases lookup_cases classifier registry t with
    ⟨_, hlookup⟩ | ⟨_, _, _, ⟨_, _, hlookup⟩ | ⟨_, hlookup⟩⟩ <;> rw [hlookup]

/-- What a classifier keeps does not show in its answers. -/
theorem Faithful.lookup_eq (hfaithful : classifier.Faithful registry)
    (hsound : registry.Sound) (hsize : registry.size < UInt32.size)
    (hauthentic : registry.Authentic t) :
    (classifier.lookup registry t).1 = classifier.anchors.classify registry t := by
  rcases lookup_cases classifier registry t with
    ⟨_, hlookup⟩ | ⟨kept, hkept, howns, ⟨known, hknown, hlookup⟩ | ⟨_, hlookup⟩⟩
  · rw [hlookup]
  · obtain ⟨u, hu, hid, hclass⟩ := hfaithful kept hkept _ hknown
    -- The kept entry was made for some type of this number, and that can only
    -- have been `t`.
    have ht := hsound.mem_of_owns hauthentic howns
    rw [hsound.eq_of_id hsize hu ht hid] at hclass
    rw [hlookup]
    exact hclass
  · rw [hlookup]

theorem Faithful.lookup (hfaithful : classifier.Faithful registry)
    (hsound : registry.Sound) (hauthentic : registry.Authentic t) :
    (classifier.lookup registry t).2.Faithful registry := by
  rcases lookup_cases classifier registry t with
    ⟨_, hlookup⟩ | ⟨kept, hkept, howns, ⟨_, _, hlookup⟩ | ⟨_, hlookup⟩⟩
  · rw [hlookup]
    exact hfaithful
  · rw [hlookup]
    exact hfaithful
  · rw [hlookup]
    intro added hadded entry hentry
    cases hadded
    rcases List.mem_append.mp hentry with hold | hnew
    · exact hfaithful kept hkept entry hold
    · rw [List.mem_singleton.mp hnew]
      exact ⟨t, hsound.mem_of_owns hauthentic howns, rfl, rfl⟩

end Classifier

end ScriptHost
