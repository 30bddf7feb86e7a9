import ScriptHost.Proofs.Access.GuardDecisions

/-!
# The moment a guard is set up

A guard looks up the bean-style helpers by name when it is set up.  On a full
host they are there from the start, so all guards of a registry classify alike.
On a compact host a type of such a name may be defined at any time, and a guard
that was set up before knows nothing of it: guards of one registry then differ
in what derives from that type.
-/

namespace ScriptHost

variable {serial : Nat} {environment : HostEnvironment}
variable {before between : List ServedTypeCall}
variable {early late : TypeRegistry} {t : HostType}

/-! ## What a later guard knows -/

theorem Introspects.atLater {registry : TypeRegistry}
    (hgrew : early.Grew late) (hearly : Introspects early registry t) :
    Introspects late registry t := by
  rcases hearly with hclass | hloader | ⟨name, hname, a, hfind, hderives⟩
  · exact .inl hclass
  · exact .inr (.inl hloader)
  · exact .inr (.inr ⟨name, hname, a, hgrew.findNamed? hfind, hderives⟩)

/-- A type is introspective for two guards alike, unless it derives from a
bean-style helper that was defined between them and has no further reason. -/
theorem introspects_differ_iff {registry : TypeRegistry}
    (hgrew : early.Grew late) :
    ¬ (Introspects early registry t ↔ Introspects late registry t) ↔
      ¬ Introspects early registry t ∧ ∃ name ∈ WellKnown.beanNames,
        early.findNamed? name = none ∧ late.DerivesNamed name t := by
  constructor
  · intro hdiffer
    have hearly : ¬ Introspects early registry t := fun hearly =>
      hdiffer (iff_of_true hearly (hearly.atLater hgrew))
    refine ⟨hearly, ?_⟩
    have hintrospects : Introspects late registry t :=
      by_contra fun hneither => hdiffer (iff_of_false hearly hneither)
    rcases hintrospects with
      hclass | hloader | ⟨name, hname, a, hfind, hderives⟩
    · exact absurd (.inl hclass) hearly
    · exact absurd (.inr (.inl hloader)) hearly
    · refine ⟨name, hname, ?_, a, hfind, hderives⟩
      cases hbefore : early.findNamed? name with
      | none => rfl
      | some b =>
          cases hfind.symm.trans (hgrew.findNamed? hbefore)
          exact absurd (.inr (.inr ⟨name, hname, a, hbefore, hderives⟩)) hearly
  · rintro ⟨hearly, name, hname, _, hbean⟩ halike
    exact hearly (halike.mpr (.inr (.inr ⟨name, hname, hbean⟩)))

section

variable {registry : TypeRegistry} {earlyAnchors lateAnchors : Anchors}
variable (hearlyAnchors : Anchors.ofRegistry early = .ok earlyAnchors)
variable (hlateAnchors : Anchors.ofRegistry late = .ok lateAnchors)

include hearlyAnchors hlateAnchors

/-- The anchors that every host has stay. -/
theorem anchors_eq_of_grew (hgrew : early.Grew late) :
    lateAnchors.classType = earlyAnchors.classType ∧
      lateAnchors.classLoader = earlyAnchors.classLoader ∧
      lateAnchors.proxy = earlyAnchors.proxy := by
  rw [hgrew.sound.anchors_eq hgrew.size_lt] at hearlyAnchors
  rw [hgrew.laterSound.anchors_eq hgrew.laterSize, hgrew.ext.serial]
    at hlateAnchors
  cases hearlyAnchors
  cases hlateAnchors
  exact ⟨rfl, rfl, rfl⟩

theorem familyOf_differ_iff (hgrew : early.Grew late)
    (hafterEarly : early.Grew registry) (hafterLate : late.Grew registry) :
    earlyAnchors.familyOf t ≠ lateAnchors.familyOf t ↔
      ¬ Introspects early registry t ∧ ∃ name ∈ WellKnown.beanNames,
        early.findNamed? name = none ∧ late.DerivesNamed name t := by
  obtain ⟨hclass, hloader, _⟩ :=
    anchors_eq_of_grew hearlyAnchors hlateAnchors hgrew
  rw [ne_eq, Anchors.familyOf_eq_iff hclass hloader,
    introspects_iff hearlyAnchors hafterEarly,
    introspects_iff hlateAnchors hafterLate]
  exact introspects_differ_iff hgrew

/-- All guards of a registry know the proxy base. -/
theorem category_differ_iff (hgrew : early.Grew late)
    (registry : TypeRegistry) (t : HostType) :
    (earlyAnchors.classify registry t).category ≠
        (lateAnchors.classify registry t).category ↔
      ¬ t.isAssignableTo earlyAnchors.proxy = true ∧
        earlyAnchors.familyOf t ≠ lateAnchors.familyOf t := by
  obtain ⟨_, _, hproxy⟩ := anchors_eq_of_grew hearlyAnchors hlateAnchors hgrew
  rw [ne_eq, Anchors.category_eq_iff hproxy, not_or]

end

/-- On a full host the helpers are there from the start. -/
theorem TypeRun.findNamed?_bean_ne_none {environment : HostEnvironment}
    {registry : TypeRegistry} {made : List ServedTypeCall}
    (hrun : TypeRun serial environment made registry)
    (hsize : registry.size < UInt32.size)
    (hfull : environment.beanHelpers = true) {name : String}
    (hname : name ∈ WellKnown.beanNames) :
    registry.findNamed? name ≠ none := by
  have hbean : ∃ t ∈ WellKnown.beans serial, t.name = name := by
    simpa [WellKnown.beans, WellKnown.make, WellKnown.beanNames, eq_comm]
      using hname
  obtain ⟨t, ht, hnamed⟩ := hbean
  have hmem : t ∈ registry.types := by
    apply hrun.mem_of_wellKnown
    rw [WellKnown.types, if_pos hfull]
    exact List.mem_append_right _ ht
  rw [(hrun.sound.findNamed?_eq_some_iff hsize).mpr ⟨hmem, hnamed⟩]
  exact Option.some_ne_none t

/-! ## Two guards of one registry -/

section

variable {ι κ : Type} [DecidableEq ι] [DecidableEq κ]
variable {keeps keeps' : Bool} {created : ι → Context} {created' : κ → Context}
variable {served : List (ServedDispatch ι)} {state : DispatchState ι}
variable {served' : List (ServedDispatch κ)} {state' : DispatchState κ}

/-- Two guards that were set up over one registry at two points of a run, and
whatever they were asked since, disagree on the family of a type exactly if it
derives from a bean-style helper that was defined between the two points and
was not introspective before; they then disagree on the category as well, but
for the types below the proxy base.  On a full host they never disagree. -/
theorem guards_disagree_iff_bean_defined_between
    (hearly : TypeRun serial environment before early)
    (hlate : TypeRun serial environment (between ++ before) late)
    (hfirst : DispatchRun early keeps created served state)
    (hsecond : DispatchRun late keeps' created' served' state')
    (hnow : state'.registry = state.registry)
    (hsize : state.registry.size < UInt32.size)
    (ht : t ∈ state.registry.types) :
    ((state.guard.familyOf state.registry t).1 ≠
        (state'.guard.familyOf state.registry t).1 ↔
      ¬ Introspects early state.registry t ∧ ∃ name ∈ WellKnown.beanNames,
        early.findNamed? name = none ∧ late.DerivesNamed name t) ∧
    ((state.guard.categoryOf state.registry t).1 ≠
        (state'.guard.categoryOf state.registry t).1 ↔
      ¬ t.isAssignableTo (WellKnown.proxy serial) = true ∧
        (state.guard.familyOf state.registry t).1 ≠
          (state'.guard.familyOf state.registry t).1) ∧
    (environment.beanHelpers = true →
      (state.guard.familyOf state.registry t).1 =
          (state'.guard.familyOf state.registry t).1 ∧
        (state.guard.categoryOf state.registry t).1 =
          (state'.guard.categoryOf state.registry t).1) := by
  have hafterEarly := hfirst.grew hearly hsize
  have hafterLate : late.Grew state.registry := by
    rw [← hnow] at hsize ⊢
    exact hsecond.grew hlate hsize
  have hgrew : early.Grew late :=
    ⟨hearly.extends_of_append hlate, hearly.sound, hlate.sound,
      hafterLate.size_lt⟩
  have hfirstAnswer := hfirst.lookup_eq hearly (fun _ => hsize) fun _ => ht
  have hsecondAnswer : (state'.guard.lookup state.registry t).1 =
      state'.guard.anchors.classify state.registry t := by
    rw [← hnow] at ht ⊢ hsize
    exact hsecond.lookup_eq hlate (fun _ => hsize) fun _ => ht
  have hfamily := familyOf_differ_iff (t := t) hfirst.anchors_eq
    hsecond.anchors_eq hgrew hafterEarly hafterLate
  have hcategory := category_differ_iff hfirst.anchors_eq hsecond.anchors_eq
    hgrew state.registry t
  rw [hfirst.anchors_proxy_eq hearly hsize] at hcategory
  simp only [Classifier.familyOf, Classifier.categoryOf, hfirstAnswer,
    hsecondAnswer]
  refine ⟨hfamily, hcategory, fun hfull => ?_⟩
  have halike : state.guard.anchors.familyOf t =
      state'.guard.anchors.familyOf t := by
    by_contra hdiffer
    obtain ⟨_, name, hname, hnone, _⟩ := hfamily.mp hdiffer
    exact hearly.findNamed?_bean_ne_none hgrew.size_lt hfull hname hnone
  refine ⟨halike, ?_⟩
  by_contra hdiffer
  exact (hcategory.mp hdiffer).2 halike

end

/-! ## A type that takes the name of a bean-style helper -/

def compactRegistry : TypeRegistry := .new 0 .compact

/-- The definition of a type with the name of a bean-style helper. -/
def takeBeanName : TypeCall := .define "host.beans.Statement" none [] .none

/-- What that definition adds to a new registry of a compact host. -/
def beanLookalike : HostType :=
  WellKnown.make 0 11 "host.beans.Statement" (some (WellKnown.object 0)) []
    .none

def lookalikeRegistry : TypeRegistry :=
  (takeBeanName.perform compactRegistry).state

theorem takeBeanName_arguments :
    ∀ t ∈ takeBeanName.arguments, compactRegistry.Authentic t :=
  fun _ ht => absurd ht List.not_mem_nil

theorem lookalikeRegistry_run :
    TypeRun 0 .compact ([⟨takeBeanName, .ok beanLookalike⟩] ++ [])
      lookalikeRegistry :=
  .call .start takeBeanName takeBeanName_arguments

theorem beanLookalike_mem : beanLookalike ∈ lookalikeRegistry.types :=
  List.mem_append_right _ (List.mem_singleton_self _)

def earlyGuard : Classifier :=
  ⟨{ WellKnown.anchors 0 with beans := [] }, some []⟩

def lateGuard : Classifier :=
  ⟨{ WellKnown.anchors 0 with beans := [beanLookalike] }, none⟩

theorem earlyGuard_new :
    Classifier.new compactRegistry true = .ok earlyGuard :=
  Classifier.new_eq_ok_iff.mpr
    ⟨(TypeRun.start.sound.anchors_eq (by decide +kernel)).trans rfl, rfl⟩

theorem lateGuard_new :
    Classifier.new lookalikeRegistry false = .ok lateGuard :=
  Classifier.new_eq_ok_iff.mpr
    ⟨(lookalikeRegistry_run.sound.anchors_eq (by decide +kernel)).trans rfl,
      rfl⟩

theorem families_differ_on_beanLookalike :
    (earlyGuard.familyOf lookalikeRegistry beanLookalike).1 ≠
      (lateGuard.familyOf lookalikeRegistry beanLookalike).1 := by
  decide +kernel

/-- The type that was defined is a helper for a guard from after the definition
only, and so the categories differ as well. -/
theorem beanLookalike_unknown_before :
    ¬ Introspects compactRegistry lookalikeRegistry beanLookalike ∧
      (∃ name ∈ WellKnown.beanNames, compactRegistry.findNamed? name = none ∧
        lookalikeRegistry.DerivesNamed name beanLookalike) ∧
      (earlyGuard.categoryOf lookalikeRegistry beanLookalike).1 ≠
        (lateGuard.categoryOf lookalikeRegistry beanLookalike).1 := by
  have hfirst : DispatchRun compactRegistry true
      (fun _ : Unit => ⟨"main", none⟩) _ _ :=
    .call (.opened earlyGuard_new) (.types takeBeanName) takeBeanName_arguments
  have hsecond : DispatchRun lookalikeRegistry false
      (fun _ : Unit => ⟨"main", none⟩) [] _ := .opened lateGuard_new
  obtain ⟨hfamily, hcategory, _⟩ :=
    guards_disagree_iff_bean_defined_between .start lookalikeRegistry_run
      hfirst hsecond rfl (by decide +kernel) beanLookalike_mem
  obtain ⟨hbefore, hbean⟩ := hfamily.mp families_differ_on_beanLookalike
  exact ⟨hbefore, hbean,
    hcategory.mpr ⟨by decide +kernel, families_differ_on_beanLookalike⟩⟩

/-- Guards that are set up at different moments do not classify alike in
general. -/
theorem classification_depends_on_setup_moment :
    ¬ ∀ (serial : Nat) (environment : HostEnvironment)
        (before between : List ServedTypeCall) (early late : TypeRegistry)
        (keeps keeps' : Bool) (first second : Classifier),
      TypeRun serial environment before early →
        TypeRun serial environment (between ++ before) late →
        Classifier.new early keeps = .ok first →
        Classifier.new late keeps' = .ok second →
        ∀ t ∈ late.types,
          (first.familyOf late t).1 = (second.familyOf late t).1 ∧
            (first.categoryOf late t).1 = (second.categoryOf late t).1 := by
  intro halike
  have hfamily := (halike 0 .compact [] _ compactRegistry lookalikeRegistry true
    false _ _ .start lookalikeRegistry_run earlyGuard_new lateGuard_new
    beanLookalike beanLookalike_mem).1
  exact families_differ_on_beanLookalike hfamily

end ScriptHost
