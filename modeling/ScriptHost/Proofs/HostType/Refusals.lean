import ScriptHost.Proofs.HostType.Growth

/-!
# What a registry refuses

A definition is checked in order: its base, then its interfaces one by one,
then its name.  Generating a proxy is checked in the same way, but for the base,
which the registry chooses itself.  The first thing that is wrong is reported,
and a call that is refused leaves all types as they are.  A call that is not
refused adds the one type it asks for.
-/

namespace ScriptHost

namespace TypeRegistry

variable {registry : TypeRegistry}

/-! ## What is accepted and what is refused -/

def MayExtend (registry : TypeRegistry) (base : Option HostType) : Prop :=
  ∀ t ∈ base, t ∈ registry.types ∧ t.flags.includes .final = false

def MayImplement (registry : TypeRegistry) (interfaces : List HostType) :
    Prop :=
  ∀ t ∈ interfaces, t ∈ registry.types

def MayProxy (registry : TypeRegistry) (interfaces : List HostType) : Prop :=
  ∀ t ∈ interfaces, t ∈ registry.types ∧ t.isInterface = true

/-- Nothing is wrong with the call. -/
def Accepts (registry : TypeRegistry) : TypeCall → Prop
  | .define name base interfaces _ =>
    registry.MayExtend base ∧ registry.MayImplement interfaces ∧
      ¬ registry.Names name
  | .defineProxy interfaces =>
    registry.MayProxy interfaces ∧ ¬ registry.Names registry.proxyTypeName

/-- Something is wrong with the call, and the fault is that of the first thing
that is. -/
inductive Refuses (registry : TypeRegistry) : TypeCall → Fault → Prop where
  | foreignBase {name : String} {base : HostType} {interfaces : List HostType}
      {flags : TypeFlags} (hbase : base ∉ registry.types) :
      Refuses registry (.define name (some base) interfaces flags)
        (.typeNotFound base.name)
  | finalBase {name : String} {base : HostType} {interfaces : List HostType}
      {flags : TypeFlags} (hbase : base ∈ registry.types)
      (hfinal : base.flags.includes .final = true) :
      Refuses registry (.define name (some base) interfaces flags)
        (.typeInsert (.finalBase name base.name))
  | foreignInterface {name : String} {base : Option HostType}
      {earlier later : List HostType} {t : HostType} {flags : TypeFlags}
      (hbase : registry.MayExtend base)
      (hearlier : registry.MayImplement earlier) (ht : t ∉ registry.types) :
      Refuses registry (.define name base (earlier ++ t :: later) flags)
        (.typeNotFound t.name)
  | nameTaken {name : String} {base : Option HostType}
      {interfaces : List HostType} {flags : TypeFlags}
      (hbase : registry.MayExtend base)
      (hinterfaces : registry.MayImplement interfaces)
      (hname : registry.Names name) :
      Refuses registry (.define name base interfaces flags)
        (.typeInsert (.nameTaken name))
  | foreignProxied {earlier later : List HostType} {t : HostType}
      (hearlier : registry.MayProxy earlier) (ht : t ∉ registry.types) :
      Refuses registry (.defineProxy (earlier ++ t :: later))
        (.typeNotFound t.name)
  | notInterface {earlier later : List HostType} {t : HostType}
      (hearlier : registry.MayProxy earlier) (ht : t ∈ registry.types)
      (hflags : t.isInterface = false) :
      Refuses registry (.defineProxy (earlier ++ t :: later))
        (.typeInsert (.notInterface t.name))
  | proxyNameTaken {interfaces : List HostType}
      (hinterfaces : registry.MayProxy interfaces)
      (hname : registry.Names registry.proxyTypeName) :
      Refuses registry (.defineProxy interfaces)
        (.typeInsert (.nameTaken registry.proxyTypeName))

/-- The type that a call asks for: it derives from the root type if no base is
given, and from the proxy base if it is to be a proxy. -/
def requested (registry : TypeRegistry) : TypeCall → HostType
  | .define name base interfaces flags =>
    registry.definedType name (base.getD (WellKnown.object registry.serial))
      interfaces flags
  | .defineProxy interfaces =>
    registry.nextProxyType (WellKnown.proxy registry.serial) interfaces

/-- The call uses the number of the next proxy up. -/
def UsesNumber (registry : TypeRegistry) : TypeCall → Prop
  | .define .. => False
  | .defineProxy interfaces => registry.MayProxy interfaces

theorem accepts_or_refuses (registry : TypeRegistry) (call : TypeCall) :
    registry.Accepts call ∨ ∃ fault, registry.Refuses call fault := by
  cases call with
  | define name base interfaces flags =>
      by_cases hbase : registry.MayExtend base
      · rcases forall_or_first_not (· ∈ registry.types) interfaces with
          hinterfaces | ⟨earlier, t, later, rfl, hearlier, ht⟩
        · by_cases hname : registry.Names name
          · exact .inr ⟨_, .nameTaken hbase hinterfaces hname⟩
          · exact .inl ⟨hbase, hinterfaces, hname⟩
        · exact .inr ⟨_, .foreignInterface hbase hearlier ht⟩
      · simp only [MayExtend, not_forall] at hbase
        obtain ⟨t, hgiven, hbad⟩ := hbase
        rw [Option.mem_def] at hgiven
        subst hgiven
        by_cases ht : t ∈ registry.types
        · refine .inr ⟨_, .finalBase ht ?_⟩
          simpa only [ht, true_and, Bool.not_eq_false] using hbad
        · exact .inr ⟨_, .foreignBase ht⟩
  | defineProxy interfaces =>
      rcases forall_or_first_not
          (fun t => t ∈ registry.types ∧ t.isInterface = true) interfaces with
        hinterfaces | ⟨earlier, t, later, rfl, hearlier, hbad⟩
      · by_cases hname : registry.Names registry.proxyTypeName
        · exact .inr ⟨_, .proxyNameTaken hinterfaces hname⟩
        · exact .inl ⟨hinterfaces, hname⟩
      · by_cases ht : t ∈ registry.types
        · refine .inr ⟨_, .notInterface hearlier ht ?_⟩
          simpa only [ht, true_and, Bool.not_eq_true] using hbad
        · exact .inr ⟨_, .foreignProxied hearlier ht⟩

/-! ## The number of the next proxy -/

theorem nextProxy_define (name : String) (base : Option HostType)
    (interfaces : List HostType) (flags : TypeFlags)
    (registry : TypeRegistry) :
    (define name base interfaces flags registry).state.nextProxy =
      registry.nextProxy := by
  cases hparent : registry.definitionBase name base interfaces with
  | error fault => rw [define_of_fault hparent]
  | ok parent =>
      by_cases hname : registry.names.lookup name = none
      · rw [define_of_free hparent hname]
        rfl
      · rw [define_of_base hparent, insert_of_taken hname]

theorem nextProxy_defineProxy {interfaces : List HostType} {parent : HostType}
    (hparent : registry.proxyBase interfaces = .ok parent) :
    (defineProxy interfaces registry).state.nextProxy =
      registry.nextProxy + 1 := by
  by_cases hname : registry.names.lookup registry.proxyTypeName = none
  · rw [defineProxy_of_free hparent hname]
  · rw [defineProxy_of_taken hparent hname]

/-! ## The checks -/

theorem isInterface_of_proxiedFault? {t : HostType}
    (hnone : registry.proxiedFault? t = none) : t.isInterface = true := by
  have howns := owns_of_proxiedFault? hnone
  by_contra hflags
  rw [Bool.not_eq_true] at hflags
  simp [proxiedFault?, howns, hflags] at hnone

theorem Sound.mayProxy_of_proxiedFault? {interfaces : List HostType}
    (hsound : registry.Sound)
    (hauthentic : ∀ t ∈ interfaces, registry.Authentic t)
    (hnone : interfaces.findSome? registry.proxiedFault? = none) :
    registry.MayProxy interfaces := by
  rw [List.findSome?_eq_none_iff] at hnone
  intro t ht
  exact ⟨hsound.mem_of_owns (hauthentic t ht)
      (owns_of_proxiedFault? (hnone t ht)),
    isInterface_of_proxiedFault? (hnone t ht)⟩

section

variable (hsound : registry.Sound) (hsize : registry.size < UInt32.size)

include hsound hsize

theorem Sound.owns_of_mem {t : HostType} (ht : t ∈ registry.types) :
    registry.owns t = true :=
  (hsound.owns_iff hsize fun _ => ht).mpr ht

theorem Sound.not_owns_of_not_mem {t : HostType}
    (hauthentic : registry.Authentic t) (ht : t ∉ registry.types) :
    registry.owns t = false := by
  rw [← Bool.not_eq_true, hsound.owns_iff hsize hauthentic]
  exact ht

theorem Sound.baseFor_of_mayExtend {base : Option HostType}
    (hbase : registry.MayExtend base) (name : String) :
    registry.baseFor name base =
      .ok (base.getD (WellKnown.object registry.serial)) := by
  cases base with
  | none => exact hsound.objectType_eq hsize
  | some given =>
      obtain ⟨hgiven, hfinal⟩ := hbase given rfl
      exact baseFor_eq_ok_iff.mpr
        ⟨rfl, hsound.owns_of_mem hsize hgiven, hfinal⟩

theorem Sound.interfaceFault?_of_mayImplement {interfaces : List HostType}
    (hinterfaces : registry.MayImplement interfaces) :
    interfaces.findSome? registry.interfaceFault? = none := by
  rw [List.findSome?_eq_none_iff]
  intro t hgiven
  simp [interfaceFault?, hsound.owns_of_mem hsize (hinterfaces t hgiven)]

theorem Sound.definitionBase_of_may {base : Option HostType}
    {interfaces : List HostType} (hbase : registry.MayExtend base)
    (hinterfaces : registry.MayImplement interfaces) (name : String) :
    registry.definitionBase name base interfaces =
      .ok (base.getD (WellKnown.object registry.serial)) :=
  definitionBase_eq_ok_iff.mpr
    ⟨hsound.baseFor_of_mayExtend hsize hbase name,
      hsound.interfaceFault?_of_mayImplement hsize hinterfaces⟩

theorem Sound.proxiedFault?_of_mayProxy {interfaces : List HostType}
    (hinterfaces : registry.MayProxy interfaces) :
    interfaces.findSome? registry.proxiedFault? = none := by
  rw [List.findSome?_eq_none_iff]
  intro t hgiven
  obtain ⟨ht, hflags⟩ := hinterfaces t hgiven
  simp [proxiedFault?, hsound.owns_of_mem hsize ht, hflags]

theorem Sound.proxyBase_of_mayProxy {interfaces : List HostType}
    (hinterfaces : registry.MayProxy interfaces) :
    registry.proxyBase interfaces = .ok (WellKnown.proxy registry.serial) :=
  (hsound.proxyBase_eq_ok_iff hsize).mpr
    ⟨hsound.proxiedFault?_of_mayProxy hsize hinterfaces, rfl⟩

/-! ## One call -/

/-- A call with which nothing is wrong adds the type it asks for. -/
theorem Sound.perform_of_accepts {call : TypeCall}
    (haccepts : registry.Accepts call) :
    (call.perform registry).result = .ok (registry.requested call) ∧
      (call.perform registry).state =
        { registry.extended (registry.requested call) with
          nextProxy := (call.perform registry).state.nextProxy } := by
  cases call with
  | define name base interfaces flags =>
      obtain ⟨hbase, hinterfaces, hname⟩ := haccepts
      rw [TypeCall.perform, define_of_free
        (hsound.definitionBase_of_may hsize hbase hinterfaces name)
        (hsound.lookup_eq_none_iff.mpr hname)]
      exact ⟨rfl, rfl⟩
  | defineProxy interfaces =>
      obtain ⟨hinterfaces, hname⟩ := haccepts
      rw [TypeCall.perform, defineProxy_of_free
        (hsound.proxyBase_of_mayProxy hsize hinterfaces)
        (hsound.lookup_eq_none_iff.mpr hname)]
      exact ⟨rfl, rfl⟩

/-- A call with which something is wrong fails with the fault of the first
thing that is. -/
theorem Sound.perform_of_refuses {call : TypeCall} {fault : Fault}
    (hauthentic : ∀ t ∈ call.arguments, registry.Authentic t)
    (hrefuses : registry.Refuses call fault) :
    (call.perform registry).result = .error fault := by
  cases hrefuses with
  | @foreignBase name base interfaces flags hbase =>
      have howns := hsound.not_owns_of_not_mem hsize
        (hauthentic base List.mem_cons_self) hbase
      have hfault : registry.definitionBase name (some base) interfaces =
          .error (.typeNotFound base.name) := by
        simp [definitionBase, baseFor, howns]
      rw [TypeCall.perform, define_of_fault hfault]
  | @finalBase name base interfaces flags hbase hfinal =>
      have howns := hsound.owns_of_mem hsize hbase
      have hfault : registry.definitionBase name (some base) interfaces =
          .error (.typeInsert (.finalBase name base.name)) := by
        simp [definitionBase, baseFor, howns, hfinal]
      rw [TypeCall.perform, define_of_fault hfault]
  | @foreignInterface name base earlier later t flags hbase hearlier ht =>
      have howns := hsound.not_owns_of_not_mem hsize (hauthentic t
        (List.mem_append_right _ (List.mem_append_right _ List.mem_cons_self)))
        ht
      have hfault :
          registry.definitionBase name base (earlier ++ t :: later) =
            .error (.typeNotFound t.name) := by
        simp [definitionBase, interfaceFault?, howns,
          hsound.baseFor_of_mayExtend hsize hbase,
          hsound.interfaceFault?_of_mayImplement hsize hearlier]
      rw [TypeCall.perform, define_of_fault hfault]
  | @nameTaken name base interfaces flags hbase hinterfaces hname =>
      have htaken : registry.names.lookup name ≠ none := fun hfree =>
        hsound.lookup_eq_none_iff.mp hfree hname
      rw [TypeCall.perform, define_of_base
        (hsound.definitionBase_of_may hsize hbase hinterfaces name),
        insert_of_taken htaken]
  | @foreignProxied earlier later t hearlier ht =>
      have howns := hsound.not_owns_of_not_mem hsize
        (hauthentic t (List.mem_append_right _ List.mem_cons_self)) ht
      have hfault : registry.proxyBase (earlier ++ t :: later) =
          .error (.typeNotFound t.name) := by
        simp [proxyBase, proxiedFault?, howns,
          hsound.proxiedFault?_of_mayProxy hsize hearlier]
      rw [TypeCall.perform, defineProxy_of_fault hfault]
  | @notInterface earlier later t hearlier ht hflags =>
      have howns := hsound.owns_of_mem hsize ht
      have hfault : registry.proxyBase (earlier ++ t :: later) =
          .error (.typeInsert (.notInterface t.name)) := by
        simp [proxyBase, proxiedFault?, howns, hflags,
          hsound.proxiedFault?_of_mayProxy hsize hearlier]
      rw [TypeCall.perform, defineProxy_of_fault hfault]
  | @proxyNameTaken interfaces hinterfaces hname =>
      have htaken : registry.names.lookup registry.proxyTypeName ≠ none :=
        fun hfree => hsound.lookup_eq_none_iff.mp hfree hname
      rw [TypeCall.perform, defineProxy_of_taken
        (hsound.proxyBase_of_mayProxy hsize hinterfaces) htaken]

theorem Sound.succeeds_iff {call : TypeCall}
    (hauthentic : ∀ t ∈ call.arguments, registry.Authentic t) :
    (∃ t, (call.perform registry).result = .ok t) ↔ registry.Accepts call := by
  refine ⟨?_, fun haccepts =>
    ⟨_, (hsound.perform_of_accepts hsize haccepts).1⟩⟩
  rintro ⟨t, hok⟩
  rcases registry.accepts_or_refuses call with haccepts | ⟨fault, hrefuses⟩
  · exact haccepts
  · rw [hsound.perform_of_refuses hsize hauthentic hrefuses] at hok
    cases hok

theorem Sound.fails_iff {call : TypeCall} {fault : Fault}
    (hauthentic : ∀ t ∈ call.arguments, registry.Authentic t) :
    (call.perform registry).result = .error fault ↔
      registry.Refuses call fault := by
  refine ⟨?_, hsound.perform_of_refuses hsize hauthentic⟩
  intro herror
  rcases registry.accepts_or_refuses call with haccepts | ⟨first, hrefuses⟩
  · rw [(hsound.perform_of_accepts hsize haccepts).1] at herror
    cases herror
  · rw [hsound.perform_of_refuses hsize hauthentic hrefuses] at herror
    cases herror
    exact hrefuses

/-- The number of the next proxy goes up if the interfaces of a proxy passed
their checks, whatever becomes of the proxy, and stays otherwise. -/
theorem Sound.nextProxy_perform {call : TypeCall}
    (hauthentic : ∀ t ∈ call.arguments, registry.Authentic t) :
    (registry.UsesNumber call →
      (call.perform registry).state.nextProxy = registry.nextProxy + 1) ∧
    (¬ registry.UsesNumber call →
      (call.perform registry).state.nextProxy = registry.nextProxy) := by
  cases call with
  | define name base interfaces flags =>
      exact ⟨False.elim, fun _ =>
        nextProxy_define name base interfaces flags registry⟩
  | defineProxy interfaces =>
      constructor
      · intro hmay
        exact nextProxy_defineProxy (hsound.proxyBase_of_mayProxy hsize hmay)
      · intro hnot
        cases hparent : registry.proxyBase interfaces with
        | error fault => rw [TypeCall.perform, defineProxy_of_fault hparent]
        | ok parent =>
            exact absurd (hsound.mayProxy_of_proxiedFault? hauthentic
              ((hsound.proxyBase_eq_ok_iff hsize).mp hparent).1) hnot

end

end TypeRegistry

namespace TypeRun

variable {serial : Nat} {environment : HostEnvironment}
variable {made : List ServedTypeCall} {registry : TypeRegistry}

/-- A registry refuses exactly what it must, for the right reason and without
trace.  At every moment of every run a call succeeds exactly if nothing is wrong
with it, and then it answers with the type it asks for and adds this type to
both indexes under the next number.  Otherwise it fails with the fault of the
first thing that is wrong, and all that the registry holds stays, but for the
number of the next proxy, which goes up with every proxy whose interfaces passed
their checks and with no other call. -/
theorem first_thing_wrong_reported_and_types_kept
    (hrun : TypeRun serial environment made registry)
    (hsize : registry.size < UInt32.size) {call : TypeCall}
    (hauthentic : ∀ t ∈ call.arguments, registry.Authentic t) :
    ((∃ t, (call.perform registry).result = .ok t) ↔ registry.Accepts call) ∧
    (∀ t, (call.perform registry).result = .ok t →
      t = registry.requested call ∧
      (call.perform registry).state =
        { registry.extended t with
          nextProxy := (call.perform registry).state.nextProxy }) ∧
    (∀ fault, (call.perform registry).result = .error fault ↔
      registry.Refuses call fault) ∧
    (∀ fault, (call.perform registry).result = .error fault →
      (call.perform registry).state =
        { registry with
          nextProxy := (call.perform registry).state.nextProxy }) ∧
    (registry.UsesNumber call →
      (call.perform registry).state.nextProxy = registry.nextProxy + 1) ∧
    (¬ registry.UsesNumber call →
      (call.perform registry).state.nextProxy = registry.nextProxy) := by
  have hsound := hrun.sound
  refine ⟨hsound.succeeds_iff hsize hauthentic, ?_,
    fun fault => hsound.fails_iff hsize hauthentic, ?_,
    hsound.nextProxy_perform hsize hauthentic⟩
  · intro t hok
    obtain ⟨hadded, hstate⟩ := hsound.perform_of_accepts hsize
      ((hsound.succeeds_iff hsize hauthentic).mp ⟨t, hok⟩)
    cases hok.symm.trans hadded
    exact ⟨rfl, hstate⟩
  intro fault herror
  obtain ⟨nextProxy, ⟨_, _, hstate⟩ | ⟨added, _, hok, _⟩⟩ :=
    TypeRegistry.perform_cases call registry
  · rw [hstate]
  · rw [hok] at herror
    cases herror

end TypeRun

/-- A type of another registry that has the number and the name of one that the
first registry holds. -/
def foreignRunnable : HostType :=
  { runnable with owner := 1 }

/-- The final base is reported before the interface of another registry and the
name that is taken; the interface of another registry is reported though it
looks like one before it, and before the class that follows it. -/
theorem final_base_and_lookalike_reported_first :
    ∃ registry, TypeRun 0 .full runnableCalls registry ∧
      registry.size < UInt32.size ∧
      ((TypeCall.define "app.Runnable" (some (WellKnown.classType 0))
        [foreignRunnable] .none).perform registry).result =
          .error (.typeInsert
            (.finalBase "app.Runnable" WellKnown.className)) ∧
      ((TypeCall.defineProxy [runnable, foreignRunnable,
        WellKnown.object 0]).perform registry).result =
          .error (.typeNotFound "app.Runnable") := by
  obtain ⟨registry, hrun, hfifteen⟩ := runnableCalls_run
  have hsize : registry.size < UInt32.size := by
    rw [hfifteen]
    decide
  have hrunnable : runnable ∈ registry.types :=
    hrun.mem_types_iff.mpr (.inr ⟨.define "app.Runnable" none [] .interface,
      by simp [runnableCalls]⟩)
  have hclass : WellKnown.classType 0 ∈ registry.types :=
    hrun.mem_of_always (WellKnown.classType_mem_always 0)
  have hobject : WellKnown.object 0 ∈ registry.types :=
    hrun.mem_of_always (WellKnown.object_mem_always 0)
  have hforeign : registry.Authentic foreignRunnable := by
    intro howner
    rw [hrun.serial_eq] at howner
    cases howner
  have habsent : foreignRunnable ∉ registry.types := by
    intro hmem
    have howner := hrun.sound.owned _ hmem
    rw [hrun.serial_eq] at howner
    cases howner
  refine ⟨registry, hrun, hsize, ?_, ?_⟩
  · refine ((hrun.first_thing_wrong_reported_and_types_kept hsize ?_).2.2.1
      _).mpr (.finalBase hclass (by decide))
    intro t ht
    rcases List.mem_cons.mp ht with rfl | ht
    · exact fun _ => hclass
    · rw [List.mem_singleton.mp ht]
      exact hforeign
  · have hearlier : registry.MayProxy [runnable] := by
      intro t ht
      rw [List.mem_singleton.mp ht]
      exact ⟨hrunnable, by decide⟩
    have hrefuses : registry.Refuses
        (.defineProxy ([runnable] ++ [foreignRunnable, WellKnown.object 0]))
        (.typeNotFound "app.Runnable") :=
      .foreignProxied hearlier habsent
    refine ((hrun.first_thing_wrong_reported_and_types_kept hsize ?_).2.2.1
      _).mpr hrefuses
    intro t ht
    simp only [TypeCall.arguments, List.mem_cons, List.not_mem_nil,
      or_false] at ht
    rcases ht with rfl | rfl | rfl
    · exact fun _ => hrunnable
    · exact hforeign
    · exact fun _ => hobject

end ScriptHost
