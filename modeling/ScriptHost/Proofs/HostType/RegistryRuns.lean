import ScriptHost.Proofs.HostType.Registry

/-!
# Runs of a registry

A run starts with the well-known types and makes any sequence of definitions,
some of which fail.  A call either changes no type or adds one whose
supertypes it was given and the registry owned.  Which types carry the flag of
generated proxies is thereby decided by which call added them.
-/

namespace ScriptHost

inductive TypeCall where
  | define (name : String) (base : Option HostType)
      (interfaces : List HostType) (flags : TypeFlags)
  | defineProxy (interfaces : List HostType)

namespace TypeCall

def perform : TypeCall → Action TypeRegistry HostType
  | define name base interfaces flags =>
    TypeRegistry.define name base interfaces flags
  | defineProxy interfaces => TypeRegistry.defineProxy interfaces

def arguments : TypeCall → List HostType
  | define _ base interfaces _ => base.toList ++ interfaces
  | defineProxy interfaces => interfaces

def generates : TypeCall → Bool
  | define .. => false
  | defineProxy _ => true

end TypeCall

/-- A call that was made, and how it ended. -/
structure ServedTypeCall where
  call : TypeCall
  result : Except Fault HostType

/-- A sequence of calls on a new registry, the latest first, and the registry
they lead to.  The types that calls refer to are such as exist. -/
inductive TypeRun (serial : Nat) (environment : HostEnvironment) :
    List ServedTypeCall → TypeRegistry → Prop where
  | start : TypeRun serial environment [] (.new serial environment)
  | call {made : List ServedTypeCall} {registry : TypeRegistry}
      (hrun : TypeRun serial environment made registry) (call : TypeCall)
      (hauthentic : ∀ t ∈ call.arguments, registry.Authentic t) :
      TypeRun serial environment
        (⟨call, (call.perform registry).result⟩ :: made)
        (call.perform registry).state

/-- A call of the run generated the type as a proxy. -/
def Produced (made : List ServedTypeCall) (t : HostType) : Prop :=
  ∃ interfaces, ⟨.defineProxy interfaces, .ok t⟩ ∈ made

/-! ## One call -/

/-- What a call adds to a registry. -/
structure Admits (registry : TypeRegistry) (call : TypeCall)
    (added : HostType) : Prop where
  owner_eq : added.owner = registry.serial
  id_eq : added.id = ⟨registry.nextId⟩
  unnamed : registry.names.lookup added.name = none
  /-- Its supertypes are looked up in the registry, or given and owned. -/
  supertypes : ∀ s ∈ added.supertypes,
    s ∈ registry.types ∨ s ∈ call.arguments ∧ registry.owns s = true
  /-- It carries the flag of generated proxies if it was generated. -/
  genuine : added.flags.includes .generatedProxy = call.generates

namespace TypeRegistry

variable {registry : TypeRegistry}

theorem owns_of_interfaceFault? {t : HostType}
    (hnone : registry.interfaceFault? t = none) : registry.owns t = true := by
  rw [interfaceFault?] at hnone
  by_contra howns
  simp [howns] at hnone

theorem owns_of_proxiedFault? {t : HostType}
    (hnone : registry.proxiedFault? t = none) : registry.owns t = true := by
  rw [proxiedFault?] at hnone
  by_contra howns
  rw [Bool.not_eq_true] at howns
  simp [howns] at hnone

theorem baseFor_eq_ok_iff {name : String} {base : HostType}
    {parent : HostType} :
    registry.baseFor name (some base) = .ok parent ↔
      parent = base ∧ registry.owns base = true ∧
        base.flags.includes .final = false := by
  rw [baseFor]
  cases registry.owns base <;> cases base.flags.includes .final <;>
    simp [eq_comm]

theorem definitionBase_eq_ok_iff {name : String} {base : Option HostType}
    {interfaces : List HostType} {parent : HostType} :
    registry.definitionBase name base interfaces = .ok parent ↔
      registry.baseFor name base = .ok parent ∧
        interfaces.findSome? registry.interfaceFault? = none := by
  rw [definitionBase]
  cases registry.baseFor name base <;>
    cases interfaces.findSome? registry.interfaceFault? <;> simp

theorem proxyBase_eq_ok_iff {interfaces : List HostType} {parent : HostType} :
    registry.proxyBase interfaces = .ok parent ↔
      interfaces.findSome? registry.proxiedFault? = none ∧
        registry.findNamed? WellKnown.proxyName = some parent := by
  rw [proxyBase]
  cases interfaces.findSome? registry.proxiedFault? <;>
    simp [require_eq_ok_iff]

/-- The type that a definition adds if its name is free. -/
def definedType (registry : TypeRegistry) (name : String) (parent : HostType)
    (interfaces : List HostType) (flags : TypeFlags) : HostType :=
  ⟨registry.serial, ⟨registry.nextId⟩, name, some parent, interfaces,
    flags.without .generatedProxy⟩

theorem admits_define {name : String} {base : Option HostType}
    {interfaces : List HostType} {flags : TypeFlags} {parent : HostType}
    (hparent : registry.definitionBase name base interfaces = .ok parent)
    (hname : registry.names.lookup name = none) :
    Admits registry (.define name base interfaces flags)
      (registry.definedType name parent interfaces flags) where
  owner_eq := rfl
  id_eq := rfl
  unnamed := hname
  supertypes := by
    obtain ⟨hbase, hinterfaces⟩ := definitionBase_eq_ok_iff.mp hparent
    intro s hs
    rcases List.mem_append.mp hs with hhead | hinterface
    · rw [List.mem_singleton.mp hhead]
      cases base with
      | none => exact .inl (mem_of_findNamed? (require_eq_ok_iff.mp hbase))
      | some given =>
          obtain ⟨rfl, howns, _⟩ := baseFor_eq_ok_iff.mp hbase
          exact .inr ⟨List.mem_cons_self .., howns⟩
    · exact .inr ⟨List.mem_append_right _ hinterface,
        owns_of_interfaceFault?
          (List.findSome?_eq_none_iff.mp hinterfaces s hinterface)⟩
  genuine := flags.not_includes_without

/-- The next proxy, if its name is free. -/
def nextProxyType (registry : TypeRegistry) (parent : HostType)
    (interfaces : List HostType) : HostType :=
  ⟨registry.serial, ⟨registry.nextId⟩, registry.proxyTypeName, some parent,
    interfaces, .union .generatedProxy .final⟩

theorem admits_defineProxy {interfaces : List HostType} {parent : HostType}
    (hparent : registry.proxyBase interfaces = .ok parent)
    (hname : registry.names.lookup registry.proxyTypeName = none) :
    Admits registry (.defineProxy interfaces)
      (registry.nextProxyType parent interfaces) where
  owner_eq := rfl
  id_eq := rfl
  unnamed := hname
  supertypes := by
    obtain ⟨hinterfaces, hfind⟩ := proxyBase_eq_ok_iff.mp hparent
    intro s hs
    rcases List.mem_append.mp hs with hhead | hinterface
    · rw [List.mem_singleton.mp hhead]
      exact .inl (mem_of_findNamed? hfind)
    · exact .inr ⟨hinterface, owns_of_proxiedFault?
        (List.findSome?_eq_none_iff.mp hinterfaces s hinterface)⟩
  genuine := TypeFlags.includes_generatedProxy

theorem define_of_fault {name : String} {base : Option HostType}
    {interfaces : List HostType} {flags : TypeFlags} {fault : Fault}
    (hfault : registry.definitionBase name base interfaces = .error fault) :
    define name base interfaces flags registry =
      ⟨.error fault, registry, []⟩ := by
  rw [define, hfault]

theorem define_of_base {name : String} {base : Option HostType}
    {interfaces : List HostType} {flags : TypeFlags} {parent : HostType}
    (hparent : registry.definitionBase name base interfaces = .ok parent) :
    define name base interfaces flags registry =
      insert name parent interfaces (flags.without .generatedProxy)
        registry := by
  rw [define, hparent]

theorem define_of_free {name : String} {base : Option HostType}
    {interfaces : List HostType} {flags : TypeFlags} {parent : HostType}
    (hparent : registry.definitionBase name base interfaces = .ok parent)
    (hname : registry.names.lookup name = none) :
    define name base interfaces flags registry =
      ⟨.ok (registry.definedType name parent interfaces flags),
        registry.extended
          (registry.definedType name parent interfaces flags), []⟩ := by
  rw [define_of_base hparent, insert_of_free hname]
  rfl

theorem defineProxy_of_fault {interfaces : List HostType} {fault : Fault}
    (hfault : registry.proxyBase interfaces = .error fault) :
    defineProxy interfaces registry = ⟨.error fault, registry, []⟩ := by
  rw [defineProxy, hfault]

theorem defineProxy_of_taken {interfaces : List HostType} {parent : HostType}
    (hparent : registry.proxyBase interfaces = .ok parent)
    (hname : registry.names.lookup registry.proxyTypeName ≠ none) :
    defineProxy interfaces registry =
      ⟨.error (.typeInsert (.nameTaken registry.proxyTypeName)),
        { registry with nextProxy := registry.nextProxy + 1 }, []⟩ := by
  have hstill : { registry with nextProxy := registry.nextProxy + 1 }.names.lookup
      registry.proxyTypeName ≠ none := hname
  simp only [defineProxy, hparent, Action.andThen, insert_of_taken hstill]

theorem defineProxy_of_free {interfaces : List HostType} {parent : HostType}
    (hparent : registry.proxyBase interfaces = .ok parent)
    (hname : registry.names.lookup registry.proxyTypeName = none) :
    defineProxy interfaces registry =
      ⟨.ok (registry.nextProxyType parent interfaces),
        { registry.extended (registry.nextProxyType parent interfaces) with
          nextProxy := registry.nextProxy + 1 },
        [.proxyGenerated registry.proxyTypeName ⟨registry.nextId⟩]⟩ := by
  have hstill : { registry with nextProxy := registry.nextProxy + 1 }.names.lookup
      registry.proxyTypeName = none := hname
  simp only [defineProxy, hparent, Action.andThen, insert_of_free hstill]
  rfl

/-- A call fails and changes no type, or adds an admitted type.  Either way it
may use up a running number. -/
theorem perform_cases (call : TypeCall) (registry : TypeRegistry) :
    ∃ nextProxy,
      (∃ fault, (call.perform registry).result = .error fault ∧
        (call.perform registry).state =
          { registry with nextProxy := nextProxy }) ∨
      (∃ added, Admits registry call added ∧
        (call.perform registry).result = .ok added ∧
        (call.perform registry).state =
          { registry.extended added with nextProxy := nextProxy }) := by
  cases call with
  | define name base interfaces flags =>
      refine ⟨registry.nextProxy, ?_⟩
      rw [TypeCall.perform]
      cases hparent : registry.definitionBase name base interfaces with
      | error fault =>
          rw [define_of_fault hparent]
          exact .inl ⟨fault, rfl, rfl⟩
      | ok parent =>
          by_cases hname : registry.names.lookup name = none
          · rw [define_of_free hparent hname]
            exact .inr ⟨_, admits_define hparent hname, rfl, rfl⟩
          · rw [define_of_base hparent, insert_of_taken hname]
            exact .inl ⟨_, rfl, rfl⟩
  | defineProxy interfaces =>
      rw [TypeCall.perform]
      cases hparent : registry.proxyBase interfaces with
      | error fault =>
          rw [defineProxy_of_fault hparent]
          exact ⟨registry.nextProxy, .inl ⟨fault, rfl, rfl⟩⟩
      | ok parent =>
          refine ⟨registry.nextProxy + 1, ?_⟩
          by_cases hname : registry.names.lookup registry.proxyTypeName = none
          · rw [defineProxy_of_free hparent hname]
            exact .inr ⟨_, admits_defineProxy hparent hname, rfl, rfl⟩
          · rw [defineProxy_of_taken hparent hname]
            exact .inl ⟨_, rfl, rfl⟩

/-- A type that was defined is as it was asked for, but for the flag of
generated proxies, and nothing was wrong with its supertypes. -/
theorem define_eq_ok {name : String} {base : Option HostType}
    {interfaces : List HostType} {flags : TypeFlags} {t : HostType}
    (hok : ((TypeCall.define name base interfaces flags).perform
      registry).result = .ok t) :
    ∃ parent, registry.definitionBase name base interfaces = .ok parent ∧
      t = registry.definedType name parent interfaces flags := by
  rw [TypeCall.perform] at hok
  cases hparent : registry.definitionBase name base interfaces with
  | error fault =>
      rw [define_of_fault hparent] at hok
      cases hok
  | ok parent =>
      by_cases hname : registry.names.lookup name = none
      · rw [define_of_free hparent hname] at hok
        exact ⟨parent, rfl, (Except.ok.inj hok).symm⟩
      · rw [define_of_base hparent, insert_of_taken hname] at hok
        cases hok

/-- A proxy that was generated derives from the proxy base and from the
interfaces it was generated for, and carries the flags of generated proxies and
of final types. -/
theorem defineProxy_eq_ok {interfaces : List HostType} {t : HostType}
    (hok : ((TypeCall.defineProxy interfaces).perform registry).result =
      .ok t) :
    ∃ parent, registry.proxyBase interfaces = .ok parent ∧
      registry.names.lookup registry.proxyTypeName = none ∧
      t = registry.nextProxyType parent interfaces := by
  rw [TypeCall.perform] at hok
  cases hparent : registry.proxyBase interfaces with
  | error fault =>
      rw [defineProxy_of_fault hparent] at hok
      cases hok
  | ok parent =>
      by_cases hname : registry.names.lookup registry.proxyTypeName = none
      · rw [defineProxy_of_free hparent hname] at hok
        exact ⟨parent, rfl, hname, (Except.ok.inj hok).symm⟩
      · rw [defineProxy_of_taken hparent hname] at hok
        cases hok

/-! ### Well-known supertypes -/

section

variable (hsound : registry.Sound) (hsize : registry.size < UInt32.size)

include hsound hsize

/-- Below the limit of numbers, the root type is there. -/
theorem Sound.objectType_eq :
    registry.objectType = .ok (WellKnown.object registry.serial) :=
  require_eq_ok_iff.mpr
    (hsound.findNamed?_always hsize (WellKnown.object_mem_always _))

/-- Below the limit of numbers, proxies are generated below the proxy base. -/
theorem Sound.proxyBase_eq_ok_iff {interfaces : List HostType}
    {parent : HostType} :
    registry.proxyBase interfaces = .ok parent ↔
      interfaces.findSome? registry.proxiedFault? = none ∧
        parent = WellKnown.proxy registry.serial := by
  have hproxy : registry.findNamed? WellKnown.proxyName =
      some (WellKnown.proxy registry.serial) :=
    hsound.findNamed?_always hsize (WellKnown.proxy_mem_always _)
  rw [TypeRegistry.proxyBase_eq_ok_iff, hproxy, Option.some.injEq]
  exact and_congr_right' eq_comm

end

/-! ## Whole runs -/

/-- An admitted type derives from types that were there before it. -/
theorem Sound.mem_of_admits (hsound : registry.Sound) {call : TypeCall}
    {added s : HostType} (hadmits : Admits registry call added)
    (hauthentic : ∀ t ∈ call.arguments, registry.Authentic t)
    (hs : s ∈ added.supertypes) : s ∈ registry.types := by
  rcases hadmits.supertypes s hs with hfound | ⟨hgiven, howns⟩
  · exact hfound
  · exact hsound.mem_of_owns (hauthentic s hgiven) howns

theorem Sound.admits (hsound : registry.Sound) {call : TypeCall}
    {added : HostType} (hadmits : Admits registry call added)
    (hauthentic : ∀ t ∈ call.arguments, registry.Authentic t) :
    (registry.extended added).Sound :=
  hsound.extended hadmits.owner_eq hadmits.id_eq hadmits.unnamed
    fun _ hs => hsound.mem_of_admits hadmits hauthentic hs

theorem Sound.withNextProxy (hsound : registry.Sound) (nextProxy : UInt32) :
    { registry with nextProxy := nextProxy }.Sound :=
  ⟨hsound.wellKnown, hsound.owned, hsound.closed, hsound.numbered,
    hsound.next, hsound.indexed, hsound.named⟩

theorem Sound.perform (hsound : registry.Sound) {call : TypeCall}
    (hauthentic : ∀ t ∈ call.arguments, registry.Authentic t) :
    (call.perform registry).state.Sound := by
  obtain ⟨nextProxy, ⟨_, _, hstate⟩ | ⟨added, hadmits, _, hstate⟩⟩ :=
    perform_cases call registry
  · rw [hstate]
    exact hsound.withNextProxy nextProxy
  · rw [hstate]
    exact (hsound.admits hadmits hauthentic).withNextProxy nextProxy

/-- A later moment of the same registry. -/
structure Extends (registry later : TypeRegistry) : Prop where
  serial : later.serial = registry.serial
  types : registry.types <+: later.types

theorem Extends.refl (registry : TypeRegistry) : Extends registry registry :=
  ⟨rfl, List.prefix_rfl⟩

theorem Extends.trans {first second third : TypeRegistry}
    (hleft : Extends first second) (hright : Extends second third) :
    Extends first third :=
  ⟨hright.serial.trans hleft.serial, hleft.types.trans hright.types⟩

theorem Extends.size_le {later : TypeRegistry}
    (hextends : Extends registry later) : registry.size ≤ later.size :=
  hextends.types.length_le

/-- A sound registry grew into a later one before the numbers ran out. -/
structure Grew (registry later : TypeRegistry) : Prop where
  ext : Extends registry later
  sound : registry.Sound
  laterSound : later.Sound
  laterSize : later.size < UInt32.size

namespace Grew

variable {later : TypeRegistry}

theorem size_lt (hgrew : registry.Grew later) :
    registry.size < UInt32.size :=
  Nat.lt_of_le_of_lt hgrew.ext.size_le hgrew.laterSize

/-- A name that leads to a type leads to the same type later. -/
theorem findNamed? (hgrew : registry.Grew later) {name : String} {t : HostType}
    (hfind : registry.findNamed? name = some t) :
    later.findNamed? name = some t := by
  obtain ⟨ht, hname⟩ :=
    (hgrew.sound.findNamed?_eq_some_iff hgrew.size_lt).mp hfind
  exact (hgrew.laterSound.findNamed?_eq_some_iff hgrew.laterSize).mpr
    ⟨hgrew.ext.types.subset ht, hname⟩

end Grew

theorem extends_perform (call : TypeCall) (registry : TypeRegistry) :
    Extends registry (call.perform registry).state := by
  obtain ⟨nextProxy, ⟨_, _, hstate⟩ | ⟨added, _, _, hstate⟩⟩ :=
    perform_cases call registry
  · rw [hstate]
    exact ⟨rfl, List.prefix_rfl⟩
  · rw [hstate]
    exact ⟨rfl, List.prefix_append _ _⟩

end TypeRegistry

theorem produced_cons {call : TypeCall} {result : Except Fault HostType}
    {made : List ServedTypeCall} {t : HostType} :
    Produced (⟨call, result⟩ :: made) t ↔
      (call.generates = true ∧ result = .ok t) ∨ Produced made t := by
  simp only [Produced, List.mem_cons, ServedTypeCall.mk.injEq, exists_or]
  refine or_congr_left ?_
  cases call with
  | define name base interfaces flags => simp [TypeCall.generates]
  | defineProxy interfaces => simp [TypeCall.generates, eq_comm]

namespace TypeRun

variable {serial : Nat} {environment : HostEnvironment}
variable {made : List ServedTypeCall} {registry : TypeRegistry} {t : HostType}

theorem sound (hrun : TypeRun serial environment made registry) :
    registry.Sound := by
  induction hrun with
  | start => exact TypeRegistry.sound_new serial environment
  | call _ call hauthentic ih => exact ih.perform hauthentic

theorem serial_eq (hrun : TypeRun serial environment made registry) :
    registry.serial = serial := by
  induction hrun with
  | start => rw [TypeRegistry.new_eq]
  | call _ call _ ih =>
      rw [(TypeRegistry.extends_perform call _).serial, ih]

/-- The latest call of a run was made on the registry that the earlier ones
lead to. -/
theorem of_cons {latest : ServedTypeCall}
    (hrun : TypeRun serial environment (latest :: made) registry) :
    ∃ earlier, TypeRun serial environment made earlier ∧
      registry = (latest.call.perform earlier).state := by
  cases hrun with
  | call hearlier _ _ => exact ⟨_, hearlier, rfl⟩

/-- The calls of a run determine the registry they lead to. -/
theorem unique {other : TypeRegistry}
    (hrun : TypeRun serial environment made registry)
    (hother : TypeRun serial environment made other) : other = registry := by
  induction made generalizing registry other with
  | nil =>
      cases hrun
      cases hother
      rfl
  | cons latest made ih =>
      obtain ⟨earlier, hearlier, rfl⟩ := hrun.of_cons
      obtain ⟨otherEarlier, hotherEarlier, rfl⟩ := hother.of_cons
      rw [ih hearlier hotherEarlier]

/-- A later point of a run is a later moment of the registry. -/
theorem extends_of_append {more : List ServedTypeCall} {later : TypeRegistry}
    (hrun : TypeRun serial environment made registry)
    (hlater : TypeRun serial environment (more ++ made) later) :
    registry.Extends later := by
  induction more generalizing later with
  | nil =>
      rw [hrun.unique hlater]
      exact TypeRegistry.Extends.refl registry
  | cons latest more ih =>
      obtain ⟨earlier, hearlier, rfl⟩ := TypeRun.of_cons hlater
      exact (ih hearlier).trans (TypeRegistry.extends_perform _ _)

/-- The types a registry starts with stay. -/
theorem mem_of_wellKnown (hrun : TypeRun serial environment made registry)
    (ht : t ∈ WellKnown.types serial environment) : t ∈ registry.types := by
  induction hrun with
  | start =>
      rw [TypeRegistry.new_eq]
      exact ht
  | call _ call _ ih =>
      exact (TypeRegistry.extends_perform call _).types.subset ih

theorem mem_of_always (hrun : TypeRun serial environment made registry)
    (ht : t ∈ WellKnown.always serial) : t ∈ registry.types :=
  hrun.mem_of_wellKnown (WellKnown.mem_types_of_always ht)

/-- A call of a run was made on a registry as it was at the time. -/
theorem exists_moment (hrun : TypeRun serial environment made registry)
    {served : ServedTypeCall} (hserved : served ∈ made) :
    ∃ before : TypeRegistry, before.Sound ∧ before.serial = serial ∧
      before.size ≤ registry.size ∧
      served.result = (served.call.perform before).result := by
  induction hrun with
  | start => cases hserved
  | @call _ latest hbefore call _ ih =>
      have hle := (TypeRegistry.extends_perform call latest).size_le
      rcases List.mem_cons.mp hserved with rfl | hearlier
      · exact ⟨_, hbefore.sound, hbefore.serial_eq, hle, rfl⟩
      · obtain ⟨before, hsound, hserial, hearlierLe, hresult⟩ := ih hearlier
        exact ⟨before, hsound, hserial, Nat.le_trans hearlierLe hle, hresult⟩

/-- What a run generated as a proxy is a final type below the interfaces that
were asked for and, below the limit of numbers, below the proxy base. -/
theorem proxy_of_made (hrun : TypeRun serial environment made registry)
    (hsize : registry.size < UInt32.size) {interfaces : List HostType}
    (hmade : ⟨.defineProxy interfaces, .ok t⟩ ∈ made) :
    t.base = some (WellKnown.proxy serial) ∧ t.interfaces = interfaces ∧
      t.flags = .union .generatedProxy .final := by
  obtain ⟨before, hsound, rfl, hle, hok⟩ := hrun.exists_moment hmade
  obtain ⟨parent, hparent, _, rfl⟩ := TypeRegistry.defineProxy_eq_ok hok.symm
  obtain ⟨_, rfl⟩ := (hsound.proxyBase_eq_ok_iff
    (Nat.lt_of_le_of_lt hle hsize)).mp hparent
  exact ⟨rfl, rfl, rfl⟩

/-- A generated proxy has the proxy base and the interfaces it was generated
for as its direct supertypes. -/
theorem supertypes_of_made (hrun : TypeRun serial environment made registry)
    (hsize : registry.size < UInt32.size) {interfaces : List HostType}
    (hmade : ⟨.defineProxy interfaces, .ok t⟩ ∈ made) :
    t.supertypes = WellKnown.proxy serial :: interfaces := by
  obtain ⟨hbase, hinterfaces, _⟩ := hrun.proxy_of_made hsize hmade
  rw [HostType.supertypes, hbase, hinterfaces]
  rfl

theorem isAssignableTo_proxy_of_produced
    (hrun : TypeRun serial environment made registry)
    (hsize : registry.size < UInt32.size) (hproduced : Produced made t) :
    t.isAssignableTo (WellKnown.proxy serial) = true := by
  obtain ⟨interfaces, hmade⟩ := hproduced
  apply HostType.isAssignableTo_of_mem_supertypes
  rw [hrun.supertypes_of_made hsize hmade]
  exact List.mem_cons_self

theorem mem_of_produced (hrun : TypeRun serial environment made registry)
    (hproduced : Produced made t) : t ∈ registry.types := by
  induction hrun with
  | start =>
      obtain ⟨_, hmem⟩ := hproduced
      cases hmem
  | @call _ before _ call _ ih =>
      rcases produced_cons.mp hproduced with ⟨_, hresult⟩ | hearlier
      · obtain ⟨nextProxy, ⟨_, herror, _⟩ | ⟨added, _, hok, hstate⟩⟩ :=
          TypeRegistry.perform_cases call before
        · rw [herror] at hresult
          cases hresult
        · rw [hok] at hresult
          cases hresult
          rw [hstate]
          exact List.mem_append_right _ (List.mem_singleton_self _)
      · exact (TypeRegistry.extends_perform call _).types.subset (ih hearlier)

/-- The types with the flag of generated proxies are those that were generated
as proxies. -/
theorem generatedProxy_iff (hrun : TypeRun serial environment made registry)
    (ht : t ∈ registry.types) :
    t.flags.includes .generatedProxy = true ↔ Produced made t := by
  induction hrun with
  | start =>
      rw [TypeRegistry.new_eq] at ht
      rw [WellKnown.not_generatedProxy serial environment t ht]
      simp [Produced]
  | @call made before hbefore call _ ih =>
      obtain ⟨nextProxy, ⟨_, herror, hstate⟩ |
        ⟨added, hadmits, hok, hstate⟩⟩ := TypeRegistry.perform_cases call before
      · rw [hstate] at ht
        rw [produced_cons, herror, ih ht]
        simp
      · rw [hstate] at ht
        rw [produced_cons, hok, Except.ok.injEq]
        rcases List.mem_append.mp ht with hold | hnew
        · rw [ih hold]
          refine ⟨.inr, ?_⟩
          rintro (⟨hgenerates, rfl⟩ | hearlier)
          · rw [← ih hold, hadmits.genuine, hgenerates]
          · exact hearlier
        · rw [List.mem_singleton.mp hnew, hadmits.genuine]
          refine ⟨fun hgenerates => .inl ⟨hgenerates, rfl⟩, ?_⟩
          rintro (⟨hgenerates, _⟩ | hearlier)
          · exact hgenerates
          -- A type generated earlier would already have the name, which was
          -- free when this one was added.
          · exact absurd ⟨added, hbefore.mem_of_produced hearlier, rfl⟩
              (hbefore.sound.lookup_eq_none_iff.mp hadmits.unnamed)

/-- Below the limit of numbers, the proxies of a registry are the types it
generated as such. -/
theorem isProxyType_iff (hrun : TypeRun serial environment made registry)
    (hsize : registry.size < UInt32.size) (hauthentic : registry.Authentic t) :
    registry.isProxyType t = true ↔ Produced made t := by
  rw [TypeRegistry.isProxyType, Bool.and_eq_true,
    hrun.sound.owns_iff hsize hauthentic]
  constructor
  · rintro ⟨hflag, ht⟩
    exact (hrun.generatedProxy_iff ht).mp hflag
  · intro hproduced
    have ht := hrun.mem_of_produced hproduced
    exact ⟨(hrun.generatedProxy_iff ht).mpr hproduced, ht⟩

end TypeRun

end ScriptHost
