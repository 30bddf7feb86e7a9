import Mathlib.Data.List.Perm.Subperm
import ScriptHost.Proofs.HostType.Refusals
import ScriptHost.Proofs.Text.Stem

/-!
# The names of generated proxies

Generated proxies are named by a running number.  The names are not kept free:
whoever defines a type of such a name takes it from the proxy that was to have
it, and the call that is to generate this proxy fails.  As every call that gets
as far as the name uses a number up, a name is in the way once at most, and the
names that were tried are those of the numbers from zero on.
-/

namespace ScriptHost

/-! ## Names and numbers -/

def generatedName (number : Nat) : String :=
  WellKnown.proxyStem ++ "$Proxy" ++ toString number

theorem generatedName_injective : Function.Injective generatedName := by
  intro m n hname
  have hdigits : Nat.toDigits 10 m = Nat.toDigits 10 n := by
    have hnumber := (String.append_right_inj _).mp hname
    simpa [Nat.toString_eq_ofList_toDigits] using
      congrArg String.toList hnumber
  calc
    m = Nat.ofDigitChars 10 (Nat.toDigits 10 m) 0 :=
      Nat.ofDigitChars_ten_toDigits.symm
    _ = Nat.ofDigitChars 10 (Nat.toDigits 10 n) 0 := by rw [hdigits]
    _ = n := Nat.ofDigitChars_ten_toDigits

theorem nodup_generatedNames (count : Nat) :
    ((List.range count).map generatedName).Nodup :=
  List.nodup_range.map generatedName_injective

theorem hasStem_generatedName (number : Nat) :
    Text.hasStem WellKnown.proxyStem (generatedName number) = true :=
  Text.hasStem_iff.mpr ⟨"$Proxy" ++ toString number, String.append_assoc ..⟩

theorem WellKnown.not_hasStem_proxyStem (owner : Nat)
    (environment : HostEnvironment) :
    ∀ t ∈ types owner environment,
      Text.hasStem proxyStem t.name = false := by
  obtain ⟨beanHelpers⟩ := environment
  cases beanHelpers <;>
    simp [types, always, beans, object, classType, classLoader, proxy,
      member, memberOf, make] <;>
    decide

/-! ## Names that were tried -/

/-- The name that the call tried to give a proxy, if it got as far. -/
def ServedTypeCall.triedName? : ServedTypeCall → Option String
  | ⟨.defineProxy _, .ok t⟩ => some t.name
  | ⟨.defineProxy _, .error (.typeInsert (.nameTaken name))⟩ => some name
  | _ => none

def triedNames (made : List ServedTypeCall) : List String :=
  made.reverse.filterMap (·.triedName?)

theorem triedNames_cons (latest : ServedTypeCall)
    (made : List ServedTypeCall) :
    triedNames (latest :: made) =
      triedNames made ++ latest.triedName?.toList :=
  filterMap_reverse_cons _ latest made

theorem mem_triedNames_of_ok {made : List ServedTypeCall}
    {interfaces : List HostType} {t : HostType}
    (hmade : ⟨.defineProxy interfaces, .ok t⟩ ∈ made) :
    t.name ∈ triedNames made :=
  List.mem_filterMap.mpr ⟨_, List.mem_reverse.mpr hmade, rfl⟩

namespace TypeRegistry

variable {registry : TypeRegistry}

theorem triedName?_of_proxiedFault? {interfaces : List HostType} {t : HostType}
    {fault : Fault} (hfault : registry.proxiedFault? t = some fault) :
    ServedTypeCall.triedName? ⟨.defineProxy interfaces, .error fault⟩ =
      none := by
  rw [proxiedFault?] at hfault
  split at hfault
  · cases hfault
    rfl
  · split at hfault
    · cases hfault
      rfl
    · cases hfault

theorem triedName?_of_proxyBase {interfaces : List HostType} {fault : Fault}
    (hfault : registry.proxyBase interfaces = .error fault) :
    ServedTypeCall.triedName? ⟨.defineProxy interfaces, .error fault⟩ =
      none := by
  rw [proxyBase] at hfault
  cases hproxied : interfaces.findSome? registry.proxiedFault? with
  | some first =>
      rw [hproxied] at hfault
      cases hfault
      obtain ⟨t, _, ht⟩ := List.exists_of_findSome?_eq_some hproxied
      exact triedName?_of_proxiedFault? ht
  | none =>
      rw [hproxied, require] at hfault
      cases hfind : registry.findNamed? WellKnown.proxyName with
      | some found =>
          rw [hfind] at hfault
          cases hfault
      | none =>
          rw [hfind] at hfault
          cases hfault
          rfl

/-- A call that tries a name tries that of the next number; it uses the number
up and leaves a type of the name behind.  Any other call keeps the number. -/
theorem Sound.triedName?_cases (hsound : registry.Sound) (call : TypeCall) :
    (ServedTypeCall.triedName? ⟨call, (call.perform registry).result⟩ = none ∧
      (call.perform registry).state.nextProxy = registry.nextProxy) ∨
    (ServedTypeCall.triedName? ⟨call, (call.perform registry).result⟩ =
        some registry.proxyTypeName ∧
      (call.perform registry).state.nextProxy = registry.nextProxy + 1 ∧
      (call.perform registry).state.Names registry.proxyTypeName) := by
  cases call with
  | define name base interfaces flags =>
      left
      exact ⟨rfl, nextProxy_define name base interfaces flags registry⟩
  | defineProxy interfaces =>
      rw [TypeCall.perform]
      cases hparent : registry.proxyBase interfaces with
      | error fault =>
          left
          rw [defineProxy_of_fault hparent]
          exact ⟨triedName?_of_proxyBase hparent, rfl⟩
      | ok parent =>
          right
          by_cases hname : registry.names.lookup registry.proxyTypeName = none
          · rw [defineProxy_of_free hparent hname]
            exact ⟨rfl, rfl, registry.nextProxyType parent interfaces,
              List.mem_append_right _ (List.mem_singleton_self _), rfl⟩
          · rw [defineProxy_of_taken hparent hname]
            rw [hsound.lookup_eq_none_iff, not_not] at hname
            exact ⟨rfl, rfl, hname⟩

theorem Extends.names {later : TypeRegistry} {name : String}
    (hextends : Extends registry later) (hname : registry.Names name) :
    later.Names name := by
  obtain ⟨t, ht, htname⟩ := hname
  exact ⟨t, hextends.types.subset ht, htname⟩

/-- A proxy that is generated is a new type, and the registry knows that it
generated it. -/
theorem Sound.generated (hsound : registry.Sound)
    (hsize : registry.size < UInt32.size) {interfaces : List HostType}
    {t : HostType}
    (hok : ((TypeCall.defineProxy interfaces).perform registry).result =
      .ok t) :
    t ∉ registry.types ∧
      ((TypeCall.defineProxy interfaces).perform registry).state.isProxyType
        t = true ∧
      t.supertypes = WellKnown.proxy registry.serial :: interfaces := by
  obtain ⟨parent, hparent, hname, rfl⟩ := defineProxy_eq_ok hok
  obtain ⟨_, rfl⟩ := (hsound.proxyBase_eq_ok_iff hsize).mp hparent
  rw [TypeCall.perform, defineProxy_of_free hparent hname]
  refine ⟨fun hold => hsound.lookup_eq_none_iff.mp hname ⟨_, hold, rfl⟩, ?_,
    rfl⟩
  rw [isProxyType, Bool.and_eq_true]
  exact ⟨TypeFlags.includes_generatedProxy, registry.owns_extended _⟩

/-- There are at least as many types as different names that they bear. -/
theorem length_le_size_of_names {names : List String} (hnodup : names.Nodup)
    (hnames : ∀ name ∈ names, registry.Names name) :
    names.length ≤ registry.size := by
  have hborne : names ⊆ registry.types.map (·.name) := by
    intro name hname
    obtain ⟨t, ht, htname⟩ := hnames name hname
    exact List.mem_map.mpr ⟨t, ht, htname⟩
  calc names.length
      ≤ (registry.types.map (·.name)).length :=
        (hnodup.subperm hborne).length_le
    _ = registry.size := List.length_map _

end TypeRegistry

/-! ## Whole runs -/

def DefinedNamed (made : List ServedTypeCall) (name : String) : Prop :=
  ∃ base interfaces flags t, ⟨.define name base interfaces flags, .ok t⟩ ∈ made

namespace TypeRun

variable {serial : Nat} {environment : HostEnvironment}
variable {made : List ServedTypeCall} {registry : TypeRegistry} {t : HostType}

/-- There are types of all names that were tried, be it the proxies or those
that were in the way. -/
theorem names_of_mem_triedNames
    (hrun : TypeRun serial environment made registry) {name : String}
    (hname : name ∈ triedNames made) : registry.Names name := by
  induction hrun with
  | start => cases hname
  | @call made before hbefore call _ ih =>
      rw [triedNames_cons, List.mem_append] at hname
      rcases hname with hearlier | hlatest
      · exact (TypeRegistry.extends_perform call before).names (ih hearlier)
      · rcases hbefore.sound.triedName?_cases call with
          ⟨hnone, _⟩ | ⟨htried, _, hborne⟩
        · rw [hnone] at hlatest
          cases hlatest
        · rw [htried] at hlatest
          rwa [List.mem_singleton.mp hlatest]

/-- Below the limit of numbers, the names that were tried are those of the
numbers from zero up to the next one. -/
theorem triedNames_eq (hrun : TypeRun serial environment made registry)
    (hsize : registry.size < UInt32.size) :
    triedNames made =
      (List.range registry.nextProxy.toNat).map generatedName := by
  induction hrun with
  | start =>
      rw [TypeRegistry.new_eq]
      rfl
  | @call made before hbefore call hauthentic ih =>
      have hrun := hbefore.call call hauthentic
      have ih := ih (Nat.lt_of_le_of_lt
        (TypeRegistry.extends_perform call before).size_le hsize)
      rcases hbefore.sound.triedName?_cases call with
        ⟨hnone, hnext⟩ | ⟨htried, hnext, _⟩
      · rw [triedNames_cons, hnone, hnext, ih]
        exact List.append_nil _
      · have htries : triedNames
              (⟨call, (call.perform before).result⟩ :: made) =
            (List.range (before.nextProxy.toNat + 1)).map generatedName := by
          rw [triedNames_cons, htried, ih, List.range_succ, List.map_append]
          rfl
        -- The number does not wrap around, since there are types of all names
        -- that were tried.
        have hcount : before.nextProxy.toNat + 1 < UInt32.size := by
          have hle := TypeRegistry.length_le_size_of_names
            (nodup_generatedNames (before.nextProxy.toNat + 1))
            fun name hname => hrun.names_of_mem_triedNames (htries ▸ hname)
          rw [List.length_map, List.length_range] at hle
          exact Nat.lt_of_le_of_lt hle hsize
        have hnumber : (call.perform before).state.nextProxy.toNat =
            before.nextProxy.toNat + 1 := by
          rw [hnext, UInt32.toNat_add]
          exact Nat.mod_eq_of_lt hcount
        rw [htries, hnumber]

/-- Below the limit of numbers, the next name was not tried before. -/
theorem proxyTypeName_not_mem_triedNames
    (hrun : TypeRun serial environment made registry)
    (hsize : registry.size < UInt32.size) :
    registry.proxyTypeName ∉ triedNames made := by
  intro hmem
  rw [hrun.triedNames_eq hsize] at hmem
  obtain ⟨number, hnumber, hname⟩ := List.mem_map.mp hmem
  rw [generatedName_injective hname, List.mem_range] at hnumber
  exact Nat.lt_irrefl _ hnumber

theorem name_of_defined (hrun : TypeRun serial environment made registry)
    {name : String} {base : Option HostType} {interfaces : List HostType}
    {flags : TypeFlags}
    (hmade : ⟨.define name base interfaces flags, .ok t⟩ ∈ made) :
    t.name = name := by
  obtain ⟨before, _, _, _, hok⟩ := hrun.exists_moment hmade
  obtain ⟨parent, _, rfl⟩ := TypeRegistry.define_eq_ok hok.symm
  rfl

/-- Below the limit of numbers, there is a type of the name of the next proxy
only if one was defined. -/
theorem names_proxyTypeName_iff
    (hrun : TypeRun serial environment made registry)
    (hsize : registry.size < UInt32.size) :
    registry.Names registry.proxyTypeName ↔
      DefinedNamed made registry.proxyTypeName := by
  constructor
  · rintro ⟨t, ht, hname⟩
    rcases hrun.mem_types_iff.mp ht with hwellKnown | ⟨call, hmade⟩
    · have hstem := hasStem_generatedName registry.nextProxy.toNat
      rw [← show t.name = generatedName _ from hname,
        WellKnown.not_hasStem_proxyStem serial environment t hwellKnown]
        at hstem
      cases hstem
    · cases call with
      | define given base interfaces flags =>
          rw [hrun.name_of_defined hmade] at hname
          rw [hname] at hmade
          exact ⟨base, interfaces, flags, t, hmade⟩
      | defineProxy interfaces =>
          have htried := mem_triedNames_of_ok hmade
          rw [hname] at htried
          exact absurd htried (hrun.proxyTypeName_not_mem_triedNames hsize)
  · rintro ⟨base, interfaces, flags, t, hmade⟩
    exact ⟨t, hrun.mem_types_iff.mpr (.inr ⟨_, hmade⟩),
      hrun.name_of_defined hmade⟩

/-- A proxy is generated unless its name was taken before.  At every moment of
every run, generating a proxy for interfaces of the registry succeeds exactly if
no type of the next name was defined.  A proxy that is generated is a new type,
is known to the registry as its own and derives from the proxy base and from
all the interfaces.  If the name was defined, the call fails and uses the number
up; the name was not tried before, so a definition is in the way of one proxy at
most. -/
theorem proxy_blocked_iff_its_name_was_defined
    (hrun : TypeRun serial environment made registry)
    (hsize : registry.size < UInt32.size) {interfaces : List HostType}
    (hauthentic : ∀ t ∈ interfaces, registry.Authentic t) :
    ((∃ t, ((TypeCall.defineProxy interfaces).perform registry).result =
        .ok t) ↔
      registry.MayProxy interfaces ∧
        ¬ DefinedNamed made registry.proxyTypeName) ∧
    (∀ t, ((TypeCall.defineProxy interfaces).perform registry).result = .ok t →
      t ∉ registry.types ∧
      ((TypeCall.defineProxy interfaces).perform registry).state.isProxyType
        t = true ∧
      t.isAssignableTo (WellKnown.proxy serial) = true ∧
      ∀ i ∈ interfaces, t.isAssignableTo i = true) ∧
    (registry.MayProxy interfaces →
      DefinedNamed made registry.proxyTypeName →
        (TypeCall.defineProxy interfaces).perform registry =
          ⟨.error (.typeInsert (.nameTaken registry.proxyTypeName)),
            { registry with nextProxy := registry.nextProxy + 1 }, []⟩) ∧
    registry.proxyTypeName ∉ triedNames made := by
  have hsound := hrun.sound
  have hnames := hrun.names_proxyTypeName_iff hsize
  refine ⟨?_, ?_, ?_, hrun.proxyTypeName_not_mem_triedNames hsize⟩
  · rw [← hnames]
    exact hsound.succeeds_iff hsize hauthentic
  · intro t hok
    obtain ⟨hnew, hgenuine, hsupertypes⟩ := hsound.generated hsize hok
    rw [hrun.serial_eq] at hsupertypes
    refine ⟨hnew, hgenuine, ?_, fun i hi => ?_⟩
    · apply HostType.isAssignableTo_of_mem_supertypes
      rw [hsupertypes]
      exact List.mem_cons_self
    · apply HostType.isAssignableTo_of_mem_supertypes
      rw [hsupertypes]
      exact List.mem_cons_of_mem _ hi
  · intro hmay hdefined
    exact TypeRegistry.defineProxy_of_taken
      (hsound.proxyBase_of_mayProxy hsize hmay)
      (fun hfree => hsound.lookup_eq_none_iff.mp hfree (hnames.mpr hdefined))

end TypeRun

/-! ## A proxy whose name was defined -/

def squatter : HostType :=
  WellKnown.make 0 14 "host.proxy.$Proxy0" (some (WellKnown.object 0)) [] .none

def squattedCalls : List ServedTypeCall :=
  [⟨.define "host.proxy.$Proxy0" none [] .none, .ok squatter⟩]

theorem squattedCalls_run :
    ∃ registry, TypeRun 0 .full squattedCalls registry ∧
      registry.size < UInt32.size ∧
      registry.proxyTypeName = "host.proxy.$Proxy0" ∧
      { registry with nextProxy := registry.nextProxy + 1 }.proxyTypeName =
        "host.proxy.$Proxy1" := by
  have hnew : TypeRun 0 .full [] (.new 0 .full) := .start
  have hdefined := hnew.call (.define "host.proxy.$Proxy0" none [] .none)
    fun _ ht => absurd ht List.not_mem_nil
  exact ⟨_, hdefined, by decide, rfl, rfl⟩

theorem member_proxied {made : List ServedTypeCall} {registry : TypeRegistry}
    (hrun : TypeRun 0 .full made registry) :
    registry.MayProxy [WellKnown.member 0] := by
  intro t ht
  rw [List.mem_singleton.mp ht]
  exact ⟨hrun.mem_of_always (WellKnown.member_mem_always 0), by decide⟩

theorem squattedCalls_definedNamed :
    DefinedNamed squattedCalls "host.proxy.$Proxy0" :=
  ⟨none, [], .none, squatter, List.mem_cons_self⟩

/-- The first proxy is blocked, and the next one is not. -/
theorem squatted_name_blocks_one_proxy :
    ∃ registry, TypeRun 0 .full squattedCalls registry ∧
      registry.size < UInt32.size ∧
      ((TypeCall.defineProxy [WellKnown.member 0]).perform registry).result =
        .error (.typeInsert (.nameTaken "host.proxy.$Proxy0")) ∧
      ∃ t, ((TypeCall.defineProxy [WellKnown.member 0]).perform
        ((TypeCall.defineProxy [WellKnown.member 0]).perform
          registry).state).result = .ok t := by
  obtain ⟨registry, hrun, hsize, hfirst, hsecond⟩ := squattedCalls_run
  have hmay := member_proxied hrun
  have hauthentic : ∀ t ∈ [WellKnown.member 0], registry.Authentic t :=
    fun t ht _ => (hmay t ht).1
  have hdefined : DefinedNamed squattedCalls registry.proxyTypeName :=
    hfirst ▸ squattedCalls_definedNamed
  obtain ⟨_, _, hblocked, _⟩ :=
    hrun.proxy_blocked_iff_its_name_was_defined hsize hauthentic
  have hblocked := hblocked hmay hdefined
  have hlater := hrun.call (.defineProxy [WellKnown.member 0]) hauthentic
  refine ⟨registry, hrun, hsize, by rw [hblocked, hfirst], ?_⟩
  rw [hblocked] at hlater ⊢
  apply (hlater.proxy_blocked_iff_its_name_was_defined hsize
    hauthentic).1.mpr
  refine ⟨hmay, ?_⟩
  rw [hsecond]
  simp [DefinedNamed, squattedCalls]

/-- Proxies of interfaces can be blocked. -/
theorem proxy_generation_can_be_blocked :
    ¬ ∀ (serial : Nat) (environment : HostEnvironment)
        (made : List ServedTypeCall) (registry : TypeRegistry),
      TypeRun serial environment made registry →
        registry.size < UInt32.size →
          ∀ interfaces, registry.MayProxy interfaces →
            ∃ t, ((TypeCall.defineProxy interfaces).perform registry).result =
              .ok t := by
  intro hnever
  obtain ⟨registry, hrun, hsize, hfirst, _⟩ := squattedCalls_run
  have hmay := member_proxied hrun
  obtain ⟨t, hok⟩ := hnever 0 .full _ registry hrun hsize _ hmay
  have hname : registry.Names registry.proxyTypeName :=
    (hrun.names_proxyTypeName_iff hsize).mpr
      (hfirst ▸ squattedCalls_definedNamed)
  rw [TypeCall.perform, TypeRegistry.defineProxy_of_taken
    (hrun.sound.proxyBase_of_mayProxy hsize hmay)
    fun hfree => hrun.sound.lookup_eq_none_iff.mp hfree hname] at hok
  cases hok

end ScriptHost
