import ScriptHost.Proofs.HostType.RegistryRuns

/-!
# How a registry grows

Whatever is called on a registry, its types stay a list that is only ever added
to.  They are numbered from one in the order of their definition, their names
tell them apart, and each derives from types of smaller numbers only, so no
chain of bases and interfaces leads back to where it began.
-/

namespace ScriptHost

/-- The types that the calls of a run added, in the order of definition. -/
def defined (made : List ServedTypeCall) : List HostType :=
  made.reverse.filterMap fun served => served.result.toOption

theorem filterMap_reverse_cons {α β : Type} (value? : α → Option β)
    (latest : α) (earlier : List α) :
    (latest :: earlier).reverse.filterMap value? =
      earlier.reverse.filterMap value? ++ (value? latest).toList := by
  rw [List.reverse_cons, List.filterMap_append, List.append_cancel_left_eq,
    List.filterMap_cons, List.filterMap_nil]
  cases value? latest <;> rfl

theorem defined_cons (latest : ServedTypeCall) (made : List ServedTypeCall) :
    defined (latest :: made) =
      defined made ++ latest.result.toOption.toList :=
  filterMap_reverse_cons _ latest made

theorem mem_defined_iff {made : List ServedTypeCall} {t : HostType} :
    t ∈ defined made ↔ ∃ call, ⟨call, .ok t⟩ ∈ made := by
  rw [defined, List.mem_filterMap]
  constructor
  · rintro ⟨⟨call, result⟩, hserved, hresult⟩
    cases result with
    | error fault => cases hresult
    | ok added =>
        cases hresult
        exact ⟨call, List.mem_reverse.mp hserved⟩
  · rintro ⟨call, hserved⟩
    exact ⟨⟨call, .ok t⟩, List.mem_reverse.mpr hserved, rfl⟩

/-- A chain of one or more bases and interfaces leads from one type to the
other. -/
def HostType.ProperlyDerives : HostType → HostType → Prop :=
  Relation.TransGen fun t supertype => supertype ∈ t.supertypes

theorem WellKnown.supertypes_below (owner : Nat)
    (environment : HostEnvironment) :
    ∀ t ∈ types owner environment, ∀ s ∈ t.supertypes,
      s.id.value < t.id.value := by
  obtain ⟨beanHelpers⟩ := environment
  cases beanHelpers <;>
    simp [types, always, beans, object, classType, classLoader, proxy,
      member, memberOf, make, HostType.supertypes, or_imp, forall_and]

/-! ## Numbers -/

namespace TypeRegistry

variable {registry : TypeRegistry} {t : HostType}

/-- Below the limit of numbers, the types bear the numbers from one on. -/
theorem Sound.numbers_eq (hsound : registry.Sound)
    (hsize : registry.size < UInt32.size) :
    registry.types.map (fun t => t.id.value.toNat) =
      List.range' 1 registry.size := by
  have hplace : ∀ place ∈ List.range registry.types.length,
      (UInt32.ofNat (place + 1)).toNat = 1 + place := by
    intro place hplace
    rw [List.mem_range] at hplace
    rw [size] at hsize
    rw [UInt32.toNat_ofNat_of_lt' (by omega), Nat.add_comm]
  calc registry.types.map (fun t => t.id.value.toNat)
      = (registry.types.map (·.id)).map (·.value.toNat) := by
        rw [List.map_map]
        rfl
    _ = (List.range registry.types.length).map
          fun place => (UInt32.ofNat (place + 1)).toNat := by
        rw [hsound.numbered, List.map_map]
        rfl
    _ = (List.range registry.types.length).map (1 + ·) :=
        List.map_congr_left hplace
    _ = List.range' 1 registry.size := (List.range'_eq_map_range ..).symm

theorem Sound.number_le (hsound : registry.Sound)
    (hsize : registry.size < UInt32.size) (ht : t ∈ registry.types) :
    t.id.value.toNat ≤ registry.size := by
  have hnumber : t.id.value.toNat ∈ List.range' 1 registry.size := by
    rw [← hsound.numbers_eq hsize]
    exact List.mem_map_of_mem ht
  rw [List.mem_range'_1] at hnumber
  omega

/-- The next number is greater than all that were given. -/
theorem Sound.number_lt_nextId (hsound : registry.Sound)
    (hsize : registry.size + 1 < UInt32.size) (ht : t ∈ registry.types) :
    t.id.value < registry.nextId := by
  have hnext : registry.nextId.toNat = registry.size + 1 := by
    rw [size] at hsize ⊢
    rw [hsound.next, UInt32.toNat_ofNat_of_lt' hsize]
  have hle := hsound.number_le (by omega) ht
  rw [UInt32.lt_iff_toNat_lt, hnext]
  omega

/-- Below the limit of numbers, all types are kept, and they are listed in the
order in which they were entered. -/
theorem Sound.listed_eq (hsound : registry.Sound)
    (hsize : registry.size < UInt32.size) :
    registry.listed = registry.types := by
  have howns : registry.types.filter registry.owns = registry.types :=
    List.filter_eq_self.mpr fun t ht =>
      (hsound.owns_iff hsize fun _ => ht).mpr ht
  rw [listed, howns]
  apply List.mergeSort_of_pairwise
  have hascending : (registry.types.map fun t => t.id.value.toNat).Pairwise
      (· < ·) := by
    rw [hsound.numbers_eq hsize]
    exact List.pairwise_lt_range'
  refine (List.pairwise_map.mp hascending).imp fun hlt => ?_
  rw [decide_eq_true_eq, UInt32.le_iff_toNat_le]
  exact Nat.le_of_lt hlt

theorem Sound.find?_eq_some_iff (hsound : registry.Sound)
    (hsize : registry.size < UInt32.size) {id : TypeId} :
    registry.find? id = some t ↔ t ∈ registry.types ∧ t.id = id := by
  refine ⟨of_find?, ?_⟩
  rintro ⟨ht, rfl⟩
  exact hsound.find?_id hsize ht

end TypeRegistry

/-! ## Growth -/

namespace TypeRun

variable {serial : Nat} {environment : HostEnvironment}
variable {made : List ServedTypeCall} {registry : TypeRegistry} {t : HostType}

/-- The types are those the registry started with and those that calls added,
in the order of definition. -/
theorem types_eq (hrun : TypeRun serial environment made registry) :
    registry.types = WellKnown.types serial environment ++ defined made := by
  induction hrun with
  | start =>
      rw [TypeRegistry.new_eq]
      exact (List.append_nil _).symm
  | @call made before _ call _ ih =>
      rw [defined_cons, ← List.append_assoc, ← ih]
      obtain ⟨nextProxy, ⟨fault, herror, hstate⟩ | ⟨added, _, hok, hstate⟩⟩ :=
        TypeRegistry.perform_cases call before
      · rw [hstate, herror]
        exact (List.append_nil _).symm
      · rw [hstate, hok]
        rfl

theorem mem_types_iff (hrun : TypeRun serial environment made registry) :
    t ∈ registry.types ↔ t ∈ WellKnown.types serial environment ∨
      ∃ call, ⟨call, .ok t⟩ ∈ made := by
  rw [hrun.types_eq, List.mem_append, mem_defined_iff]

/-- Below the limit of numbers, a type bears a greater number than its direct
supertypes. -/
theorem number_lt_of_mem_supertypes
    (hrun : TypeRun serial environment made registry)
    (hsize : registry.size < UInt32.size) (ht : t ∈ registry.types)
    {s : HostType} (hs : s ∈ t.supertypes) : s.id.value < t.id.value := by
  induction hrun with
  | start =>
      rw [TypeRegistry.new_eq] at ht
      exact WellKnown.supertypes_below serial environment t ht s hs
  | @call made before hearlier call hauthentic ih =>
      have hearlierSize : before.size < UInt32.size := Nat.lt_of_le_of_lt
        (TypeRegistry.extends_perform call before).size_le hsize
      obtain ⟨nextProxy, ⟨_, _, hstate⟩ | ⟨added, hadmits, _, hstate⟩⟩ :=
        TypeRegistry.perform_cases call before
      · rw [hstate] at ht
        exact ih hearlierSize ht
      · rw [hstate] at ht hsize
        rcases List.mem_append.mp ht with hold | hnew
        · exact ih hearlierSize hold
        · rw [List.mem_singleton.mp hnew] at hs ⊢
          rw [hadmits.id_eq]
          apply hearlier.sound.number_lt_nextId
          · simpa [TypeRegistry.size, TypeRegistry.extended] using hsize
          · exact hearlier.sound.mem_of_admits hadmits hauthentic hs

/-- Below the limit of numbers, whatever a type properly derives from bears a
smaller number. -/
theorem number_lt_of_properlyDerives
    (hrun : TypeRun serial environment made registry)
    (hsize : registry.size < UInt32.size) (ht : t ∈ registry.types)
    {u : HostType} (hderives : t.ProperlyDerives u) :
    u.id.value < t.id.value := by
  induction hderives with
  | single hs => exact hrun.number_lt_of_mem_supertypes hsize ht hs
  | @tail s u hchain hu ih =>
      have hs : s ∈ registry.types :=
        hrun.sound.mem_of_derives ht hchain.to_reflTransGen
      calc u.id.value < s.id.value :=
            hrun.number_lt_of_mem_supertypes hsize hs hu
        _ < t.id.value := ih

/-- A registry is a growing list of numbered types.  At every moment of every
run its types are the well-known ones and then those that were defined, in that
order, and so they are listed; they bear the numbers from one on and different
names; looking up a number or a name gives the type that bears it and nothing
otherwise; bases and
interfaces are types of the registry with smaller numbers, so that no type
derives from itself by way of others; whatever is called later, the types stay
and so do the well-known names. -/
theorem registry_only_grows_with_numbers_and_names_in_step
    (hrun : TypeRun serial environment made registry)
    (hsize : registry.size < UInt32.size) :
    registry.types = WellKnown.types serial environment ++ defined made ∧
    registry.listed = registry.types ∧
    registry.types.map (fun t => t.id.value.toNat) =
      List.range' 1 registry.size ∧
    (registry.types.map (·.name)).Nodup ∧
    (∀ id t, registry.find? id = some t ↔
      t ∈ registry.types ∧ t.id = id) ∧
    (∀ name t, registry.findNamed? name = some t ↔
      t ∈ registry.types ∧ t.name = name) ∧
    (∀ t ∈ registry.types, ∀ s ∈ t.supertypes,
      s ∈ registry.types ∧ s.id.value < t.id.value) ∧
    (∀ t ∈ registry.types, ¬ t.ProperlyDerives t) ∧
    (∀ more later, TypeRun serial environment (more ++ made) later →
      registry.types <+: later.types) ∧
    ∀ t ∈ WellKnown.types serial environment,
      registry.findNamed? t.name = some t ∧ registry.find? t.id = some t := by
  have hsound := hrun.sound
  refine ⟨hrun.types_eq, hsound.listed_eq hsize, hsound.numbers_eq hsize,
    hsound.named, ?_, ?_, ?_, ?_, ?_, ?_⟩
  · intro id t
    exact hsound.find?_eq_some_iff hsize
  · intro name t
    exact hsound.findNamed?_eq_some_iff hsize
  · intro t ht s hs
    exact ⟨hsound.closed t ht s hs,
      hrun.number_lt_of_mem_supertypes hsize ht hs⟩
  · intro t ht hcycle
    exact UInt32.lt_irrefl _ (hrun.number_lt_of_properlyDerives hsize ht hcycle)
  · intro more later hlater
    exact (hrun.extends_of_append hlater).types
  · intro t ht
    have hmem := hrun.mem_of_wellKnown ht
    exact ⟨(hsound.findNamed?_eq_some_iff hsize).mpr ⟨hmem, rfl⟩,
      hsound.find?_id hsize hmem⟩

end TypeRun

/-! ## An interface and a proxy that implements it -/

def runnable : HostType :=
  WellKnown.make 0 14 "app.Runnable" (some (WellKnown.object 0)) [] .interface

def runnableProxy : HostType :=
  WellKnown.make 0 15 "host.proxy.$Proxy0" (some (WellKnown.proxy 0))
    [runnable] (.union .generatedProxy .final)

/-- The interface is defined, a second type of its name is refused, and a proxy
is generated; the latest call comes first. -/
def runnableCalls : List ServedTypeCall :=
  [⟨.defineProxy [runnable], .ok runnableProxy⟩,
    ⟨.define "app.Runnable" none [] .final,
      .error (.typeInsert (.nameTaken "app.Runnable"))⟩,
    ⟨.define "app.Runnable" none [] .interface, .ok runnable⟩]

theorem runnableCalls_run :
    ∃ registry, TypeRun 0 .full runnableCalls registry ∧
      registry.size = 15 := by
  have hnew : TypeRun 0 .full [] (.new 0 .full) := .start
  have hdefined := hnew.call (.define "app.Runnable" none [] .interface)
    fun _ ht => absurd ht List.not_mem_nil
  have hrefused := hdefined.call (.define "app.Runnable" none [] .final)
    fun _ ht => absurd ht List.not_mem_nil
  have hproxied := hrefused.call (.defineProxy [runnable]) ?_
  · exact ⟨_, hproxied, rfl⟩
  · intro t ht _
    rw [List.mem_singleton.mp ht]
    exact List.mem_append_right _ (List.mem_singleton_self _)

theorem runnableProxy_found_by_number_and_name :
    ∃ registry, TypeRun 0 .full runnableCalls registry ∧
      registry.size < UInt32.size ∧
      registry.types = WellKnown.types 0 .full ++ [runnable, runnableProxy] ∧
      registry.find? ⟨15⟩ = some runnableProxy ∧
      registry.findNamed? "app.Runnable" = some runnable ∧
      runnable.id.value < runnableProxy.id.value := by
  obtain ⟨registry, hrun, hfifteen⟩ := runnableCalls_run
  have hsize : registry.size < UInt32.size := by
    rw [hfifteen]
    decide
  obtain ⟨htypes, _, _, _, hfind, hnamed, hclosed, _⟩ :=
    hrun.registry_only_grows_with_numbers_and_names_in_step hsize
  have hproxy : runnableProxy ∈ registry.types := by
    rw [htypes]
    exact List.mem_append_right _ (List.mem_cons_of_mem _ List.mem_cons_self)
  have hsupertype : runnable ∈ runnableProxy.supertypes :=
    List.mem_cons_of_mem _ List.mem_cons_self
  obtain ⟨hrunnable, hlt⟩ := hclosed runnableProxy hproxy runnable hsupertype
  exact ⟨registry, hrun, hsize, htypes, (hfind _ _).mpr ⟨hproxy, rfl⟩,
    (hnamed _ _).mpr ⟨hrunnable, rfl⟩, hlt⟩

end ScriptHost
