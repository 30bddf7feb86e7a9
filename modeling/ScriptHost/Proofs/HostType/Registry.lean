import ScriptHost.Proofs.Distinct
import ScriptHost.Proofs.HostType.Ancestry
import ScriptHost.Proofs.HostType.WellKnown

/-!
# What a registry keeps

A registry only ever adds types: each one bears the next number and a name of
its own, and its supertypes were there before it.  Names tell types apart.  As
long as the numbers have not run out, numbers do so too, and then each type is
found by its number and by its name.
-/

namespace ScriptHost

/-! ## Flags -/

namespace TypeFlags

theorem not_includes_without (flags : TypeFlags) :
    (flags.without .generatedProxy).includes .generatedProxy = false := by
  have hbits : flags.bits &&& ~~~generatedProxy.bits &&&
      generatedProxy.bits = 0 := by
    rw [UInt32.and_assoc, show ~~~generatedProxy.bits &&&
      generatedProxy.bits = 0 from rfl, UInt32.and_zero]
  rw [includes, without, hbits]
  rfl

theorem includes_generatedProxy :
    (union generatedProxy final).includes .generatedProxy = true := by
  decide

end TypeFlags

/-! ## Well-known types -/

namespace WellKnown

theorem owner_eq (owner : Nat) (environment : HostEnvironment) :
    ∀ t ∈ types owner environment, t.owner = owner := by
  obtain ⟨beanHelpers⟩ := environment
  cases beanHelpers <;>
    simp [types, always, beans, object, classType, classLoader, proxy,
      member, memberOf, make]

theorem supertypes_cases (owner : Nat) (environment : HostEnvironment) :
    ∀ t ∈ types owner environment, t.supertypes = [] ∨
      t.supertypes = [object owner] ∨
        t.supertypes = [object owner, member owner] := by
  obtain ⟨beanHelpers⟩ := environment
  cases beanHelpers <;>
    simp [types, always, beans, object, classType, classLoader, proxy,
      member, memberOf, make, HostType.supertypes]

theorem mem_types_of_always {owner : Nat} {environment : HostEnvironment}
    {t : HostType} (ht : t ∈ always owner) : t ∈ types owner environment :=
  List.mem_append_left _ ht

theorem closed {owner : Nat} {environment : HostEnvironment} {t s : HostType}
    (ht : t ∈ types owner environment) (hs : s ∈ t.supertypes) :
    s ∈ types owner environment := by
  apply mem_types_of_always
  rcases supertypes_cases owner environment t ht with h | h | h
  · rw [h] at hs
    exact absurd hs List.not_mem_nil
  · rw [h, List.mem_singleton] at hs
    rw [hs]
    exact object_mem_always owner
  · rw [h, List.mem_cons, List.mem_singleton] at hs
    rcases hs with rfl | rfl
    · exact object_mem_always owner
    · exact member_mem_always owner

theorem numbered (owner : Nat) (environment : HostEnvironment) :
    (types owner environment).map (·.id) =
      (List.range (types owner environment).length).map
        fun place => ⟨UInt32.ofNat (place + 1)⟩ := by
  obtain ⟨beanHelpers⟩ := environment
  cases beanHelpers <;> rfl

theorem names_nodup (owner : Nat) (environment : HostEnvironment) :
    ((types owner environment).map (·.name)).Nodup := by
  obtain ⟨beanHelpers⟩ := environment
  cases beanHelpers <;>
    simp [types, always, beans, object, classType, classLoader, proxy,
      member, memberOf, make, objectName, className, classLoaderName,
      proxyName, memberName, methodHandleName, handleLookupName]

theorem not_generatedProxy (owner : Nat) (environment : HostEnvironment) :
    ∀ t ∈ types owner environment,
      t.flags.includes .generatedProxy = false := by
  obtain ⟨beanHelpers⟩ := environment
  cases beanHelpers <;>
    simp [types, always, beans, object, classType, classLoader, proxy,
      member, memberOf, make] <;>
    decide

end WellKnown

namespace TypeRegistry

variable {registry : TypeRegistry}

/-! ## Adding a type -/

/-- The registry with one more type, entered by its number and its name. -/
def extended (registry : TypeRegistry) (added : HostType) : TypeRegistry :=
  { registry with
    types := registry.types ++ [added]
    names := registry.names ++ [(added.name, added.id)]
    nextId := registry.nextId + 1 }

theorem insert_of_taken {name : String}
    (hname : registry.names.lookup name ≠ none) (base : Option HostType)
    (interfaces : List HostType) (flags : TypeFlags) :
    insert name base interfaces flags registry =
      ⟨.error (.typeInsert (.nameTaken name)), registry, []⟩ := by
  cases hlookup : registry.names.lookup name with
  | none => exact absurd hlookup hname
  | some id => rw [insert, hlookup]

theorem insert_of_free {name : String}
    (hname : registry.names.lookup name = none) (base : Option HostType)
    (interfaces : List HostType) (flags : TypeFlags) :
    insert name base interfaces flags registry =
      ⟨.ok ⟨registry.serial, ⟨registry.nextId⟩, name, base, interfaces, flags⟩,
        registry.extended ⟨registry.serial, ⟨registry.nextId⟩, name, base,
          interfaces, flags⟩, []⟩ := by
  rw [insert, hname]
  rfl

theorem of_find? {id : TypeId} {t : HostType}
    (hfind : registry.find? id = some t) :
    t ∈ registry.types ∧ t.id = id := by
  rw [find?] at hfind
  refine ⟨List.mem_reverse.mp (List.mem_of_find?_eq_some hfind), ?_⟩
  simpa only [beq_iff_eq] using List.find?_some hfind

theorem mem_of_findNamed? {name : String} {t : HostType}
    (hfind : registry.findNamed? name = some t) : t ∈ registry.types := by
  obtain ⟨id, _, hid⟩ := Option.bind_eq_some_iff.mp hfind
  exact (of_find? hid).1

theorem require_eq_ok_iff {name message : String} {t : HostType} :
    registry.require name message = .ok t ↔
      registry.findNamed? name = some t := by
  rw [require]
  cases registry.findNamed? name <;> simp

def Names (registry : TypeRegistry) (name : String) : Prop :=
  ∃ t ∈ registry.types, t.name = name

/-! ## The invariant -/

/-- What holds of every registry that was only ever added to. -/
structure Sound (registry : TypeRegistry) : Prop where
  /-- The well-known types come first. -/
  wellKnown :
    WellKnown.types registry.serial registry.environment <+: registry.types
  owned : ∀ t ∈ registry.types, t.owner = registry.serial
  closed : ∀ t ∈ registry.types, ∀ s ∈ t.supertypes, s ∈ registry.types
  /-- Types are numbered from one in order. -/
  numbered : registry.types.map (·.id) =
    (List.range registry.types.length).map
      fun place => ⟨UInt32.ofNat (place + 1)⟩
  next : registry.nextId = UInt32.ofNat (registry.types.length + 1)
  /-- Both indexes have the same entries. -/
  indexed : registry.names = registry.types.map fun t => (t.name, t.id)
  named : (registry.types.map (·.name)).Nodup

theorem sound_new (serial : Nat) (environment : HostEnvironment) :
    (new serial environment).Sound := by
  rw [new_eq]
  exact
    { wellKnown := List.prefix_rfl
      owned := WellKnown.owner_eq serial environment
      closed := fun _ ht _ hs => WellKnown.closed ht hs
      numbered := WellKnown.numbered serial environment
      next := rfl
      indexed := rfl
      named := WellKnown.names_nodup serial environment }

/-- A name is looked up as if the types themselves were searched for it. -/
theorem Sound.lookup_eq (hsound : registry.Sound) (name : String) :
    registry.names.lookup name =
      (registry.types.find? (·.name == name)).map (·.id) := by
  rw [hsound.indexed]
  induction registry.types with
  | nil => rfl
  | cons t rest ih =>
      rw [List.map_cons, List.lookup_cons, ih, List.find?_cons, BEq.comm]
      cases t.name == name <;> rfl

theorem Sound.lookup_eq_none_iff (hsound : registry.Sound) {name : String} :
    registry.names.lookup name = none ↔ ¬ registry.Names name := by
  rw [hsound.lookup_eq, Option.map_eq_none_iff, List.find?_eq_none, Names]
  simp only [beq_iff_eq, not_exists, not_and]

theorem Sound.extended (hsound : registry.Sound) {added : HostType}
    (howner : added.owner = registry.serial)
    (hid : added.id = ⟨registry.nextId⟩)
    (hname : registry.names.lookup added.name = none)
    (hsupertypes : ∀ s ∈ added.supertypes, s ∈ registry.types) :
    (registry.extended added).Sound where
  wellKnown := hsound.wellKnown.trans (List.prefix_append _ _)
  owned := by
    intro t ht
    rcases List.mem_append.mp ht with hold | hnew
    · exact hsound.owned t hold
    · rw [List.mem_singleton.mp hnew, howner]
      rfl
  closed := by
    intro t ht s hs
    apply List.mem_append_left
    rcases List.mem_append.mp ht with hold | hnew
    · exact hsound.closed t hold s hs
    · rw [List.mem_singleton.mp hnew] at hs
      exact hsupertypes s hs
  numbered := by
    simp only [TypeRegistry.extended, List.map_append, List.map_cons,
      List.map_nil, List.length_append, List.length_cons, List.length_nil,
      Nat.zero_add, List.range_succ, hsound.numbered, hid, hsound.next]
  next := by
    simp only [TypeRegistry.extended, hsound.next, List.length_append,
      List.length_cons, List.length_nil, Nat.zero_add, UInt32.ofNat_add]
    rfl
  indexed := by
    simp only [TypeRegistry.extended, hsound.indexed, List.map_append,
      List.map_cons, List.map_nil]
  named := by
    simp only [TypeRegistry.extended, List.map_append, List.map_cons,
      List.map_nil]
    refine List.nodup_append.mpr ⟨hsound.named, List.nodup_singleton _, ?_⟩
    intro name hold other hnew
    obtain ⟨t, ht, rfl⟩ := List.mem_map.mp hold
    rw [List.mem_singleton.mp hnew]
    exact fun hsame => hsound.lookup_eq_none_iff.mp hname ⟨t, ht, hsame⟩

namespace Sound

variable {t u : HostType}

theorem ids_eq (hsound : registry.Sound) :
    registry.types.map (·.id) = (numbers registry.size).map TypeId.mk := by
  rw [hsound.numbered, numbers, List.map_map]
  rfl

/-- Below the limit of numbers, a number tells which type it is. -/
theorem eq_of_id (hsound : registry.Sound) (hsize : registry.size < UInt32.size)
    (ht : t ∈ registry.types) (hu : u ∈ registry.types) (hid : t.id = u.id) :
    t = u := by
  have hnodup : (registry.types.map (·.id)).Nodup := by
    rw [hsound.ids_eq]
    apply List.Nodup.map _ (nodup_numbers (Nat.le_of_lt hsize))
    intro left right hequal
    exact TypeId.mk.inj hequal
  exact List.inj_on_of_nodup_map hnodup ht hu hid

/-- A name tells which type it is. -/
theorem eq_of_name (hsound : registry.Sound) (ht : t ∈ registry.types)
    (hu : u ∈ registry.types) (hname : t.name = u.name) : t = u :=
  List.inj_on_of_nodup_map hsound.named ht hu hname

/-- Below the limit of numbers, the type kept under the number of a type is
that type. -/
theorem find?_id (hsound : registry.Sound) (hsize : registry.size < UInt32.size)
    (ht : t ∈ registry.types) : registry.find? t.id = some t := by
  cases hfind : registry.find? t.id with
  | none =>
      rw [find?, List.find?_eq_none] at hfind
      exact absurd (beq_self_eq_true t.id) (hfind t (List.mem_reverse.mpr ht))
  | some found =>
      obtain ⟨hfound, hid⟩ := of_find? hfind
      rw [hsound.eq_of_id hsize hfound ht hid]

/-- Below the limit of numbers, a name leads to the type that bears it. -/
theorem findNamed?_eq_some_iff (hsound : registry.Sound)
    (hsize : registry.size < UInt32.size) {name : String} :
    registry.findNamed? name = some t ↔ t ∈ registry.types ∧ t.name = name := by
  rw [findNamed?, hsound.lookup_eq]
  constructor
  · intro hfind
    obtain ⟨id, hlookup, hid⟩ := Option.bind_eq_some_iff.mp hfind
    obtain ⟨u, hu, rfl⟩ := Option.map_eq_some_iff.mp hlookup
    have hmem := List.mem_of_find?_eq_some hu
    rw [hsound.find?_id hsize hmem] at hid
    cases hid
    exact ⟨hmem, by simpa only [beq_iff_eq] using List.find?_some hu⟩
  · rintro ⟨ht, rfl⟩
    cases hfind : registry.types.find? (·.name == t.name) with
    | none =>
        rw [List.find?_eq_none] at hfind
        exact absurd (beq_self_eq_true t.name) (hfind t ht)
    | some u =>
        have hname : u.name = t.name := by
          simpa only [beq_iff_eq] using List.find?_some hfind
        rw [hsound.eq_of_name (List.mem_of_find?_eq_some hfind) ht hname]
        exact hsound.find?_id hsize ht

theorem mem_of_always (hsound : registry.Sound)
    (ht : t ∈ WellKnown.always registry.serial) : t ∈ registry.types :=
  hsound.wellKnown.subset (WellKnown.mem_types_of_always ht)

/-- Below the limit of numbers, the well-known names lead to the types that
were set up. -/
theorem findNamed?_always (hsound : registry.Sound)
    (hsize : registry.size < UInt32.size)
    (ht : t ∈ WellKnown.always registry.serial) :
    registry.findNamed? t.name = some t :=
  (hsound.findNamed?_eq_some_iff hsize).mpr ⟨hsound.mem_of_always ht, rfl⟩

/-- What a type of the registry derives from is a type of the registry. -/
theorem mem_of_derives (hsound : registry.Sound) (ht : t ∈ registry.types)
    (hderives : t.Derives u) : u ∈ registry.types := by
  induction hderives with
  | refl => exact ht
  | tail _ hs ih => exact hsound.closed _ ih _ hs

/-- Among the types of one registry, assignability is derivation. -/
theorem isAssignableTo_iff (hsound : registry.Sound) (ht : t ∈ registry.types)
    (hu : u ∈ registry.types) : t.isAssignableTo u = true ↔ t.Derives u := by
  refine ⟨?_, HostType.isAssignableTo_of_derives⟩
  intro hassignable
  obtain ⟨a, hderives, _, hname⟩ := HostType.isAssignableTo_iff.mp hassignable
  rw [← hsound.eq_of_name (hsound.mem_of_derives ht hderives) hu hname]
  exact hderives

end Sound

/-! ## Ownership -/

/-- Only registries make types, so a type that bears the serial number of a
registry is one of its types. -/
def Authentic (registry : TypeRegistry) (t : HostType) : Prop :=
  t.owner = registry.serial → t ∈ registry.types

theorem owns_eq_true_iff {t : HostType} :
    registry.owns t = true ↔ ∃ found, registry.find? t.id = some found ∧
      found.owner = t.owner ∧ found.name = t.name := by
  simp only [owns, Option.any_eq_true, HostType.isSame_iff]

/-- A registry owns what it adds. -/
theorem owns_extended (registry : TypeRegistry) (added : HostType) :
    (registry.extended added).owns added = true := by
  rw [owns_eq_true_iff]
  refine ⟨added, ?_, rfl, rfl⟩
  rw [find?, extended, List.reverse_append]
  simp

namespace Sound

variable {t : HostType}

theorem mem_of_owns (hsound : registry.Sound)
    (hauthentic : registry.Authentic t) (howns : registry.owns t = true) :
    t ∈ registry.types := by
  obtain ⟨found, hfind, howner, _⟩ := owns_eq_true_iff.mp howns
  apply hauthentic
  rw [← howner]
  exact hsound.owned found (of_find? hfind).1

theorem not_owns_of_owner_ne (hsound : registry.Sound)
    (howner : t.owner ≠ registry.serial) : registry.owns t = false := by
  rw [← Bool.not_eq_true, owns_eq_true_iff]
  rintro ⟨found, hfind, hsame, _⟩
  rw [← hsame] at howner
  exact howner (hsound.owned found (of_find? hfind).1)

/-- Below the limit of numbers, a registry owns exactly its types. -/
theorem owns_iff (hsound : registry.Sound) (hsize : registry.size < UInt32.size)
    (hauthentic : registry.Authentic t) :
    registry.owns t = true ↔ t ∈ registry.types := by
  refine ⟨hsound.mem_of_owns hauthentic, fun ht => ?_⟩
  rw [owns_eq_true_iff]
  exact ⟨t, hsound.find?_id hsize ht, rfl, rfl⟩

end Sound

end TypeRegistry

end ScriptHost
