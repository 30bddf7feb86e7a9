import ScriptHost.Linking.Pipeline
import ScriptHost.Proofs.Access.Worlds
import ScriptHost.Proofs.HostType.Growth

/-!
# Links used again

An invocation remembers the number of the type it was linked against, and a
registry gives its types numbers by their place in the order of definition.  So
a link is used again for the type itself, and also for the type at the same
place of any other registry.
-/

namespace ScriptHost

/-! ## Numbers and places -/

namespace TypeRegistry.Sound

variable {registry other : TypeRegistry} {place : Nat} {t u : HostType}

/-- Below the limit of numbers, a type bears the number of its place. -/
theorem number_of_place (hsound : registry.Sound)
    (hsize : registry.size < UInt32.size)
    (hplace : registry.types[place]? = some t) :
    t.id.value.toNat = place + 1 := by
  have hlt : place < registry.size := (List.getElem?_eq_some_iff.mp hplace).1
  have hnumber : (registry.types.map (fun t => t.id.value.toNat))[place]? =
      some t.id.value.toNat := by
    rw [List.getElem?_map, hplace]
    rfl
  rw [hsound.numbers_eq hsize, List.getElem?_range' hlt] at hnumber
  have hvalue := Option.some.inj hnumber
  omega

/-- Types of two registries bear the same number exactly if they stand at the
same place. -/
theorem id_eq_iff_place (hsound : registry.Sound)
    (hsize : registry.size < UInt32.size) (hother : other.Sound)
    (hotherSize : other.size < UInt32.size)
    (hplace : registry.types[place]? = some t) (hu : u ∈ other.types) :
    u.id = t.id ↔ other.types[place]? = some u := by
  have hnumber := hsound.number_of_place hsize hplace
  constructor
  · intro hid
    obtain ⟨found, hfound⟩ := List.mem_iff_getElem?.mp hu
    have hfoundNumber := hother.number_of_place hotherSize hfound
    have hsame : found = place := by
      rw [hid] at hfoundNumber
      omega
    rw [← hsame]
    exact hfound
  · intro hfound
    have hfoundNumber := hother.number_of_place hotherSize hfound
    have hvalue : u.id.value = t.id.value :=
      UInt32.toNat_inj.mp (hfoundNumber.trans hnumber.symm)
    exact congrArg TypeId.mk hvalue

end TypeRegistry.Sound

variable {environments : Nat → HostEnvironment}
variable {made : Nat → List ServedTypeCall} {world : World}

/-! ## Where a link is used again -/

/-- A link is used again by place.  In its own registry it is used again for
the type it was made for and no other.  In any other registry it is used again
for the type at the same place, which is a different type; so the link keeps to
its type exactly if no other registry has as many types. -/
theorem link_reused_by_place_in_registry
    (hrun : WorldRun environments made world)
    (hsize : ∀ serial, (world.registries serial).size < UInt32.size)
    (linker : String) (request : LinkRequest) {home place : Nat}
    (htarget : (world.registries home).types[place]? = some request.target) :
    let invocation := Invocation.ofRequest linker request
    (∀ receiver ∈ (world.registries home).types,
      invocation.isValidFor receiver = true ↔ receiver = request.target) ∧
    (∀ other, other ≠ home → ∀ receiver ∈ (world.registries other).types,
      receiver ≠ request.target ∧
      (invocation.isValidFor receiver = true ↔
        (world.registries other).types[place]? = some receiver)) ∧
    ((∀ receiver, world.Has receiver →
        (invocation.isValidFor receiver = true ↔
          receiver = request.target)) ↔
      ∀ other, other ≠ home → (world.registries other).size ≤ place) := by
  intro invocation
  have hmem : request.target ∈ (world.registries home).types :=
    List.mem_of_getElem? htarget
  have hvalid : ∀ serial, ∀ receiver ∈ (world.registries serial).types,
      (invocation.isValidFor receiver = true ↔
        (world.registries serial).types[place]? = some receiver) := by
    intro serial receiver hreceiver
    rw [Invocation.isValidFor, beq_iff_eq]
    exact (hrun.typeRun home).sound.id_eq_iff_place (hsize home)
      (hrun.typeRun serial).sound (hsize serial) htarget hreceiver
  have hown : ∀ receiver ∈ (world.registries home).types,
      (invocation.isValidFor receiver = true ↔
        receiver = request.target) := by
    intro receiver hreceiver
    rw [hvalid home receiver hreceiver, htarget, Option.some.injEq, eq_comm]
  have hforeign : ∀ other, other ≠ home →
      ∀ receiver ∈ (world.registries other).types,
        receiver ≠ request.target := by
    rintro other hother receiver hreceiver rfl
    exact hother ((hrun.owner_eq hreceiver).symm.trans (hrun.owner_eq hmem))
  refine ⟨hown, fun other hother receiver hreceiver =>
    ⟨hforeign other hother receiver hreceiver,
      hvalid other receiver hreceiver⟩, ?_, ?_⟩
  · intro hkeeps other hother
    by_contra hlonger
    have hplace : place < (world.registries other).types.length :=
      Nat.lt_of_not_le hlonger
    have hstands := List.getElem?_eq_getElem hplace
    have hreceiver := List.getElem_mem hplace
    apply hforeign other hother _ hreceiver
    rw [← hkeeps _ ⟨other, hreceiver⟩, hvalid other _ hreceiver]
    exact hstands
  · rintro hshorter receiver ⟨serial, hreceiver⟩
    by_cases hserial : serial = home
    · subst hserial
      exact hown receiver hreceiver
    · rw [hvalid serial receiver hreceiver,
        List.getElem?_eq_none (hshorter serial hserial)]
      exact iff_of_false nofun (hforeign serial hserial receiver hreceiver)

/-! ## A link of a point used for a class loader -/

def point : HostType :=
  WellKnown.make 0 14 "app.Point" (some (WellKnown.object 0)) [] .none

def pluginLoader : HostType :=
  WellKnown.make 1 14 "app.Loader" (some (WellKnown.classLoader 1)) [] .none

def definePoint : TypeCall := .define "app.Point" none [] .none

def defineLoader : TypeCall :=
  .define "app.Loader" (some (WellKnown.classLoader 1)) [] .none

/-- A world of full hosts in which each of two registries has defined one
type. -/
def pointWorld : World := .twoCalled definePoint defineLoader

def pointCalls : Nat → List ServedTypeCall :=
  Function.update
    (Function.update (fun _ => []) 0 [⟨definePoint, .ok point⟩])
    1 [⟨defineLoader, .ok pluginLoader⟩]

def pointRequest : LinkRequest := ⟨point, .getProperty, some "x", false⟩

theorem pointWorld_run : WorldRun (fun _ => .full) pointCalls pointWorld := by
  apply (WorldRun.start.call 0 definePoint nofun).call 1 defineLoader
  intro t ht
  rw [List.mem_singleton.mp ht]
  refine ⟨1, ?_⟩
  rw [World.registries_afterCall_of_ne Nat.one_ne_zero]
  dsimp only
  exact TypeRun.start.mem_of_always (WellKnown.classLoader_mem_always 1)

theorem pointWorld_size (serial : Nat) :
    (pointWorld.registries serial).size < UInt32.size :=
  World.size_lt_twoCalled (by decide +kernel) (by decide +kernel) serial

theorem pluginLoader_mem : pluginLoader ∈ (pointWorld.registries 1).types :=
  List.mem_append_right _ (List.mem_singleton_self _)

theorem point_place :
    (pointWorld.registries 0).types[13]? = some pointRequest.target := rfl

/-- Each of the two types is the fourteenth of its registry, and so the link
that was made for one is used again for the other. -/
theorem pointLink_reused_for_pluginLoader :
    (pointWorld.registries 0).types[13]? = some point ∧
      (pointWorld.registries 1).types[13]? = some pluginLoader ∧
      pluginLoader ≠ point ∧
      (Invocation.ofRequest "beans" pointRequest).isValidFor pluginLoader =
        true := by
  obtain ⟨_, hother, _⟩ := link_reused_by_place_in_registry pointWorld_run
    pointWorld_size "beans" pointRequest point_place
  obtain ⟨hdifferent, hvalid⟩ :=
    hother 1 Nat.one_ne_zero pluginLoader pluginLoader_mem
  exact ⟨rfl, rfl, hdifferent, hvalid.mpr rfl⟩

/-- A link does not keep to the type it was made for. -/
theorem link_not_kept_to_its_type :
    ¬ ∀ (environments : Nat → HostEnvironment)
        (made : Nat → List ServedTypeCall) (world : World),
      WorldRun environments made world →
        (∀ serial, (world.registries serial).size < UInt32.size) →
        ∀ (linker : String) (request : LinkRequest),
          world.Has request.target → ∀ receiver, world.Has receiver →
            ((Invocation.ofRequest linker request).isValidFor receiver = true ↔
              receiver = request.target) := by
  intro hkept
  have hsame : pluginLoader = point :=
    (hkept _ _ _ pointWorld_run pointWorld_size "beans" pointRequest
      ⟨0, List.mem_of_getElem? point_place⟩ pluginLoader
      ⟨1, pluginLoader_mem⟩).mp rfl
  have hname : "app.Loader" = "app.Point" := congrArg HostType.name hsame
  revert hname
  decide

end ScriptHost
