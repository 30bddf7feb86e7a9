import ScriptHost.Proofs.Namespace.RegistrySetup

/-!
# Handles that nobody declared

A grant is made between declared namespaces, which are recognised by name and
number.  Reading is decided by numbers alone.  So a handle that was made up, or
that another registry gave out, reads what the namespace of its number may read,
and is read in its place.
-/

namespace ScriptHost.ModuleRegistry

/-- One registry has a namespace where another one has another, counted in
order of declaration. -/
def SamePlace (theirs ours : ModuleRegistry) (foreign own : Handle) : Prop :=
  ∃ place : Nat, theirs.namespaces[place]? = some foreign ∧
    ours.namespaces[place]? = some own

variable {registry : ModuleRegistry}

namespace Sound

/-- The namespace at a place has the number after the place. -/
theorem id_of_place (hsound : registry.Sound) {place : Nat} {handle : Handle}
    (hplace : registry.namespaces[place]? = some handle) :
    handle.id = UInt32.ofNat (place + 1) := by
  have hnumber : (registry.namespaces.map (·.id))[place]? = some handle.id := by
    rw [List.getElem?_map, hplace]
    rfl
  have hbound : place < registry.namespaces.length :=
    (List.getElem?_eq_some_iff.mp hplace).1
  rw [hsound.numbered, numbers, List.getElem?_map,
    List.getElem?_range hbound] at hnumber
  exact (Option.some.inj hnumber).symm

theorem id_of_samePlace (hsound : registry.Sound) {other : ModuleRegistry}
    (hother : other.Sound) {foreign own : Handle}
    (hplace : SamePlace other registry foreign own) : foreign.id = own.id := by
  obtain ⟨place, hforeign, hown⟩ := hplace
  rw [hother.id_of_place hforeign, hsound.id_of_place hown]

/-- A handle reads of another what the namespaces with their numbers may
read. -/
theorem canRead_iff_exists (hsound : registry.Sound) {reader owner : Handle}
    {package : String} (hother : reader.id ≠ owner.id) :
    registry.canRead reader owner package = true ↔
      ∃ known ∈ registry.namespaces, ∃ holder ∈ registry.namespaces,
        known.id = reader.id ∧ holder.id = owner.id ∧
          registry.canRead known holder package = true := by
  constructor
  · intro hreads
    obtain hsame | hlogged := hsound.canRead_iff.mp hreads
    · exact absurd hsame hother
    · obtain ⟨⟨known, hknown, hknownId⟩, holder, hholder, hholderId⟩ :=
        hsound.known _ hlogged
      refine ⟨known, hknown, holder, hholder, hknownId, hholderId, ?_⟩
      rw [hsound.canRead_iff, hknownId, hholderId]
      exact .inr hlogged
  · rintro ⟨known, _, holder, _, hknown, hholder, hreads⟩
    rw [canRead, hknown, hholder] at hreads
    exact hreads

/-- A handle reads some package of another exactly if the numbers are the same
or a grant was made between the numbers. -/
theorem exists_canRead_iff (hsound : registry.Sound) {reader owner : Handle} :
    (∃ package, registry.canRead reader owner package = true) ↔
      reader.id = owner.id ∨ ∃ grant ∈ registry.grants,
        grant.reader = reader.id ∧ grant.owner = owner.id := by
  simp only [hsound.canRead_iff, exists_or, exists_const]
  refine or_congr_right ⟨?_, ?_⟩
  · rintro ⟨package, hlogged⟩
    exact ⟨_, hlogged, rfl, rfl⟩
  · rintro ⟨⟨_, _, package⟩, hlogged, rfl, rfl⟩
    exact ⟨package, hlogged⟩

/-- A number with the name of another namespace makes a handle that nobody
declared. -/
theorem swapped_not_mem (hsound : registry.Sound) {holder : Handle}
    (hholder : holder ∈ registry.namespaces) {number : UInt32}
    (hother : number ≠ holder.id) :
    (⟨number, holder.name⟩ : Handle) ∉ registry.namespaces := by
  intro hmem
  exact hother (congrArg Handle.id (hsound.eq_of_name hmem hholder rfl))

/-- Reading between namespaces is kept to declared ones only as long as it is
granted to nobody. -/
theorem kept_iff (hsound : registry.Sound) :
    (∀ reader owner package, reader.id ≠ owner.id →
        registry.canRead reader owner package = true →
          reader ∈ registry.namespaces ∧ owner ∈ registry.namespaces) ↔
      ∀ grant ∈ registry.grants, grant.reader = grant.owner := by
  constructor
  · intro hkept grant hlogged
    by_contra hother
    -- The reader's number with the owner's name reads what was granted.
    obtain ⟨_, holder, hholder, hholderId⟩ := hsound.known grant hlogged
    rw [← hholderId] at hother
    refine hsound.swapped_not_mem hholder hother
      (hkept _ holder grant.package hother ?_).1
    rw [hsound.canRead_iff, hholderId]
    exact .inr hlogged
  · intro hown reader owner package hother hreads
    obtain hsame | hlogged := hsound.canRead_iff.mp hreads
    · exact absurd hsame hother
    · exact absurd (hown _ hlogged) hother

end Sound

/-- Reading does not ask whether handles are declared.  At every moment of every
run, a handle reads of another one what the declared namespaces with their
numbers may read, and all packages if the numbers are the same; whether the
names are those of the namespaces does not matter.  So a handle that nobody
declared reads something as soon as a grant was made between the numbers, though
it is refused every grant, and reading is kept to declared namespaces only as
long as none was granted a package of another.  In particular a registry takes
the namespaces of another one for its own ones at the same places. -/
theorem strangers_read_by_number_alone (steps : List SystemStep) :
    let registry := new.run steps
    (∀ reader owner package,
      registry.canRead reader owner package = true ↔
        reader.id = owner.id ∨
          ∃ known ∈ registry.namespaces, ∃ holder ∈ registry.namespaces,
            known.id = reader.id ∧ holder.id = owner.id ∧
              registry.canRead known holder package = true) ∧
    (∀ reader owner,
      ¬ (reader ∈ registry.namespaces ∧ owner ∈ registry.namespaces) →
        ((∃ package, registry.canRead reader owner package = true) ↔
          reader.id = owner.id ∨ ∃ grant ∈ registry.grants,
            grant.reader = reader.id ∧ grant.owner = owner.id) ∧
        ∀ package, (grant reader owner package registry).state = registry ∧
          ∃ fault, (grant reader owner package registry).result =
            .error fault) ∧
    ((∀ reader owner package, reader.id ≠ owner.id →
        registry.canRead reader owner package = true →
          reader ∈ registry.namespaces ∧ owner ∈ registry.namespaces) ↔
      ∀ grant ∈ registry.grants, grant.reader = grant.owner) ∧
    ∀ otherSteps reader owner known holder package,
      SamePlace (new.run otherSteps) registry reader known →
      SamePlace (new.run otherSteps) registry owner holder →
        registry.canRead reader owner package =
          registry.canRead known holder package := by
  intro registry
  have hsound : registry.Sound := sound_new.run steps
  refine ⟨?_, ?_, hsound.kept_iff, ?_⟩
  · intro reader owner package
    by_cases hsame : reader.id = owner.id
    · exact iff_of_true (hsound.canRead_iff.mpr (.inl hsame)) (.inl hsame)
    · rw [or_iff_right hsame]
      exact hsound.canRead_iff_exists hsame
  · intro reader owner hunknown
    refine ⟨hsound.exists_canRead_iff, fun package => ?_⟩
    rw [hsound.grant_of_undeclared package hunknown]
    exact ⟨rfl, _, rfl⟩
  · intro otherSteps reader owner known holder package hreader howner
    have hother : (new.run otherSteps).Sound := sound_new.run otherSteps
    rw [canRead, canRead, hsound.id_of_samePlace hother hreader,
      hsound.id_of_samePlace hother howner]

/-! ## A stranger with the number of a plugin -/

def readingSteps : List SystemStep :=
  pluginSteps ++ [.call (.grant plugin runtimeHandle scriptsPackage)]

def strangerSteps : List SystemStep := [.call (.declare "app.stranger")]

theorem stranger_not_declared :
    stranger ∉ (new.run readingSteps).namespaces := by
  decide

/-- The stranger reads what the plugin of its number was let read, though it is
refused the grant, and so does the namespace that another registry declared. -/
theorem stranger_reads_in_place_of_plugin :
    let registry := new.run readingSteps
    (registry.canRead stranger runtimeHandle scriptsPackage = true ∧
      registry.canRead stranger stranger runtimePackage = true) ∧
    (∃ package, registry.canRead stranger runtimeHandle package = true) ∧
    (∃ fault, (grant stranger runtimeHandle scriptsPackage registry).result =
      .error fault) ∧
    SamePlace (new.run strangerSteps) registry stranger plugin ∧
    SamePlace (new.run strangerSteps) registry runtimeHandle runtimeHandle ∧
    ∀ package, registry.canRead stranger runtimeHandle package =
      registry.canRead plugin runtimeHandle package := by
  intro registry
  obtain ⟨hreads, hunknown, _, hforeign⟩ :=
    strangers_read_by_number_alone readingSteps
  have hstranger : ¬ (stranger ∈ registry.namespaces ∧
      runtimeHandle ∈ registry.namespaces) :=
    fun hdeclared => stranger_not_declared hdeclared.1
  have hplugin : SamePlace (new.run strangerSteps) registry stranger plugin :=
    ⟨1, rfl, rfl⟩
  have hruntime : SamePlace (new.run strangerSteps) registry runtimeHandle
      runtimeHandle := ⟨0, rfl, rfl⟩
  obtain ⟨hsome, hrefused⟩ := hunknown stranger runtimeHandle hstranger
  refine ⟨⟨(hreads _ _ _).mpr (.inr ?_), (hreads _ _ _).mpr (.inl rfl)⟩,
    hsome.mpr (.inr ⟨⟨2, 1, scriptsPackage⟩, by decide, rfl, rfl⟩),
    (hrefused scriptsPackage).2, hplugin, hruntime,
    fun package => hforeign _ _ _ _ _ package hplugin hruntime⟩
  exact ⟨plugin, by decide, runtimeHandle, by decide, rfl, rfl, by decide⟩

/-- Reading is not kept to declared namespaces. -/
theorem reading_not_kept_to_declared_namespaces :
    ¬ ∀ (steps : List SystemStep) (reader owner : Handle) (package : String),
      (new.run steps).canRead reader owner package = true →
        reader ∈ (new.run steps).namespaces ∧
          owner ∈ (new.run steps).namespaces := by
  intro hkept
  exact stranger_not_declared
    (hkept readingSteps stranger runtimeHandle scriptsPackage (by decide)).1

end ScriptHost.ModuleRegistry
