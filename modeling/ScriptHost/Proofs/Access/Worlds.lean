import ScriptHost.Proofs.Access.DispatchRuns

/-!
# Worlds of several registries

A world has a registry for each serial number, and any number of classifiers,
each of them made for one of the registries.  Types are added to any registry,
classifiers are made and asked, all in any order, and a call may refer to any
type that some registry has.  Seen from one registry a run of the world is a
run of that registry, and seen from one classifier it is a run before a guard:
what is done elsewhere does not show there.
-/

namespace ScriptHost

/-- Registries by serial number, and classifiers, each with the serial number
of the registry it was made for. -/
structure World where
  registries : Nat → TypeRegistry
  classifiers : List (Nat × Classifier)

namespace World

def Has (world : World) (t : HostType) : Prop :=
  ∃ serial, t ∈ (world.registries serial).types

def afterCall (world : World) (serial : Nat) (call : TypeCall) : World :=
  { world with
    registries := Function.update world.registries serial
      (call.perform (world.registries serial)).state }

def withClassifier (world : World) (serial : Nat) (classifier : Classifier) :
    World :=
  { world with classifiers := world.classifiers ++ [(serial, classifier)] }

theorem registries_withClassifier (world : World) (serial : Nat)
    (classifier : Classifier) :
    (world.withClassifier serial classifier).registries = world.registries :=
  rfl

theorem registries_afterCall_of_ne {world : World} {serial other : Nat}
    (hdistinct : other ≠ serial) (call : TypeCall) :
    (world.afterCall serial call).registries other = world.registries other :=
  Function.update_of_ne hdistinct _ _

/-- The world after a question to the classifier at a place.  Every question
about a type makes the classifier look the type up, and nothing else. -/
def afterQuestion (world : World) (place serial : Nat)
    (classifier : Classifier) (t : HostType) : World :=
  { world with
    classifiers := world.classifiers.set place
      (serial, (classifier.lookup (world.registries serial) t).2) }

/-- A world of full hosts after a call on each of the first two registries. -/
def twoCalled (first second : TypeCall) : World :=
  (World.afterCall ⟨fun serial => .new serial .full, []⟩ 0 first).afterCall 1
    second

/-- No registry of that world has run out of numbers if the first two have
not. -/
theorem size_lt_twoCalled {first second : TypeCall}
    (hfirst : ((twoCalled first second).registries 0).size < UInt32.size)
    (hsecond : ((twoCalled first second).registries 1).size < UInt32.size)
    (serial : Nat) :
    ((twoCalled first second).registries serial).size < UInt32.size := by
  match serial with
  | 0 => exact hfirst
  | 1 => exact hsecond
  | serial + 2 =>
      rw [twoCalled, registries_afterCall_of_ne (Nat.succ_succ_ne_one serial),
        registries_afterCall_of_ne (Nat.succ_ne_zero _)]
      have hnew : (TypeRegistry.new (serial + 2) .full).size = 13 := by
        rw [TypeRegistry.new_eq]
        rfl
      rw [hnew]
      decide

end World

/-- A sequence of calls and questions, what was called on each registry, the
latest first, and the world they lead to. -/
inductive WorldRun (environments : Nat → HostEnvironment) :
    (Nat → List ServedTypeCall) → World → Prop where
  | start : WorldRun environments (fun _ => [])
      ⟨fun serial => .new serial (environments serial), []⟩
  | call {made : Nat → List ServedTypeCall} {world : World}
      (hrun : WorldRun environments made world) (serial : Nat)
      (call : TypeCall) (hargs : ∀ t ∈ call.arguments, world.Has t) :
      WorldRun environments
        (Function.update made serial
          (⟨call, (call.perform (world.registries serial)).result⟩ ::
            made serial))
        (world.afterCall serial call)
  | classifier {made : Nat → List ServedTypeCall} {world : World}
      (hrun : WorldRun environments made world) {serial : Nat} {keeps : Bool}
      {classifier : Classifier}
      (hnew : Classifier.new (world.registries serial) keeps =
        .ok classifier) :
      WorldRun environments made (world.withClassifier serial classifier)
  | question {made : Nat → List ServedTypeCall} {world : World}
      (hrun : WorldRun environments made world) {place serial : Nat}
      {classifier : Classifier}
      (hplace : world.classifiers[place]? = some (serial, classifier))
      {t : HostType} (ht : world.Has t) :
      WorldRun environments made
        (world.afterQuestion place serial classifier t)

namespace WorldRun

variable {environments : Nat → HostEnvironment}
variable {made : Nat → List ServedTypeCall} {world : World} {t : HostType}

/-- In a family of runs, one for each registry, a type that some registry has
is one that no other registry takes for its own. -/
theorem authentic_of_runs {registries : Nat → TypeRegistry}
    (hruns : ∀ serial, TypeRun serial (environments serial) (made serial)
      (registries serial))
    {owner : Nat} (ht : t ∈ (registries owner).types) (serial : Nat) :
    (registries serial).Authentic t := by
  intro howner
  rw [(hruns owner).sound.owned t ht, (hruns owner).serial_eq,
    (hruns serial).serial_eq] at howner
  rw [← howner]
  exact ht

/-- Seen from one registry, a run of the world is a run of the registry. -/
theorem typeRun (hrun : WorldRun environments made world) (serial : Nat) :
    TypeRun serial (environments serial) (made serial)
      (world.registries serial) := by
  induction hrun generalizing serial with
  | start =>
      dsimp only
      exact .start
  | @call made world _ target call hargs ih =>
      by_cases htarget : serial = target
      · subst htarget
        simp only [World.afterCall, Function.update_self]
        refine (ih serial).call call fun t ht => ?_
        obtain ⟨owner, howner⟩ := hargs t ht
        exact authentic_of_runs ih howner serial
      · simp only [World.afterCall, Function.update_of_ne htarget]
        exact ih serial
  | classifier _ _ ih => exact ih serial
  | question _ _ _ ih => exact ih serial

/-- A type bears the serial number of the registry that has it. -/
theorem owner_eq (hrun : WorldRun environments made world) {serial : Nat}
    (ht : t ∈ (world.registries serial).types) : t.owner = serial := by
  have htypes := hrun.typeRun serial
  exact (htypes.sound.owned t ht).trans htypes.serial_eq

/-- Every type of the world is in the registry whose serial number it bears. -/
theorem authentic (hrun : WorldRun environments made world)
    (ht : world.Has t) (serial : Nat) :
    (world.registries serial).Authentic t := by
  obtain ⟨owner, howner⟩ := ht
  exact authentic_of_runs hrun.typeRun howner serial

/-- Seen from one classifier, a run of the world is a run before a guard that
was set up when the classifier was made. -/
theorem dispatchRun (hrun : WorldRun environments made world) {serial : Nat}
    {classifier : Classifier}
    (hmem : (serial, classifier) ∈ world.classifiers) :
    ∃ before opening keeps served,
      TypeRun serial (environments serial) before opening ∧
      DispatchRun opening keeps Empty.elim served
        ⟨world.registries serial, classifier, Empty.elim⟩ := by
  induction hrun generalizing serial classifier with
  | start => cases hmem
  | @call made world hbefore target call hargs ih =>
      obtain ⟨before, opening, keeps, served, hopening, hserved⟩ := ih hmem
      refine ⟨before, opening, keeps, ?_⟩
      by_cases htarget : serial = target
      · subst htarget
        have hcall := hserved.call (.types call) fun t ht =>
          hbefore.authentic (hargs t ht) serial
        rw [(DispatchCall.perform_types call _).2] at hcall
        simp only [World.afterCall, Function.update_self]
        exact ⟨_, hopening, hcall⟩
      · simp only [World.afterCall, Function.update_of_ne htarget]
        exact ⟨served, hopening, hserved⟩
  | @classifier made world hbefore target keeps made hnew ih =>
      rcases List.mem_append.mp hmem with hold | hlast
      · exact ih hold
      · cases List.mem_singleton.mp hlast
        exact ⟨_, _, keeps, [], hbefore.typeRun target, .opened hnew⟩
  | @question made world hbefore place target asked hplace t ht ih =>
      rcases List.mem_or_eq_of_mem_set hmem with hold | hnew
      · exact ih hold
      · cases hnew
        obtain ⟨before, opening, keeps, served, hopening, hserved⟩ :=
          ih (List.mem_of_getElem? hplace)
        exact ⟨before, opening, keeps, _, hopening,
          hserved.call (.categoryOf t) (List.forall_mem_singleton.mpr
            (hbefore.authentic ht target))⟩

/-- Below the limit of numbers, a classifier answers as the anchors of its
registry at some moment would classify afresh. -/
theorem lookup_eq_classify (hrun : WorldRun environments made world)
    {serial : Nat} (hsize : (world.registries serial).size < UInt32.size)
    {classifier : Classifier}
    (hmem : (serial, classifier) ∈ world.classifiers) (ht : world.Has t) :
    ∃ before opening anchors,
      TypeRun serial (environments serial) before opening ∧
      opening.size ≤ (world.registries serial).size ∧
      Anchors.ofRegistry opening = .ok anchors ∧
      (classifier.lookup (world.registries serial) t).1 =
        anchors.classify (world.registries serial) t := by
  obtain ⟨before, opening, keeps, served, hopening, hserved⟩ :=
    hrun.dispatchRun hmem
  exact ⟨before, opening, _, hopening,
    (hserved.grew hopening hsize).ext.size_le, hserved.anchors_eq,
    hserved.lookup_eq hopening (fun _ => hsize) (hrun.authentic ht serial)⟩

end WorldRun

end ScriptHost
