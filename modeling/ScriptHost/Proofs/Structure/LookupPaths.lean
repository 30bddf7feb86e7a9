import ScriptHost.Proofs.Structure.LayoutRuns

/-!
# Ways to ask for one layout

A layout can be asked for by its descriptor and mode, by its descriptor alone
if the mode is the configured one, or by its structure name.  A structure name
and the mode and descriptor it is made of determine each other, so all ways
lead to one request, and in a run one may stand for the other.
-/

namespace ScriptHost

/-- The calls are the same, or they ask for the same layout. -/
def LayoutCall.AsksAs (defaultMode : FieldMode) (call other : LayoutCall) :
    Prop :=
  call = other ∨ ∃ target, call.target? defaultMode = some target ∧
    other.target? defaultMode = some target

namespace Synthesizer

variable {self : Synthesizer}

/-- A call does what any other call for the same layout does. -/
theorem perform_eq_of_asksAs {call other : LayoutCall}
    (hasks : call.AsksAs self.config.defaultMode other) :
    call.perform self = other.perform self := by
  rcases hasks with rfl | ⟨⟨mode, descriptor⟩, hcall, hother⟩
  · rfl
  · rw [perform_of_target? hcall, perform_of_target? hother]

/-- Runs whose calls ask for the same layouts one by one end alike. -/
theorem run_eq_of_asksAs {calls others : List LayoutCall}
    (hasks : List.Forall₂ (LayoutCall.AsksAs self.config.defaultMode) calls
      others) :
    self.after calls = self.after others ∧
      (self.served calls).map (·.result) =
        (self.served others).map (·.result) := by
  induction calls generalizing self others with
  | nil =>
      cases hasks
      exact ⟨rfl, rfl⟩
  | cons call rest ih =>
      cases hasks with
      | @cons _ other _ otherRest hhead hrest =>
          have hstep := perform_eq_of_asksAs hhead
          have hconfig := (extends_perform other self).config
          rw [← hconfig] at hrest
          obtain ⟨hafter, hserved⟩ := ih hrest
          rw [← hstep] at hafter hserved
          refine ⟨?_, ?_⟩
          · calc self.after (call :: rest)
                = (call.perform self).state.after rest := rfl
              _ = (call.perform self).state.after otherRest := hafter
              _ = self.after (other :: otherRest) := by rw [hstep]; rfl
          · simp only [served, List.map_cons]
            rw [hserved, hstep]

/-- Structure names and what they stand for are interchangeable.  Routing a
name and making the canonical name are inverse to each other, for every text;
so a canonical name determines mode and descriptor together, the three tests of
names say what routing says, and no name belongs to both modes.  At every
moment, asking for a structure name and asking for its descriptor and mode end
in the same outcome, and runs whose calls ask for the same in different ways
give the same results and leave the same synthesizer. -/
theorem names_and_targets_interchangeable :
    (∀ name mode descriptor, FieldMode.route name = some (mode, descriptor) ↔
      name = mode.canonicalName descriptor) ∧
    (Function.Injective fun target : FieldMode × String =>
      target.1.canonicalName target.2) ∧
    (∀ name,
      (isDualName name = true ↔
        ∃ descriptor, FieldMode.route name = some (.dual, descriptor)) ∧
      (isSingleName name = true ↔
        ∃ descriptor, FieldMode.route name = some (.single, descriptor)) ∧
      (isStructureName name = true ↔
        ∃ target, FieldMode.route name = some target) ∧
      ¬ (isDualName name = true ∧ isSingleName name = true)) ∧
    ∀ self : Synthesizer,
      (∀ mode descriptor, findLayout (mode.canonicalName descriptor) self =
        getLayout descriptor mode self) ∧
      ∀ calls others, List.Forall₂
          (LayoutCall.AsksAs self.config.defaultMode) calls others →
        self.after calls = self.after others ∧
          (self.served calls).map (·.result) =
            (self.served others).map (·.result) := by
  refine ⟨fun _ _ _ => FieldMode.route_eq_some_iff, ?_, fun name => ?_,
    fun self => ⟨fun mode descriptor => ?_, fun _ _ => run_eq_of_asksAs⟩⟩
  · intro left right heq
    exact FieldMode.canonicalName_injective heq
  · exact ⟨FieldMode.hasStem_stem_iff, FieldMode.hasStem_stem_iff,
      isStructureName_iff, not_isDualName_and_isSingleName name⟩
  · exact findLayout_apply (FieldMode.route_canonicalName mode descriptor) self

/-- A new layout, one that is reused and a fault, each asked for in two ways. -/
theorem run_spelled_in_two_ways :
    ∃ start : Synthesizer,
      (new 0 .ofRegistry .default [] ModuleRegistry.new).result = .ok start ∧
        start.after [.getDefault "OI", .find "strata.structures.Dual$OI",
            .get "X?" .single] =
          start.after [.find "strata.structures.Dual$OI", .get "OI" .dual,
            .find "strata.structures.Single$X?"] ∧
        (start.served [.getDefault "OI", .find "strata.structures.Dual$OI",
            .get "X?" .single]).map (·.result) =
          (start.served [.find "strata.structures.Dual$OI", .get "OI" .dual,
            .find "strata.structures.Single$X?"]).map (·.result) := by
  have hstart : (new 0 .ofRegistry .default [] ModuleRegistry.new).result =
      .ok ⟨0, ⟨⟨2, structuresNamespace⟩, ModuleRegistry.runtimeHandle,
        [scriptsPackage, runtimePackage], true, []⟩, .default, .empty, [],
        0⟩ := rfl
  obtain ⟨_, _, _, hruns⟩ := names_and_targets_interchangeable
  refine ⟨_, hstart, (hruns _).2 _ _ (.cons ?_ (.cons ?_ (.cons ?_ .nil)))⟩
  · exact .inr ⟨_, rfl, FieldMode.route_canonicalName .dual "OI"⟩
  · exact .inr ⟨_, FieldMode.route_canonicalName .dual "OI", rfl⟩
  · exact .inr ⟨_, rfl, FieldMode.route_canonicalName .single "X?"⟩

/-- A descriptor may itself begin with a stem: the name is routed by the first
one only. -/
example : FieldMode.route "strata.structures.Dual$strata.structures.Single$O" =
    some (.dual, "strata.structures.Single$O") := by
  decide +kernel

end Synthesizer

end ScriptHost
