import ScriptHost.Proofs.Structure.LayoutRuns

/-!
# Fallback sources

Fallback sources are asked for names that are no structure names, and for
nothing else.  What they answer is handed on and never kept.  So a synthesizer
with sources does what it would do without any, but for the calls that are left
to the sources, and these leave no trace.
-/

namespace ScriptHost

variable {α β : Type}

/-- The synthesizer to which the given fallback sources were added in order
instead of its own. -/
def Synthesizer.withFallbacks (self : Synthesizer)
    (sources : List LayoutSource) : Synthesizer :=
  sources.foldl withFallback { self with fallbacks := [] }

namespace Synthesizer

variable (self : Synthesizer) (sources : List LayoutSource)

theorem withFallbacks_eq :
    self.withFallbacks sources = { self with fallbacks := sources } :=
  foldl_withFallback sources { self with fallbacks := [] }

theorem fallbacks_withFallbacks :
    (self.withFallbacks sources).fallbacks = sources := by
  rw [withFallbacks_eq]

theorem config_withFallbacks :
    (self.withFallbacks sources).config = self.config := by
  rw [withFallbacks_eq]

theorem published_withFallbacks :
    (self.withFallbacks sources).published = self.published := by
  rw [withFallbacks_eq]

end Synthesizer

/-- The outcome with the given fallback sources in the synthesizer it leaves
behind. -/
def Outcome.withFallbacks (outcome : Outcome Synthesizer α)
    (sources : List LayoutSource) : Outcome Synthesizer α :=
  { outcome with state := outcome.state.withFallbacks sources }

/-! ## Actions that do not look at the sources -/

namespace Action

/-- The action does the same whatever the fallback sources are. -/
def IgnoresFallbacks (action : Action Synthesizer α) : Prop :=
  ∀ self sources, action (self.withFallbacks sources) =
    (action self).withFallbacks sources

theorem ignoresFallbacks_pure (value : α) :
    IgnoresFallbacks (pure value) := by
  intro self sources
  rfl

theorem IgnoresFallbacks.bind {first : Action Synthesizer α}
    {next : α → Action Synthesizer β} (hfirst : first.IgnoresFallbacks)
    (hnext : ∀ value, (next value).IgnoresFallbacks) :
    (first >>= next).IgnoresFallbacks := by
  intro self sources
  have hsame := hfirst self sources
  have hresults : (first (self.withFallbacks sources)).result =
      (first self).result := by rw [hsame]; rfl
  cases hresult : (first self).result with
  | error fault =>
      rw [bind_apply_error hresult, bind_apply_error (hresults.trans hresult),
        hsame]
      rfl
  | ok value =>
      have hrest : next value (first (self.withFallbacks sources)).state =
          (next value (first self).state).withFallbacks sources := by
        rw [hsame]
        exact hnext value (first self).state sources
      rw [bind_apply_ok hresult, bind_apply_ok (hresults.trans hresult), hrest,
        hsame]
      rfl

end Action

/-- The call asks for a name that is left to the fallback sources. -/
def LayoutCall.asksSources : LayoutCall → Bool
  | find name => !isStructureName name
  | _ => false

namespace Synthesizer

theorem ignoresFallbacks_resolve (mode : FieldMode)
    (name descriptor : String) :
    (resolve mode name descriptor).IgnoresFallbacks := by
  intro self sources
  simp only [resolve, withFallbacks_eq, Outcome.withFallbacks]
  cases self.published.find? name with
  | some layout => rfl
  | none =>
      dsimp only
      cases Layout.generate ⟨self.origin, self.generated⟩ mode
          self.config.maxFields name descriptor self.boundary with
      | error fault => rfl
      | ok layout => rfl

theorem ignoresFallbacks_getLayout (descriptor : String) (mode : FieldMode) :
    (getLayout descriptor mode).IgnoresFallbacks :=
  (ignoresFallbacks_resolve mode _ descriptor).bind fun _ =>
    Action.ignoresFallbacks_pure _

theorem ignoresFallbacks_findLayout {name : String}
    (hname : isStructureName name = true) :
    (findLayout name).IgnoresFallbacks := by
  obtain ⟨⟨mode, descriptor⟩, hroute⟩ := isStructureName_iff.mp hname
  have hfind : findLayout name = getLayout descriptor mode :=
    funext (findLayout_apply hroute)
  rw [hfind]
  exact ignoresFallbacks_getLayout descriptor mode

theorem ignoresFallbacks_prewarm (requests : List (String × FieldMode)) :
    (prewarm requests).IgnoresFallbacks := by
  induction requests with
  | nil => exact Action.ignoresFallbacks_pure 0
  | cons request rest ih =>
      exact (ignoresFallbacks_resolve request.2 _ request.1).bind fun _ =>
        ih.bind fun _ => Action.ignoresFallbacks_pure _

theorem ignoresFallbacks_perform {call : LayoutCall}
    (hown : call.asksSources = false) : call.perform.IgnoresFallbacks := by
  have hanswer : ∀ {γ : Type} {action : Action Synthesizer γ}
      {answer : γ → LayoutAnswer}, action.IgnoresFallbacks →
        (action >>= fun value => pure (answer value)).IgnoresFallbacks :=
    fun haction => haction.bind fun _ => Action.ignoresFallbacks_pure _
  cases call with
  | get descriptor mode =>
      exact hanswer (ignoresFallbacks_getLayout descriptor mode)
  | getDefault descriptor =>
      refine hanswer fun self sources => ?_
      rw [getDefaultLayout, config_withFallbacks]
      exact ignoresFallbacks_getLayout descriptor self.config.defaultMode self
        sources
  | find name =>
      rw [LayoutCall.asksSources, Bool.not_eq_false'] at hown
      exact hanswer (ignoresFallbacks_findLayout hown)
  | prewarm requests => exact hanswer (ignoresFallbacks_prewarm requests)

/-! ## Names that are left to the sources -/

/-- The first source that knows the name gives the answer, and if there is none
the name is reported.  Nothing else happens. -/
theorem findLayout_of_not_structureName {name : String}
    (hname : isStructureName name = false) (self : Synthesizer) :
    (∃ earlier source later layout,
      self.fallbacks = earlier ++ source :: later ∧
      (∀ other ∈ earlier, other name = none) ∧
      source name = some layout ∧
      findLayout name self = ⟨.ok layout, self, []⟩) ∨
    ((∀ source ∈ self.fallbacks, source name = none) ∧
      findLayout name self = ⟨.error (.layoutNotFound name), self, []⟩) := by
  have hroute : FieldMode.route name = none := by
    cases hroute : FieldMode.route name with
    | none => rfl
    | some target =>
        rw [isStructureName_iff.mpr ⟨target, hroute⟩] at hname
        cases hname
  rw [findLayout, hroute]
  cases hanswer : self.fallbacks.findSome? (· name) with
  | some layout =>
      obtain ⟨earlier, source, later, hsplit, hsource, hearlier⟩ :=
        List.findSome?_eq_some_iff.mp hanswer
      refine .inl ⟨earlier, source, later, layout, hsplit, hearlier, hsource,
        ?_⟩
      simp only [hanswer]
  | none =>
      refine .inr ⟨List.findSome?_eq_none_iff.mp hanswer, ?_⟩
      simp only [hanswer]

theorem state_perform_of_asksSources {call : LayoutCall}
    (hasks : call.asksSources = true) (self : Synthesizer) :
    (call.perform self).state = self := by
  cases call with
  | find name =>
      rw [LayoutCall.asksSources, Bool.not_eq_true'] at hasks
      rw [LayoutCall.perform, Action.bind_pure_apply]
      rcases findLayout_of_not_structureName hasks self with
        ⟨_, _, _, layout, _, _, _, hfound⟩ | ⟨_, hunknown⟩
      · rw [hfound]
      · rw [hunknown]
  | get descriptor mode => cases hasks
  | getDefault descriptor => cases hasks
  | prewarm requests => cases hasks

/-! ## Whole runs -/

def ownCalls (calls : List LayoutCall) : List LayoutCall :=
  calls.filter fun call => !call.asksSources

/-- Whatever the sources are, a run leaves behind what its own calls leave
behind, and these are answered alike. -/
theorem run_withFallbacks (self : Synthesizer) (sources : List LayoutSource)
    (calls : List LayoutCall) :
    (self.withFallbacks sources).after calls =
        (self.after (ownCalls calls)).withFallbacks sources ∧
      ((self.withFallbacks sources).served calls).filter
          (fun served => !served.call.asksSources) =
        self.served (ownCalls calls) := by
  induction calls generalizing self with
  | nil => exact ⟨rfl, rfl⟩
  | cons call rest ih =>
      cases hasks : call.asksSources with
      | true =>
          have hstate := state_perform_of_asksSources hasks
            (self.withFallbacks sources)
          obtain ⟨hafter, hserved⟩ := ih self
          rw [ownCalls, List.filter_cons_of_neg (by simp [hasks])]
          refine ⟨?_, ?_⟩
          · calc (self.withFallbacks sources).after (call :: rest)
                = (call.perform
                    (self.withFallbacks sources)).state.after rest := rfl
              _ = _ := by rw [hstate]; exact hafter
          · rw [served, List.filter_cons_of_neg (by simp [hasks]), hstate]
            exact hserved
      | false =>
          have hsame := ignoresFallbacks_perform hasks self sources
          obtain ⟨hafter, hserved⟩ := ih (call.perform self).state
          rw [ownCalls, List.filter_cons_of_pos (by simp [hasks])]
          refine ⟨?_, ?_⟩
          · calc (self.withFallbacks sources).after (call :: rest)
                = (call.perform
                    (self.withFallbacks sources)).state.after rest := rfl
              _ = _ := by rw [hsame]; exact hafter
          · rw [served, List.filter_cons_of_pos (by simp [hasks]), hsame]
            exact congrArg (List.cons _) hserved

/-- Setting up a synthesizer does not depend on its sources. -/
theorem new_withFallbacks {σ : Type} (origin : Nat) (host : ModuleHost σ)
    (config : LayoutConfig) (sources : List LayoutSource) (system : σ) :
    (new origin host config sources system).result =
      (new origin host config [] system).result.map
        fun bare => bare.withFallbacks sources := by
  rw [new, new]
  cases hboundary : (Boundary.establish host system).result with
  | error fault =>
      rw [Action.bind_apply_error hboundary, Action.bind_apply_error hboundary]
      rfl
  | ok boundary =>
      rw [Action.bind_apply_ok hboundary, Action.bind_apply_ok hboundary]
      rfl

/-- Fallback sources never interfere with structure layouts.  A synthesizer is
set up with any sources as it is set up without.  At every moment, finding a
structure name does the same as with no sources at all, whatever these know and
also if it fails.  Any other name gets the answer of the first source that knows
it, or is reported if none does, and nothing else happens.  So a run with
sources leaves behind what its own calls leave behind with no sources at all,
and all of these are answered as they are then. -/
theorem fallbacks_never_interfere (sources : List LayoutSource) :
    (∀ (σ : Type) (origin : Nat) (host : ModuleHost σ) (config : LayoutConfig)
      (system : σ), (new origin host config sources system).result =
        (new origin host config [] system).result.map
          fun bare => bare.withFallbacks sources) ∧
    ∀ self : Synthesizer,
      (∀ name, isStructureName name = true →
        findLayout name (self.withFallbacks sources) =
          (findLayout name (self.withFallbacks [])).withFallbacks sources) ∧
      (∀ name, isStructureName name = false →
        (∃ earlier source later layout,
          sources = earlier ++ source :: later ∧
          (∀ other ∈ earlier, other name = none) ∧
          source name = some layout ∧
          findLayout name (self.withFallbacks sources) =
            ⟨.ok layout, self.withFallbacks sources, []⟩) ∨
        ((∀ source ∈ sources, source name = none) ∧
          findLayout name (self.withFallbacks sources) =
            ⟨.error (.layoutNotFound name), self.withFallbacks sources,
              []⟩)) ∧
      ∀ calls : List LayoutCall,
        (self.withFallbacks sources).after calls =
          ((self.withFallbacks []).after (ownCalls calls)).withFallbacks
            sources ∧
        ((self.withFallbacks sources).served calls).filter
            (fun served => !served.call.asksSources) =
          (self.withFallbacks []).served (ownCalls calls) ∧
        ((self.withFallbacks sources).after calls).layouts =
          ((self.withFallbacks []).after (ownCalls calls)).layouts ∧
        ∀ name, ((self.withFallbacks sources).after calls).contains name =
          ((self.withFallbacks []).after (ownCalls calls)).contains name := by
  refine ⟨fun σ origin host config system =>
    new_withFallbacks origin host config sources system, fun self =>
      ⟨fun name hname => ?_, fun name hname => ?_, fun calls => ?_⟩⟩
  · exact ignoresFallbacks_findLayout hname (self.withFallbacks []) sources
  · have hfound :=
      findLayout_of_not_structureName hname (self.withFallbacks sources)
    rwa [fallbacks_withFallbacks] at hfound
  · have hafter : (self.withFallbacks sources).after calls =
        ((self.withFallbacks []).after (ownCalls calls)).withFallbacks sources :=
      (run_withFallbacks (self.withFallbacks []) sources calls).1
    refine ⟨hafter, ?_, ?_, fun name => ?_⟩
    · exact (run_withFallbacks (self.withFallbacks []) sources calls).2
    · rw [hafter, layouts, published_withFallbacks]
      rfl
    · rw [hafter, contains, published_withFallbacks]
      rfl

/-- The layout that another synthesizer generated under a structure name. -/
def impostor : Layout :=
  let shape : Shape := ⟨[.object, .int]⟩
  ⟨⟨7, 0⟩, "strata.structures.Dual$OI", shape, .dual,
    FieldSlot.plan .dual shape, ⟨2, structuresNamespace⟩⟩

/-- A source that answers every name with that layout is asked for other names
only, and its answers are not kept. -/
theorem impostor_answers_other_names_only :
    ∃ start : Synthesizer,
      (new 0 .ofRegistry .default [fun _ => some impostor]
        ModuleRegistry.new).result = .ok start ∧
      (findLayout "app.Point" start).result = .ok impostor ∧
      (findLayout "strata.structures.Dual$OI" start).result =
        (findLayout "strata.structures.Dual$OI"
          (start.withFallbacks [])).result ∧
      (start.after [.find "app.Point",
          .find "strata.structures.Dual$OI"]).layouts =
        ((start.withFallbacks []).after
          [.find "strata.structures.Dual$OI"]).layouts := by
  obtain ⟨hsetup, hself⟩ := fallbacks_never_interfere [fun _ => some impostor]
  obtain ⟨bare, hbare⟩ : ∃ bare,
      (new 0 .ofRegistry .default [] ModuleRegistry.new).result = .ok bare :=
    ⟨_, rfl⟩
  obtain ⟨hstructure, hother, hruns⟩ := hself bare
  refine ⟨bare.withFallbacks [fun _ => some impostor], ?_, ?_, ?_, ?_⟩
  · rw [hsetup, hbare]
    rfl
  · rcases hother "app.Point" (by decide +kernel) with
      ⟨_, source, _, _, hsplit, _, hsource, hfound⟩ | ⟨hnone, _⟩
    · have hmem : source ∈ [fun _ : String => some impostor] := by
        rw [hsplit]
        exact List.mem_append_right _ List.mem_cons_self
      rw [List.mem_singleton.mp hmem] at hsource
      cases hsource
      exact congrArg Outcome.result hfound
    · cases hnone _ (List.mem_singleton_self _)
  · rw [hstructure "strata.structures.Dual$OI" (by decide +kernel)]
    rfl
  · have hown : ownCalls [.find "app.Point",
        .find "strata.structures.Dual$OI"] =
          [.find "strata.structures.Dual$OI"] := by decide +kernel
    obtain ⟨_, _, hlayouts, _⟩ := hruns [.find "app.Point",
      .find "strata.structures.Dual$OI"]
    rw [hlayouts, hown]
    rfl

end Synthesizer

end ScriptHost
