import ScriptHost.Proofs.Namespace.TrustSetup

/-!
# Setups on a module registry

A module registry answers a setup well as long as the layouts' namespace is
not declared, and the setup then declares it.  So on one registry a single
setup ever succeeds, whatever else happens to the registry.
-/

namespace ScriptHost

/-! ## Building bridges on a registry -/

/-- The call in the form in which it may change a module registry. -/
def HostCall.moduleCall? : HostCall → Option ModuleCall
  | declare name => some (.declare name)
  | grant reader owner package => some (.grant reader owner package)
  | runtime => none
  | canRead _ _ _ => none

namespace ModuleRegistry

variable {registry : ModuleRegistry}

/-- On a registry, a call on a module system is a call on the registry or
leaves it alone. -/
theorem answer_ofRegistry (call : HostCall) (registry : ModuleRegistry) :
    (ModuleHost.ofRegistry.answer call registry).2 =
      registry.after call.moduleCall?.toList := by
  cases call with
  | runtime => rfl
  | canRead reader owner package => rfl
  | declare name =>
      exact (congrArg Outcome.state
        (Action.bind_pure_apply (declare name) _ registry)).symm
  | grant reader owner package =>
      exact (congrArg Outcome.state (Action.bind_pure_apply
        (grant reader owner package) _ registry)).symm

theorem afterCalls_ofRegistry (calls : List HostCall)
    (registry : ModuleRegistry) :
    ModuleHost.ofRegistry.afterCalls calls registry =
      registry.after (calls.filterMap (·.moduleCall?)) := by
  induction calls generalizing registry with
  | nil => rfl
  | cons call rest ih =>
      rw [ModuleHost.afterCalls_cons, answer_ofRegistry, ih, ← after_append,
        List.filterMap_cons]
      cases call.moduleCall? <;> rfl

namespace Sound

/-- A registry allows bridges between declared namespaces. -/
theorem obliges_bridge (hsound : registry.Sound) {bridge : Bridge}
    (hreader : bridge.reader ∈ registry.namespaces)
    (howner : bridge.owner ∈ registry.namespaces) :
    ModuleHost.ofRegistry.Obliges bridge.calls registry ∧
      ModuleHost.ofRegistry.afterCalls bridge.calls registry =
        registry.granting bridge.grant := by
  obtain ⟨hresult, hstate⟩ :=
    hsound.grant_of_declared hreader howner bridge.package
  have hgranted : ModuleHost.ofRegistry.answer
      (.grant bridge.reader bridge.owner bridge.package) registry =
        (.granted, registry.granting bridge.grant) := by
    rw [ModuleHost.answer]
    exact Prod.ext (congrArg (HostAnswer.ofResult _) hresult) hstate
  refine ⟨?_, congrArg Prod.snd hgranted⟩
  rw [Bridge.calls, ModuleHost.obliges_cons, ModuleHost.obliges_cons,
    hgranted]
  refine ⟨trivial, ?_, ModuleHost.obliges_nil _⟩
  change (registry.granting bridge.grant).canRead bridge.reader bridge.owner
    bridge.package = true
  rw [canRead, Bool.or_eq_true, decide_eq_true_iff]
  exact .inr (mem_inForce_granting.mpr (.inl rfl))

/-- Of other grants the same ones are new after a grant as before. -/
theorem filter_grants_granting (hsound : registry.Sound) {grant : ReadGrant}
    {others : List ReadGrant} (hother : grant ∉ others) :
    others.filter (· ∉ (registry.granting grant).grants) =
      others.filter (· ∉ registry.grants) := by
  apply List.filter_congr
  intro other hmem
  have hdifferent : other ≠ grant := by
    rintro rfl
    exact hother hmem
  rw [hsound.grants_granting, decide_eq_decide, List.mem_append,
    List.mem_filter, List.mem_singleton]
  exact not_congr (or_iff_left fun hsame => hdifferent hsame.1)

/-- It allows any number of them, and logs what was not logged before. -/
theorem obliges_bridges (hsound : registry.Sound) {bridges : List Bridge}
    (hdeclared : ∀ bridge ∈ bridges, bridge.reader ∈ registry.namespaces ∧
      bridge.owner ∈ registry.namespaces)
    (hdistinct : (bridges.map Bridge.grant).Nodup) :
    ModuleHost.ofRegistry.Obliges (bridges.flatMap Bridge.calls) registry ∧
      (ModuleHost.ofRegistry.afterCalls (bridges.flatMap Bridge.calls)
        registry).namespaces = registry.namespaces ∧
      (ModuleHost.ofRegistry.afterCalls (bridges.flatMap Bridge.calls)
        registry).grants = registry.grants ++
          (bridges.map Bridge.grant).filter (· ∉ registry.grants) := by
  induction bridges generalizing registry with
  | nil =>
      refine ⟨ModuleHost.obliges_nil _, rfl, ?_⟩
      exact (List.append_nil _).symm
  | cons bridge rest ih =>
      obtain ⟨⟨hreader, howner⟩, hrest⟩ := List.forall_mem_cons.mp hdeclared
      rw [List.map_cons, List.nodup_cons] at hdistinct
      obtain ⟨hgood, hstate⟩ := hsound.obliges_bridge hreader howner
      have hnames : (registry.granting bridge.grant).namespaces =
          registry.namespaces := namespaces_granting _ _
      rw [← hnames] at hrest
      obtain ⟨hrestGood, hrestNames, hrestGrants⟩ := ih
        (hsound.granting hreader howner bridge.package) hrest hdistinct.2
      rw [List.flatMap_cons, ModuleHost.obliges_append,
        ModuleHost.afterCalls_append, hstate]
      refine ⟨⟨hgood, hrestGood⟩, hrestNames.trans hnames, ?_⟩
      calc
        (ModuleHost.ofRegistry.afterCalls (rest.flatMap Bridge.calls)
            (registry.granting bridge.grant)).grants =
          (registry.granting bridge.grant).grants ++
            (rest.map Bridge.grant).filter
              (· ∉ (registry.granting bridge.grant).grants) := hrestGrants
        _ = (registry.grants ++
              [bridge.grant].filter (· ∉ registry.grants)) ++
            (rest.map Bridge.grant).filter (· ∉ registry.grants) := by
          rw [hsound.filter_grants_granting hdistinct.1,
            hsound.grants_granting]
        _ = registry.grants ++ ((bridge :: rest).map Bridge.grant).filter
            (· ∉ registry.grants) := by
          rw [List.append_assoc, ← List.filter_append]
          rfl

/-- The bridges of a setup are between declared namespaces once the layouts'
namespace is declared. -/
theorem bridges_declared (hsound : registry.Sound) :
    ∀ bridge ∈ Boundary.bridges runtimeHandle
        ⟨registry.nextId, structuresNamespace⟩,
      bridge.reader ∈ (registry.declaring structuresNamespace).namespaces ∧
        bridge.owner ∈
          (registry.declaring structuresNamespace).namespaces := by
  have hhome : ⟨registry.nextId, structuresNamespace⟩ ∈
      (registry.declaring structuresNamespace).namespaces :=
    List.mem_append_right _ (List.mem_singleton_self _)
  have hrooted : runtimeHandle ∈
      (registry.declaring structuresNamespace).namespaces :=
    List.mem_append_left _ hsound.rooted
  simp only [Boundary.bridges, List.forall_mem_cons]
  exact ⟨⟨hhome, hrooted⟩, ⟨hhome, hrooted⟩, ⟨hrooted, hhome⟩, nofun⟩

/-- A registry answers all calls of a setup well if the layouts' namespace is
not declared. -/
theorem obliges_setup (hsound : registry.Sound)
    (hfree : ∀ handle ∈ registry.namespaces,
      handle.name ≠ structuresNamespace) :
    let home : Handle := ⟨registry.nextId, structuresNamespace⟩
    let later := ModuleHost.ofRegistry.afterCalls
      (Boundary.setupCalls runtimeHandle home) registry
    ModuleHost.ofRegistry.Obliges (Boundary.setupCalls runtimeHandle home)
        registry ∧
      later.namespaces = registry.namespaces ++ [home] ∧
      later.grants = registry.grants ++
        (Boundary.setupGrants runtimeHandle home).filter
          (· ∉ registry.grants) := by
  intro home later
  let declared := registry.declaring structuresNamespace
  have hruntime : ModuleHost.ofRegistry.answer .runtime registry =
      (.handle runtimeHandle, registry) := rfl
  have hdeclare : ModuleHost.ofRegistry.answer (.declare structuresNamespace)
      registry = (.handle home, declared) := by
    change (HostAnswer.ofResult HostAnswer.handle
      (declare structuresNamespace registry).result,
        (declare structuresNamespace registry).state) = _
    rw [declare_of_free hfree]
    rfl
  obtain ⟨hgood, hnames, hgrants⟩ := (hsound.declaring hfree).obliges_bridges
    hsound.bridges_declared (Boundary.nodup_setupGrants runtimeHandle home)
  have hlater : later = ModuleHost.ofRegistry.afterCalls
      ((Boundary.bridges runtimeHandle home).flatMap Bridge.calls)
        declared := by
    change ModuleHost.ofRegistry.afterCalls
      (Boundary.setupCalls runtimeHandle home) registry = _
    rw [Boundary.setupCalls, ModuleHost.afterCalls_cons, hruntime,
      ModuleHost.afterCalls_cons, hdeclare]
  rw [hlater, Boundary.setupCalls, ModuleHost.obliges_cons, hruntime,
    ModuleHost.obliges_cons, hdeclare]
  exact ⟨⟨trivial, trivial, hgood⟩, hnames, hgrants⟩

/-- The grants of a setup are new as long as numbers have not run out. -/
theorem setupGrants_new (hsound : registry.Sound)
    (hsize : registry.namespaces.length < UInt32.size) :
    ∀ grant ∈ Boundary.setupGrants runtimeHandle
      ⟨registry.nextId, structuresNamespace⟩, grant ∉ registry.grants := by
  intro grant hgrant hlogged
  obtain ⟨⟨reader, hreader, hreads⟩, owner, howner, howns⟩ :=
    hsound.known grant hlogged
  have hnumbered : grant.reader = registry.nextId ∨
      grant.owner = registry.nextId := by
    revert hgrant
    simp only [Boundary.setupGrants, Boundary.bridges, List.map_cons,
      List.map_nil, List.mem_cons, List.not_mem_nil, or_false]
    rintro (rfl | rfl | rfl)
    · exact .inl rfl
    · exact .inl rfl
    · exact .inr rfl
  rcases hnumbered with hnew | hnew
  · exact hsound.nextId_ne hsize hreader (hreads.trans hnew)
  · exact hsound.nextId_ne hsize howner (howns.trans hnew)

end Sound

/-! ## One setup -/

/-- Whether it succeeds or not, a setup is a run of calls on the registry. -/
theorem exists_after_establish (registry : ModuleRegistry) :
    ∃ calls, (Boundary.establish .ofRegistry registry).state =
      registry.after calls := by
  obtain ⟨home, hhome⟩ := Boundary.exists_home ModuleHost.ofRegistry registry
  obtain ⟨calls, _, hstate⟩ := (Boundary.follows_establish hhome).made
  rw [← Boundary.unrecorded_establish, Outcome.unrecorded, hstate]
  exact ⟨_, afterCalls_ofRegistry calls registry⟩

theorem Sound.establish (hsound : registry.Sound) :
    (Boundary.establish .ofRegistry registry).state.Sound := by
  obtain ⟨calls, hcalls⟩ := registry.exists_after_establish
  rw [hcalls]
  exact hsound.after calls

/-- A setup succeeds on a registry where the layouts' namespace is not
declared, and declares it and makes its grants. -/
theorem Sound.establish_of_free (hsound : registry.Sound)
    (hfree : ∀ handle ∈ registry.namespaces,
      handle.name ≠ structuresNamespace) :
    let home : Handle := ⟨registry.nextId, structuresNamespace⟩
    let outcome := Boundary.establish .ofRegistry registry
    outcome.result = .ok (.bridged runtimeHandle home) ∧
      outcome.state.namespaces = registry.namespaces ++ [home] ∧
      outcome.state.grants = registry.grants ++
        (Boundary.setupGrants runtimeHandle home).filter
          (· ∉ registry.grants) := by
  intro home
  have hhome : ∀ handle, (declare structuresNamespace registry).result =
      .ok handle → handle = home := by
    rw [declare_of_free hfree]
    intro handle hhandle
    exact (Except.ok.inj hhandle).symm
  obtain ⟨hgood, hnames, hgrants⟩ := hsound.obliges_setup hfree
  obtain ⟨hresult, hstate⟩ :=
    (Boundary.follows_establish hhome).of_obliges hgood
  rw [← Boundary.unrecorded_establish, Outcome.unrecorded, hstate]
  exact ⟨hresult, hnames, hgrants⟩

/-- What may be read after a setup is what could be read before and what the
setup grants. -/
theorem Sound.canRead_establish_iff (hsound : registry.Sound)
    (hfree : ∀ handle ∈ registry.namespaces,
      handle.name ≠ structuresNamespace)
    {reader owner : Handle} {package : String} :
    (Boundary.establish .ofRegistry registry).state.canRead reader owner
        package = true ↔
      registry.canRead reader owner package = true ∨
        ⟨reader.id, owner.id, package⟩ ∈ Boundary.setupGrants runtimeHandle
          ⟨registry.nextId, structuresNamespace⟩ := by
  rw [hsound.establish.canRead_iff, hsound.canRead_iff, or_assoc,
    (hsound.establish_of_free hfree).2.2]
  apply or_congr_right
  rw [List.mem_append, List.mem_filter, decide_eq_true_iff, or_and_left]
  exact and_iff_left (em _)

/-- Any other setup fails and changes nothing. -/
theorem establish_of_taken
    (htaken : ∃ handle ∈ registry.namespaces,
      handle.name = structuresNamespace) :
    Boundary.establish .ofRegistry registry =
      ⟨.error (.namespaceFault (.alreadyDeclared structuresNamespace)),
        registry, []⟩ := by
  have hdeclare : (declare structuresNamespace registry).result =
      .error (.namespaceFault (.alreadyDeclared structuresNamespace)) :=
    congrArg Outcome.result (declare_of_taken htaken)
  have hrest : ∀ next : Handle → Action ModuleRegistry Boundary,
      (declare structuresNamespace >>= next) registry =
        ⟨.error (.namespaceFault (.alreadyDeclared structuresNamespace)),
          registry, []⟩ := by
    intro next
    rw [Action.bind_apply_error hdeclare, declare_of_taken htaken]
  have hruntime : (Action.query ModuleHost.ofRegistry.runtime
      registry).result = .ok runtimeHandle := rfl
  rw [Boundary.establish, Action.bind_apply_ok hruntime]
  exact hrest _

end ModuleRegistry

/-! ## Whole runs -/

/-- What may be done with a module registry. -/
inductive SystemStep where
  | call (made : ModuleCall)
  /-- Sets up a boundary. -/
  | boundary
  /-- Sets up a synthesizer behind a new boundary. -/
  | synthesizer (origin : Nat) (config : LayoutConfig)
    (fallbacks : List LayoutSource)

namespace SystemStep

def perform : SystemStep → Action ModuleRegistry Unit
  | call made => do
    let _ ← made.perform
    return ()
  | boundary => do
    let _ ← Boundary.establish .ofRegistry
    return ()
  | synthesizer origin config fallbacks => do
    let _ ← Synthesizer.new origin .ofRegistry config fallbacks
    return ()

def isSetup : SystemStep → Bool
  | call _ => false
  | boundary => true
  | synthesizer _ _ _ => true

def setsUp (registry : ModuleRegistry) (step : SystemStep) : Bool :=
  step.isSetup && (step.perform registry).result.isOk

/-- The two ways to set up do the same to the registry. -/
theorem perform_of_isSetup {step : SystemStep} (hsetup : step.isSetup = true)
    (registry : ModuleRegistry) :
    (step.perform registry).state =
        (Boundary.establish .ofRegistry registry).state ∧
      (step.perform registry).result.isOk =
        (Boundary.establish .ofRegistry registry).result.isOk := by
  cases step with
  | call made => cases hsetup
  | boundary =>
      rw [perform, Action.bind_pure_apply]
      cases (Boundary.establish .ofRegistry registry).result <;>
        exact ⟨rfl, rfl⟩
  | synthesizer origin config fallbacks =>
      rw [perform, Action.bind_pure_apply, Synthesizer.new]
      cases hresult : (Boundary.establish .ofRegistry registry).result with
      | error fault =>
          rw [Action.bind_apply_error hresult]
          exact ⟨rfl, rfl⟩
      | ok boundary =>
          rw [Action.bind_apply_ok hresult]
          exact ⟨rfl, rfl⟩

/-- Every step is a run of calls on the registry. -/
theorem exists_after (step : SystemStep) (registry : ModuleRegistry) :
    ∃ calls, (step.perform registry).state = registry.after calls := by
  cases hsetup : step.isSetup with
  | true =>
      rw [(perform_of_isSetup hsetup registry).1]
      exact registry.exists_after_establish
  | false =>
      cases step with
      | call made =>
          rw [perform, Action.bind_pure_apply]
          exact ⟨[made], rfl⟩
      | boundary => cases hsetup
      | synthesizer origin config fallbacks => cases hsetup

end SystemStep

namespace ModuleRegistry

variable {registry : ModuleRegistry}

def run (registry : ModuleRegistry) (steps : List SystemStep) :
    ModuleRegistry :=
  steps.foldl (fun current step => (step.perform current).state) registry

def setupsDone (registry : ModuleRegistry) : List SystemStep → Nat
  | [] => 0
  | step :: rest =>
    (if step.setsUp registry then 1 else 0) +
      setupsDone (step.perform registry).state rest

namespace Sound

theorem step (hsound : registry.Sound) (step : SystemStep) :
    (step.perform registry).state.Sound := by
  obtain ⟨calls, hcalls⟩ := step.exists_after registry
  rw [hcalls]
  exact hsound.after calls

theorem run (hsound : registry.Sound) (steps : List SystemStep) :
    (registry.run steps).Sound := by
  induction steps generalizing registry with
  | nil => exact hsound
  | cons step rest ih => exact ih (hsound.step step)

/-- A namespace that is declared stays declared. -/
theorem mem_after (hsound : registry.Sound) {handle : Handle}
    (hmem : handle ∈ registry.namespaces) (calls : List ModuleCall) :
    handle ∈ (registry.after calls).namespaces := by
  induction calls generalizing registry with
  | nil => exact hmem
  | cons call rest ih =>
      apply ih (hsound.perform call)
      by_cases hrefused : call.Refused registry
      · rw [hsound.perform_of_refused hrefused]
        exact hmem
      · rw [(hsound.perform_of_not_refused hrefused).2]
        cases call with
        | declare name => exact List.mem_append_left _ hmem
        | grant reader owner package =>
            rw [extended, namespaces_granting]
            exact hmem

/-- A setup succeeds exactly if the layouts' namespace is not declared. -/
theorem isOk_establish_iff (hsound : registry.Sound) :
    (Boundary.establish .ofRegistry registry).result.isOk = true ↔
      ∀ handle ∈ registry.namespaces, handle.name ≠ structuresNamespace := by
  constructor
  · intro hdone handle hmem hname
    rw [establish_of_taken ⟨handle, hmem, hname⟩] at hdone
    cases hdone
  · intro hfree
    rw [(hsound.establish_of_free hfree).1]
    rfl

/-- Once the layouts' namespace is declared, no setup succeeds. -/
theorem setupsDone_of_taken (hsound : registry.Sound) {handle : Handle}
    (hmem : handle ∈ registry.namespaces)
    (hname : handle.name = structuresNamespace) (steps : List SystemStep) :
    registry.setupsDone steps = 0 := by
  induction steps generalizing registry with
  | nil => rfl
  | cons step rest ih =>
      have hfails : step.setsUp registry = false := by
        rw [SystemStep.setsUp, Bool.and_eq_false_imp]
        intro hsetup
        rw [(SystemStep.perform_of_isSetup hsetup registry).2,
          establish_of_taken ⟨handle, hmem, hname⟩]
        rfl
      obtain ⟨calls, hcalls⟩ := step.exists_after registry
      rw [setupsDone, hfails, hcalls]
      exact (Nat.zero_add _).trans
        (ih (hsound.after calls) (hsound.mem_after hmem calls))

theorem setupsDone_le_one (hsound : registry.Sound)
    (steps : List SystemStep) : registry.setupsDone steps ≤ 1 := by
  induction steps generalizing registry with
  | nil => exact Nat.zero_le 1
  | cons step rest ih =>
      rw [setupsDone]
      cases hdone : step.setsUp registry with
      | false => exact (Nat.zero_add _).trans_le (ih (hsound.step step))
      | true =>
          -- This setup declares the namespace that a later one would need.
          rw [SystemStep.setsUp, Bool.and_eq_true] at hdone
          obtain ⟨hstate, hresult⟩ :=
            SystemStep.perform_of_isSetup hdone.1 registry
          rw [hresult, hsound.isOk_establish_iff] at hdone
          have hhome : ⟨registry.nextId, structuresNamespace⟩ ∈
              (step.perform registry).state.namespaces := by
            rw [hstate, (hsound.establish_of_free hdone.2).2.1]
            exact List.mem_append_right _ (List.mem_singleton_self _)
          rw [(hsound.step step).setupsDone_of_taken hhome rfl rest]
          rfl

end Sound

/-- The trust setup asks for what it needs and for nothing else.  Whatever a
module system answers, the calls of a setup are the first ones of its plan, with
the handles that the module system gave; the setup gives up at the first call
that is not answered well, and succeeds exactly if there is none.  From then on
layouts may address two packages of the runtime and no other, whatever is
defined or asked of a synthesizer.  On a module registry, at every moment of
every run, a setup succeeds exactly if the layouts' namespace is not declared.
Then it adds that namespace and its three grants, which are all new until
numbers run out, and opens what they name; otherwise it adds nothing.  So no run
sets up twice. -/
theorem trust_setup_asks_for_least_privilege {σ : Type} (host : ModuleHost σ)
    (state : σ) (steps : List SystemStep) :
    (∃ home, (∀ handle, (host.declare structuresNamespace
        (host.runtime state).2).result = .ok handle → handle = home) ∧
      let runtime := (host.runtime state).1
      let recorded := Boundary.establish host.recording (.start state)
      recorded.unrecorded = Boundary.establish host state ∧
      recorded.state.calls <+: Boundary.setupCalls runtime home ∧
      host.Follows (Boundary.setupCalls runtime home)
        (.bridged runtime home) (.start state) recorded ∧
      ∀ boundary, (Boundary.establish host state).result = .ok boundary ↔
        host.Obliges (Boundary.setupCalls runtime home) state ∧
          boundary = .bridged runtime home) ∧
    (∀ boundary, (Boundary.establish host state).result = .ok boundary →
      ∀ (names : List String) package,
        (names.foldl Boundary.define boundary).canAddress package = true ↔
          package = scriptsPackage ∨ package = runtimePackage) ∧
    (∀ origin config fallbacks start,
      (Synthesizer.new origin host config fallbacks state).result =
        .ok start →
      ∀ calls package,
        (start.after calls).boundary.canAddress package = true ↔
          package = scriptsPackage ∨ package = runtimePackage) ∧
    let registry := new.run steps
    let home : Handle := ⟨registry.nextId, structuresNamespace⟩
    let outcome := Boundary.establish .ofRegistry registry
    ((∃ boundary, outcome.result = .ok boundary) ↔
      ∀ handle ∈ registry.namespaces, handle.name ≠ structuresNamespace) ∧
    (∀ boundary, outcome.result = .ok boundary →
      boundary = .bridged runtimeHandle home ∧
      outcome.state.namespaces = registry.namespaces ++ [home] ∧
      outcome.state.grants = registry.grants ++
        (Boundary.setupGrants runtimeHandle home).filter
          (· ∉ registry.grants) ∧
      (registry.namespaces.length < UInt32.size →
        outcome.state.grants = registry.grants ++
          Boundary.setupGrants runtimeHandle home) ∧
      ∀ reader owner package,
        outcome.state.canRead reader owner package = true ↔
          registry.canRead reader owner package = true ∨
            ⟨reader.id, owner.id, package⟩ ∈
              Boundary.setupGrants runtimeHandle home) ∧
    (∀ fault, outcome.result = .error fault → outcome.state = registry) ∧
    new.setupsDone steps ≤ 1 := by
  obtain ⟨home, hhome⟩ := Boundary.exists_home host state
  have hfollows := Boundary.follows_establish hhome
  have hreadable : ∀ boundary,
      (Boundary.establish host state).result = .ok boundary →
        boundary.readable = [scriptsPackage, runtimePackage] := by
    intro boundary hboundary
    rw [((Boundary.establish_eq_ok_iff hhome).mp hboundary).2]
    rfl
  refine ⟨⟨home, hhome, Boundary.unrecorded_establish host state, ?_, hfollows,
    fun boundary => Boundary.establish_eq_ok_iff hhome⟩, ?_, ?_, ?_⟩
  · obtain ⟨calls, hprefix, hstate⟩ := hfollows.made
    rw [hstate]
    exact hprefix
  · intro boundary hboundary names package
    apply Boundary.canAddress_iff
    rw [Boundary.readable_foldl_define, hreadable boundary hboundary]
  · intro origin config fallbacks start hstart calls package
    obtain ⟨boundary, hboundary, rfl⟩ :=
      Synthesizer.new_eq_ok_iff.mp hstart
    apply Boundary.canAddress_iff
    exact (Synthesizer.readable_after calls _).trans
      (hreadable boundary hboundary)
  · intro registry home outcome
    have hsound : registry.Sound := sound_new.run steps
    have hdone : (∃ boundary, outcome.result = .ok boundary) ↔
        ∀ handle ∈ registry.namespaces,
          handle.name ≠ structuresNamespace := by
      rw [← hsound.isOk_establish_iff]
      change (∃ boundary, outcome.result = _) ↔ outcome.result.isOk = true
      cases outcome.result <;> simp [Except.isOk, Except.toBool]
    refine ⟨hdone, ?_, ?_, sound_new.setupsDone_le_one steps⟩
    · intro boundary hboundary
      have hfree := hdone.mp ⟨boundary, hboundary⟩
      obtain ⟨hresult, hnames, hgrants⟩ := hsound.establish_of_free hfree
      refine ⟨Except.ok.inj (hboundary.symm.trans hresult), hnames, hgrants,
        ?_, fun reader owner package => hsound.canRead_establish_iff hfree⟩
      intro hsize
      rw [hgrants, List.filter_eq_self.mpr]
      intro grant hgrant
      exact decide_eq_true (hsound.setupGrants_new hsize grant hgrant)
    · intro fault hfault
      have htaken : ∃ handle ∈ registry.namespaces,
          handle.name = structuresNamespace := by
        by_contra hfree
        obtain ⟨boundary, hboundary⟩ := hdone.mpr
          fun handle hmem hname => hfree ⟨handle, hmem, hname⟩
        cases hfault.symm.trans hboundary
      exact congrArg Outcome.state (establish_of_taken htaken)

/-- A registry behind a front that accepts a grant without making it. -/
def forgetfulHost : ModuleHost ModuleRegistry :=
  .interfered { Interference.none with dropped := [runtimePackage] }
    .ofRegistry

def pluginSteps : List SystemStep := [.call (.declare "app.plugin")]

/-- The forgetful front is found out at its sixth call.  On a registry with a
plugin the setup makes its three grants; the boundary may be added to without
reaching further, and nothing is left for a second setup. -/
theorem plugin_registry_is_set_up_once :
    ((Boundary.establish forgetfulHost.recording (.start new)).state.calls =
        (Boundary.setupCalls runtimeHandle ⟨2, structuresNamespace⟩).take 6 ∧
      ¬ forgetfulHost.Obliges (Boundary.setupCalls runtimeHandle
        ⟨2, structuresNamespace⟩) new) ∧
    ((Boundary.establish .ofRegistry (new.run pluginSteps)).result =
        .ok (.bridged runtimeHandle ⟨3, structuresNamespace⟩) ∧
      (["Dual$OI"].foldl Boundary.define (.bridged runtimeHandle
        ⟨3, structuresNamespace⟩)).canAddress scriptsPackage = true ∧
      ¬ (["Dual$OI"].foldl Boundary.define (.bridged runtimeHandle
        ⟨3, structuresNamespace⟩)).canAddress structuresPackage = true) ∧
    ((new.run pluginSteps).namespaces.length < UInt32.size ∧
      (Boundary.establish .ofRegistry (new.run pluginSteps)).state.grants =
        [⟨3, 1, scriptsPackage⟩, ⟨3, 1, runtimePackage⟩,
          ⟨1, 3, structuresPackage⟩]) ∧
    (Boundary.establish .ofRegistry
        (new.run (pluginSteps ++ [.boundary]))).result =
      .error (.namespaceFault (.alreadyDeclared structuresNamespace)) ∧
    (Boundary.establish .ofRegistry
        (new.run (pluginSteps ++ [.boundary]))).state =
      new.run (pluginSteps ++ [.boundary]) := by
  obtain ⟨⟨found, hfound, _, _, _, hok⟩, _⟩ :=
    trust_setup_asks_for_least_privilege forgetfulHost new []
  obtain ⟨_, haddress, _, _, hdone, _⟩ :=
    trust_setup_asks_for_least_privilege ModuleHost.ofRegistry
      (new.run pluginSteps) pluginSteps
  obtain ⟨_, _, _, _, _, hfails, _⟩ :=
    trust_setup_asks_for_least_privilege ModuleHost.ofRegistry new
      (pluginSteps ++ [.boundary])
  have hresult : (Boundary.establish .ofRegistry
      (new.run pluginSteps)).result =
        .ok (.bridged runtimeHandle ⟨3, structuresNamespace⟩) := rfl
  have hsize : (new.run pluginSteps).namespaces.length < UInt32.size := by
    decide
  have hlater : (Boundary.establish .ofRegistry
      (new.run (pluginSteps ++ [.boundary]))).result =
        .error (.namespaceFault (.alreadyDeclared structuresNamespace)) := rfl
  refine ⟨⟨rfl, ?_⟩, ⟨hresult, ?_, ?_⟩, ⟨hsize, ?_⟩, hlater,
    hfails _ hlater⟩
  · have hhome : (⟨2, structuresNamespace⟩ : Handle) = found := hfound _ rfl
    rw [hhome]
    intro hgood
    have hbad : (Boundary.establish forgetfulHost new).result =
        .error (.namespaceFault (.ineffectiveGrant runtimePackage
          ⟨2, structuresNamespace⟩)) := rfl
    cases hbad.symm.trans ((hok _).mpr ⟨hgood, rfl⟩)
  · exact (haddress _ hresult _ _).mpr (.inl rfl)
  · rw [haddress _ hresult]
    decide
  · exact (hdone _ hresult).2.2.2.1 hsize

end ModuleRegistry

end ScriptHost
