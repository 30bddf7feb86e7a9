import ScriptHost.Proofs.Structure.Synthesizer

/-!
# Runs of a synthesizer

A run is any sequence of calls on one synthesizer.  Every call makes requests
under canonical names and does nothing else to the synthesizer, so whatever
requests keep is kept by the whole run.  Two calls of a run get the same
layout if and only if they ask for the same descriptor in the same mode.
-/

namespace ScriptHost

inductive LayoutCall where
  | get (descriptor : String) (mode : FieldMode)
  /-- Asks for a descriptor in the configured mode. -/
  | getDefault (descriptor : String)
  | find (name : String)
  /-- Asks for several descriptors in advance. -/
  | prewarm (requests : List (String × FieldMode))
  deriving DecidableEq, Repr

inductive LayoutAnswer where
  | layout (layout : Layout)
  /-- The number of layouts generated in advance. -/
  | count (fresh : Nat)
  deriving DecidableEq, Repr

namespace LayoutCall

def perform : LayoutCall → Action Synthesizer LayoutAnswer
  | get descriptor mode => do
    let layout ← Synthesizer.getLayout descriptor mode
    return .layout layout
  | getDefault descriptor => do
    let layout ← Synthesizer.getDefaultLayout descriptor
    return .layout layout
  | find name => do
    let layout ← Synthesizer.findLayout name
    return .layout layout
  | prewarm requests => do
    let fresh ← Synthesizer.prewarm requests
    return .count fresh

/-- The mode and descriptor of the one layout that a call asks for.  A name
that is no structure name asks for none, and neither does a call in advance,
which answers no layout. -/
def target? (defaultMode : FieldMode) : LayoutCall → Option (FieldMode × String)
  | get descriptor mode => some (mode, descriptor)
  | getDefault descriptor => some (defaultMode, descriptor)
  | find name => FieldMode.route name
  | prewarm _ => none

end LayoutCall

structure ServedCall where
  call : LayoutCall
  result : Except Fault LayoutAnswer

/-- The call asked for a descriptor in a mode and got a layout. -/
def ServedCall.Resolves (served : ServedCall) (defaultMode : FieldMode)
    (target : FieldMode × String) (layout : Layout) : Prop :=
  served.call.target? defaultMode = some target ∧
    served.result = .ok (.layout layout)

namespace Synthesizer

def after (self : Synthesizer) (calls : List LayoutCall) : Synthesizer :=
  calls.foldl (fun current call => (call.perform current).state) self

def served (self : Synthesizer) : List LayoutCall → List ServedCall
  | [] => []
  | call :: rest =>
    ⟨call, (call.perform self).result⟩ ::
      served (call.perform self).state rest

/-! ## Calls as requests -/

theorem getLayout_apply (descriptor : String) (mode : FieldMode)
    (self : Synthesizer) :
    getLayout descriptor mode self =
      ⟨(request mode descriptor self).result.map Prod.fst,
        (request mode descriptor self).state,
        (request mode descriptor self).journal⟩ :=
  Action.bind_pure_apply _ Prod.fst self

theorem findLayout_apply {name descriptor : String} {mode : FieldMode}
    (hroute : FieldMode.route name = some (mode, descriptor))
    (self : Synthesizer) :
    findLayout name self = getLayout descriptor mode self := by
  rw [findLayout, hroute, FieldMode.route_eq_some_iff.mp hroute]
  rfl

/-- A call for one layout is the request for its mode and descriptor. -/
theorem perform_of_target? {call : LayoutCall} {self : Synthesizer}
    {mode : FieldMode} {descriptor : String}
    (htarget : call.target? self.config.defaultMode =
      some (mode, descriptor)) :
    call.perform self =
      ⟨(request mode descriptor self).result.map fun answer =>
          .layout answer.1,
        (request mode descriptor self).state,
        (request mode descriptor self).journal⟩ := by
  have hget : ∀ action : Action Synthesizer Layout,
      action self = getLayout descriptor mode self →
        (action >>= fun layout => pure (LayoutAnswer.layout layout)) self =
          ⟨(request mode descriptor self).result.map fun answer =>
              .layout answer.1,
            (request mode descriptor self).state,
            (request mode descriptor self).journal⟩ := by
    intro action haction
    rw [Action.bind_pure_apply, haction, getLayout_apply]
    cases (request mode descriptor self).result <;> rfl
  cases call with
  | get other otherMode =>
      cases htarget
      exact hget _ rfl
  | getDefault other =>
      cases htarget
      exact hget _ rfl
  | find name => exact hget _ (findLayout_apply htarget self)
  | prewarm requests => cases htarget

/-- What every request keeps is kept by every call. -/
theorem perform_state_of {P : Synthesizer → Prop}
    (hrequest : ∀ mode descriptor self, P self →
      P (request mode descriptor self).state)
    (call : LayoutCall) {self : Synthesizer} (hself : P self) :
    P (call.perform self).state := by
  have hget : ∀ descriptor mode current, P current →
      P (getLayout descriptor mode current).state := by
    intro descriptor mode current hcurrent
    rw [getLayout_apply]
    exact hrequest mode descriptor current hcurrent
  cases call with
  | get descriptor mode =>
      exact Action.bind_state_of (hget descriptor mode self hself)
        fun _ _ hbefore => hbefore
  | getDefault descriptor =>
      exact Action.bind_state_of (hget descriptor _ self hself)
        fun _ _ hbefore => hbefore
  | find name =>
      refine Action.bind_state_of ?_ fun _ _ hbefore => hbefore
      cases hroute : FieldMode.route name with
      | some route =>
          rw [findLayout_apply hroute]
          exact hget _ _ self hself
      | none =>
          rw [findLayout, hroute]
          cases hsource : self.fallbacks.findSome? (· name) <;>
            simpa only [hsource] using hself
  | prewarm requests =>
      refine Action.bind_state_of ?_ fun _ _ hbefore => hbefore
      induction requests generalizing self with
      | nil => exact hself
      | cons first rest ih =>
          refine Action.bind_state_of
            (hrequest first.2 first.1 self hself) ?_
          intro answer before hbefore
          exact Action.bind_state_of (ih hbefore) fun _ _ hlater => hlater

theorem extends_perform (call : LayoutCall) (self : Synthesizer) :
    Extends self (call.perform self).state :=
  perform_state_of (P := Extends self)
    (fun mode descriptor current hcurrent =>
      hcurrent.trans (extends_request mode descriptor current))
    call (Extends.refl self)

theorem sound_perform (call : LayoutCall) {self : Synthesizer}
    (hself : self.Sound) : (call.perform self).state.Sound :=
  perform_state_of (P := Sound)
    (fun mode descriptor _ hcurrent => sound_request mode descriptor hcurrent)
    call hself

/-- The layout that a call got is published afterwards. -/
theorem find?_of_perform {call : LayoutCall} {self : Synthesizer}
    {target : FieldMode × String} {layout : Layout} (hself : self.Sound)
    (htarget : call.target? self.config.defaultMode = some target)
    (hresult : (call.perform self).result = .ok (.layout layout)) :
    (call.perform self).state.published.find?
      (target.1.canonicalName target.2) = some layout := by
  rw [perform_of_target? htarget] at hresult ⊢
  cases hanswer : (request target.1 target.2 self).result with
  | error fault =>
      rw [hanswer] at hresult
      cases hresult
  | ok answer =>
      rw [hanswer] at hresult
      cases hresult
      exact find?_of_request hself hanswer

/-! ## Whole runs -/

/-- What every request keeps is kept by whole runs. -/
theorem after_of {P : Synthesizer → Prop}
    (hrequest : ∀ mode descriptor self, P self →
      P (request mode descriptor self).state)
    (calls : List LayoutCall) {self : Synthesizer} (hself : P self) :
    P (self.after calls) := by
  induction calls generalizing self with
  | nil => exact hself
  | cons call rest ih => exact ih (perform_state_of hrequest call hself)

theorem extends_after (calls : List LayoutCall) (self : Synthesizer) :
    Extends self (self.after calls) :=
  after_of (P := Extends self)
    (fun mode descriptor current hcurrent =>
      hcurrent.trans (extends_request mode descriptor current))
    calls (Extends.refl self)

theorem sound_after (calls : List LayoutCall) {self : Synthesizer}
    (hself : self.Sound) : (self.after calls).Sound :=
  after_of (P := Sound)
    (fun mode descriptor _ hcurrent => sound_request mode descriptor hcurrent)
    calls hself

theorem after_append (self : Synthesizer) (calls more : List LayoutCall) :
    self.after (calls ++ more) = (self.after calls).after more :=
  List.foldl_append

/-- Every layout that a call of the run got is published, when the run is
over, under the name of what the call asked for. -/
theorem find?_of_resolves {self : Synthesizer} {calls : List LayoutCall}
    {served : ServedCall} {target : FieldMode × String} {layout : Layout}
    (hself : self.Sound) (hserved : served ∈ self.served calls)
    (hresolves : served.Resolves self.config.defaultMode target layout) :
    (self.after calls).published.find? (target.1.canonicalName target.2) =
      some layout := by
  induction calls generalizing self with
  | nil => exact absurd hserved List.not_mem_nil
  | cons call rest ih =>
      rcases List.mem_cons.mp hserved with rfl | hlater
      · exact (extends_after rest _).find?
          (sound_after rest (sound_perform call hself))
          (find?_of_perform hself hresolves.1 hresolves.2)
      · refine ih (sound_perform call hself) hlater ?_
        rw [(extends_perform call self).config]
        exact hresolves

/-! ## The start of a run -/

/-- Sources that are added in order come after those that were there. -/
theorem foldl_withFallback (sources : List LayoutSource)
    (self : Synthesizer) :
    sources.foldl withFallback self =
      { self with fallbacks := self.fallbacks ++ sources } := by
  induction sources generalizing self with
  | nil => rw [List.foldl_nil, List.append_nil]
  | cons source rest ih =>
      rw [List.foldl_cons, ih, withFallback, List.append_assoc,
        List.singleton_append]

/-- A synthesizer is set up exactly if its boundary is. -/
theorem new_eq_ok_iff {σ : Type} {host : ModuleHost σ} {origin : Nat}
    {config : LayoutConfig} {fallbacks : List LayoutSource} {system : σ}
    {start : Synthesizer} :
    (new origin host config fallbacks system).result = .ok start ↔
      ∃ boundary, (Boundary.establish host system).result = .ok boundary ∧
        start = ⟨origin, boundary, config, .empty, fallbacks, 0⟩ := by
  simp only [new, foldl_withFallback, List.nil_append]
  rw [Action.bind_result_eq_ok_iff]
  refine exists_congr fun boundary => and_congr_right fun _ => ?_
  constructor
  · intro hstart
    exact (Except.ok.inj hstart).symm
  · rintro rfl
    rfl

theorem new_eq_ok {σ : Type} {host : ModuleHost σ} {origin : Nat}
    {config : LayoutConfig} {fallbacks : List LayoutSource} {system : σ}
    {start : Synthesizer}
    (hstart : (new origin host config fallbacks system).result = .ok start) :
    ∃ boundary : Boundary, boundary.defined = [] ∧
      start = ⟨origin, boundary, config, .empty, fallbacks, 0⟩ := by
  obtain ⟨boundary, hboundary, hstart⟩ := new_eq_ok_iff.mp hstart
  refine ⟨boundary, ?_, hstart⟩
  simp only [Boundary.establish, Action.bind_result_eq_ok_iff] at hboundary
  obtain ⟨_, _, _, _, _, _, _, _, _, _, hdone⟩ := hboundary
  cases hdone
  rfl

/-- The configuration stays as it was set up. -/
theorem config_after {σ : Type} {host : ModuleHost σ} {origin : Nat}
    {config : LayoutConfig} {fallbacks : List LayoutSource} {system : σ}
    {start : Synthesizer}
    (hstart : (new origin host config fallbacks system).result = .ok start)
    (calls : List LayoutCall) : (start.after calls).config = config := by
  obtain ⟨_, _, rfl⟩ := new_eq_ok hstart
  exact (extends_after calls _).config

theorem sound_new {σ : Type} {host : ModuleHost σ} {origin : Nat}
    {config : LayoutConfig} {fallbacks : List LayoutSource} {system : σ}
    {start : Synthesizer}
    (hstart : (new origin host config fallbacks system).result = .ok start) :
    start.Sound := by
  obtain ⟨boundary, hdefined, rfl⟩ := new_eq_ok hstart
  exact {
    ascending := List.Pairwise.nil
    hosts := fun _ hentry => absurd hentry List.not_mem_nil
    stamped := List.nodup_nil
    counted := rfl
    defined := by rw [hdefined]; exact List.Perm.refl _ }

theorem Sound.mem_layouts_iff {self : Synthesizer} (hself : self.Sound)
    {layout : Layout} :
    layout ∈ self.layouts ↔
      self.published.find? layout.name = some layout := by
  rw [Published.find?_eq_some_iff hself.ascending]
  change layout ∈ self.published.entries.map (·.2) ↔ _
  rw [List.mem_map]
  constructor
  · rintro ⟨entry, hentry, rfl⟩
    rw [(hself.hosts entry hentry).name_eq]
    exact hentry
  · intro hentry
    exact ⟨_, hentry, rfl⟩

theorem Sound.layouts_ascending {self : Synthesizer} (hself : self.Sound) :
    self.layouts.Pairwise fun earlier later =>
      bytewiseBefore earlier.name later.name = true := by
  change (self.published.entries.map (·.2)).Pairwise _
  rw [List.pairwise_map]
  refine hself.ascending.imp_of_mem ?_
  intro earlier later hearlier hlater hbefore
  rw [(hself.hosts earlier hearlier).name_eq, (hself.hosts later hlater).name_eq]
  exact hbefore

/-- Two calls that ask for the same get the identical layout, and two calls
that ask for different things get different layouts. -/
theorem resolves_same_iff {self : Synthesizer} {calls : List LayoutCall}
    {first second : ServedCall} {target other : FieldMode × String}
    {left right : Layout} (hself : self.Sound)
    (hfirst : first ∈ self.served calls)
    (hsecond : second ∈ self.served calls)
    (hleft : first.Resolves self.config.defaultMode target left)
    (hright : second.Resolves self.config.defaultMode other right) :
    (target = other → left = right) ∧
      (left.isSame right = true ↔ target = other) := by
  have hleft := find?_of_resolves hself hfirst hleft
  have hright := find?_of_resolves hself hsecond hright
  have heq : target = other → left = right := by
    rintro rfl
    exact Option.some.inj (hleft.symm.trans hright)
  refine ⟨heq, ?_, ?_⟩
  · intro hsame
    have hentry := (sound_after calls hself).eq_of_isSame
      (Published.mem_of_find? hleft) (Published.mem_of_find? hright) hsame
    exact FieldMode.canonicalName_injective (Prod.mk.inj hentry).1
  · intro htarget
    rw [heq htarget, Layout.isSame]
    exact beq_self_eq_true right.stamp

/-- Every layout is generated at most once.  Whatever the configuration and
however calls succeed and fail, at every moment of a run the published layouts
are those of their names, the three counts agree, two calls of the run get the
identical layout if and only if they ask for the same, and what is published
stays published, in strictly ascending order of the names. -/
theorem layouts_generated_at_most_once {σ : Type} {host : ModuleHost σ}
    {origin : Nat} {config : LayoutConfig} {fallbacks : List LayoutSource}
    {system : σ} {start : Synthesizer}
    (hstart : (new origin host config fallbacks system).result = .ok start)
    (calls : List LayoutCall) :
    (∀ entry ∈ (start.after calls).published.entries,
      entry.1 = entry.2.name ∧
      entry.1 = entry.2.mode.canonicalName entry.2.shape.descriptor ∧
      entry.2.shape.size ≤ config.maxFields ∧
      entry.2.home = (start.after calls).boundary.home) ∧
    ((start.after calls).size = (start.after calls).generated ∧
      (start.after calls).generated =
        (start.after calls).boundary.definitionCount) ∧
    (∀ first ∈ start.served calls, ∀ second ∈ start.served calls,
      ∀ target other left right,
        first.Resolves config.defaultMode target left →
        second.Resolves config.defaultMode other right →
          (target = other → left = right) ∧
          (left.isSame right = true ↔ target = other)) ∧
    (∀ more name layout,
      (start.after calls).published.find? name = some layout →
        (start.after (calls ++ more)).published.find? name = some layout) ∧
    ((start.after calls).layouts.Pairwise fun earlier later =>
      bytewiseBefore earlier.name later.name = true) ∧
    (∀ layout, layout ∈ (start.after calls).layouts ↔
      (start.after calls).published.find? layout.name = some layout) := by
  have hsound := sound_new hstart
  have hfinal := sound_after calls hsound
  have hconfig : start.config = config := config_after hstart []
  refine ⟨?_, ⟨hfinal.counted, ?_⟩, ?_, ?_, hfinal.layouts_ascending,
    fun layout => hfinal.mem_layouts_iff⟩
  · intro entry hentry
    have hhosts := hfinal.hosts entry hentry
    refine ⟨hhosts.name_eq.symm, hhosts.canonical.symm, ?_, hhosts.housed⟩
    rw [← config_after hstart calls]
    exact hhosts.bounded
  · have hlength := hfinal.defined.length_eq
    rw [List.length_map] at hlength
    exact hfinal.counted.symm.trans hlength.symm
  · intro first hfirst second hsecond target other left right hleft hright
    rw [← hconfig] at hleft hright
    exact resolves_same_iff hsound hfirst hsecond hleft hright
  · intro more name layout hfind
    rw [after_append]
    exact (extends_after more _).find? (sound_after more hfinal) hfind

/-- On the module registry, a descriptor and the structure name it leads to
are one layout, and a call that fails generates none. -/
theorem one_layout_generated_on_registry :
    ∃ start : Synthesizer,
      (new 0 .ofRegistry .default [] ModuleRegistry.new).result = .ok start ∧
        (start.after [.get "OI" .dual, .find "strata.structures.Dual$OI",
          .get "X?" .dual]).size = 1 ∧
        (start.after [.get "OI" .dual, .find "strata.structures.Dual$OI",
          .get "X?" .dual]).boundary.definitionCount = 1 := by
  have hstart : (new 0 .ofRegistry .default [] ModuleRegistry.new).result =
      .ok ⟨0, ⟨⟨2, structuresNamespace⟩, ModuleRegistry.runtimeHandle,
        [scriptsPackage, runtimePackage], true, []⟩, .default, .empty, [],
        0⟩ := rfl
  obtain ⟨hsize, hcount⟩ := (layouts_generated_at_most_once hstart
    [.get "OI" .dual, .find "strata.structures.Dual$OI", .get "X?" .dual]).2.1
  refine ⟨_, hstart, hsize.trans ?_, hcount.symm.trans ?_⟩ <;> decide +kernel

end Synthesizer

end ScriptHost
