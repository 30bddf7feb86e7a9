import ScriptHost.Proofs.Namespace.RegistrySetup

/-!
# What a failed setup leaves behind

A module registry is only ever added to, and a setup takes nothing back.  So a
setup that fails behind a front leaves in the registry what the front handed on
until then.  Once that includes the declaration of the layouts' namespace, no
later setup succeeds.
-/

namespace ScriptHost

/-! ## Fronts -/

/-- A module system in front of a registry.  It hands a call on or keeps it to
itself, and in both cases it may answer as it likes. -/
structure Front (σ : Type) where
  host : ModuleHost σ
  /-- The registry that stands behind it. -/
  behind : σ → ModuleRegistry
  handsOn : HostCall → σ → Bool
  /-- The registry is asked what is handed on, and nothing else. -/
  behind_answer : ∀ call state,
    behind (host.answer call state).2 =
      if handsOn call state then
        (ModuleHost.ofRegistry.answer call (behind state)).2
      else behind state

namespace Front

variable {σ : Type}

/-- What the registry is asked in the course of some calls. -/
def asked (front : Front σ) : List HostCall → σ → List ModuleCall
  | [], _ => []
  | call :: rest, state =>
    (if front.handsOn call state then call.moduleCall?.toList else []) ++
      asked front rest (front.host.answer call state).2

/-- The front gives the handle of the runtime and makes every declaration as it
is asked to.  It may refuse grants, accept them without making them, and report
what it likes about who may read what. -/
structure Candid (front : Front σ) : Prop where
  runtime : ∀ state,
    (front.host.runtime state).1 = ModuleRegistry.runtimeHandle
  declares : ∀ name state, front.handsOn (.declare name) state = true
  declared : ∀ name state, (front.host.declare name state).result =
    (ModuleRegistry.declare name (front.behind state)).result

variable (front : Front σ)

/-- The registry behind a front is the one after what it was asked. -/
theorem behind_afterCalls (calls : List HostCall) (state : σ) :
    front.behind (front.host.afterCalls calls state) =
      (front.behind state).after (front.asked calls state) := by
  induction calls generalizing state with
  | nil => rfl
  | cons call rest ih =>
      rw [ModuleHost.afterCalls_cons, ih, front.behind_answer, asked,
        ModuleRegistry.after_append, ModuleRegistry.answer_ofRegistry]
      split <;> rfl

theorem asked_runtime (rest : List HostCall) (state : σ) :
    front.asked (.runtime :: rest) state =
      front.asked rest (front.host.runtime state).2 := by
  simp only [asked, HostCall.moduleCall?, Option.toList_none, ite_self,
    List.nil_append]
  rfl

theorem asked_declare (name : String) (rest : List HostCall) (state : σ) :
    front.asked (.declare name :: rest) state =
      (if front.handsOn (.declare name) state then [.declare name] else []) ++
        front.asked rest (front.host.declare name state).state := rfl

/-- Nothing is asked but what was called. -/
theorem asked_sublist (calls : List HostCall) (state : σ) :
    (front.asked calls state).Sublist
      (calls.filterMap (·.moduleCall?)) := by
  induction calls generalizing state with
  | nil => exact List.Sublist.slnil
  | cons call rest ih =>
      have hcall : (if front.handsOn call state then
          call.moduleCall?.toList else []).Sublist
            ([call].filterMap (·.moduleCall?)) := by
        rw [List.filterMap_cons]
        cases call.moduleCall? <;> split <;> simp
      rw [asked, ← List.singleton_append, List.filterMap_append]
      exact hcall.append (ih _)

end Front

/-! ## The calls of a setup that fails -/

def Bridge.moduleCall (bridge : Bridge) : ModuleCall :=
  .grant bridge.reader bridge.owner bridge.package

theorem Bridge.filterMap_moduleCall? (bridges : List Bridge) :
    (bridges.flatMap Bridge.calls).filterMap (·.moduleCall?) =
      bridges.map Bridge.moduleCall := by
  induction bridges with
  | nil => rfl
  | cons bridge rest ih =>
      rw [List.flatMap_cons, List.filterMap_append, ih]
      rfl

/-- Every setup asks for the runtime and declares the layouts' namespace; then
it builds bridges as far as it gets. -/
theorem Boundary.recorded_establish {σ : Type} {host : ModuleHost σ}
    {state : σ} {home : Handle}
    (hhome : ∀ handle, (host.declare structuresNamespace
      (host.runtime state).2).result = .ok handle → handle = home) :
    ∃ rest, rest <+: (bridges (host.runtime state).1 home).flatMap
        Bridge.calls ∧
      (establish host.recording (.start state)).state =
        ⟨host.afterCalls
            (.runtime :: .declare structuresNamespace :: rest) state,
          .runtime :: .declare structuresNamespace :: rest⟩ := by
  cases follows_establish hhome with
  | completes _ _ hstate => exact ⟨_, List.prefix_rfl, hstate⟩
  | breaks front back call fault hplan _ hbad _ hstate =>
      -- The call that breaks the plan is the second one or a later one.
      rw [setupCalls] at hplan
      cases front with
      | nil =>
          rw [List.nil_append, List.cons.injEq] at hplan
          rw [← hplan.1] at hbad
          exact hbad.elim
      | cons first later =>
          rw [List.cons_append, List.cons.injEq] at hplan
          obtain ⟨rfl, hplan⟩ := hplan
          cases later with
          | nil =>
              rw [List.nil_append, List.cons.injEq] at hplan
              obtain ⟨rfl, _⟩ := hplan
              exact ⟨[], List.nil_prefix, hstate⟩
          | cons second others =>
              rw [List.cons_append, List.cons.injEq] at hplan
              obtain ⟨rfl, hbridges⟩ := hplan
              refine ⟨others ++ [call], ⟨back, ?_⟩, hstate⟩
              rw [List.append_assoc, List.singleton_append]
              exact hbridges.symm

namespace Front

variable {σ : Type} {front : Front σ}

def setupCalls (front : Front σ) (state : σ) : List HostCall :=
  (Boundary.establish front.host.recording (.start state)).state.calls

/-- What the registry is asked by a setup. -/
def setupAsked (front : Front σ) (state : σ) : List ModuleCall :=
  front.asked (front.setupCalls state) state

/-- A setup leaves the registry after what it was asked. -/
theorem behind_establish (state : σ) :
    front.behind (Boundary.establish front.host state).state =
      (front.behind state).after (front.setupAsked state) := by
  obtain ⟨home, hhome⟩ := Boundary.exists_home front.host state
  obtain ⟨rest, _, hstate⟩ := Boundary.recorded_establish hhome
  rw [← Boundary.unrecorded_establish, Outcome.unrecorded, setupAsked,
    setupCalls, hstate]
  exact front.behind_afterCalls _ state

/-- The registry is asked for the layouts' namespace, if the front hands that
on, and for some of the bridges. -/
theorem setupAsked_eq {state : σ} {home : Handle}
    (hhome : ∀ handle, (front.host.declare structuresNamespace
      (front.host.runtime state).2).result = .ok handle → handle = home) :
    ∃ done : List Bridge, done.Sublist
        (Boundary.bridges (front.host.runtime state).1 home) ∧
      front.setupAsked state =
        (if front.handsOn (.declare structuresNamespace)
            (front.host.runtime state).2
          then [.declare structuresNamespace] else []) ++
          done.map Bridge.moduleCall := by
  obtain ⟨rest, hrest, hstate⟩ := Boundary.recorded_establish hhome
  let later := (front.host.declare structuresNamespace
    (front.host.runtime state).2).state
  have hasked : (front.asked rest later).Sublist
      ((Boundary.bridges (front.host.runtime state).1 home).map
        Bridge.moduleCall) := by
    rw [← Bridge.filterMap_moduleCall?]
    exact (front.asked_sublist rest later).trans (hrest.filterMap _).sublist
  obtain ⟨done, hdone, hmap⟩ := List.sublist_map_iff.mp hasked
  refine ⟨done, hdone, ?_⟩
  rw [setupAsked, setupCalls, hstate, asked_runtime, asked_declare, ← hmap]

end Front

/-! ## The registry afterwards -/

namespace ModuleRegistry

variable {registry : ModuleRegistry}

/-- Grants leave the namespaces alone. -/
theorem Sound.namespaces_after_grants (hsound : registry.Sound)
    (bridges : List Bridge) :
    (registry.after (bridges.map Bridge.moduleCall)).namespaces =
      registry.namespaces := by
  induction bridges generalizing registry with
  | nil => rfl
  | cons bridge rest ih =>
      refine (ih (hsound.perform bridge.moduleCall)).trans ?_
      by_cases hrefused : bridge.moduleCall.Refused registry
      · rw [hsound.perform_of_refused hrefused]
      · rw [(hsound.perform_of_not_refused hrefused).2]
        exact namespaces_granting _ _

/-- Where the layouts' namespace is not declared, it is declared. -/
theorem after_declare_of_free
    (hfree : ∀ handle ∈ registry.namespaces,
      handle.name ≠ structuresNamespace) (calls : List ModuleCall) :
    registry.after (.declare structuresNamespace :: calls) =
      (registry.declaring structuresNamespace).after calls := by
  have hdeclare : (ModuleCall.perform (.declare structuresNamespace)
      registry).state = registry.declaring structuresNamespace := by
    rw [ModuleCall.perform, Action.bind_pure_apply, declare_of_free hfree]
  rw [after, List.foldl_cons, hdeclare]
  rfl

/-- What bridges between declared namespaces leave in the registry. -/
theorem Sound.after_bridges (hsound : registry.Sound) {bridges : List Bridge}
    (hdeclared : ∀ bridge ∈ bridges, bridge.reader ∈ registry.namespaces ∧
      bridge.owner ∈ registry.namespaces)
    (hdistinct : (bridges.map Bridge.grant).Nodup) :
    (registry.after (bridges.map Bridge.moduleCall)).grants =
      registry.grants ++
        (bridges.map Bridge.grant).filter (· ∉ registry.grants) := by
  obtain ⟨_, _, hgrants⟩ := hsound.obliges_bridges hdeclared hdistinct
  rw [afterCalls_ofRegistry, Bridge.filterMap_moduleCall?] at hgrants
  exact hgrants

end ModuleRegistry

namespace Front

variable {σ : Type} {front : Front σ}

theorem behind_runtime (front : Front σ) (state : σ) :
    front.behind (front.host.runtime state).2 = front.behind state :=
  (front.behind_answer .runtime state).trans (ite_self _)

/-- A candid front declares the layouts' namespace where it is not declared. -/
theorem Candid.home (hcandid : front.Candid) {state : σ}
    (hfree : ∀ handle ∈ (front.behind state).namespaces,
      handle.name ≠ structuresNamespace) :
    ∀ handle, (front.host.declare structuresNamespace
      (front.host.runtime state).2).result = .ok handle →
        handle = ⟨(front.behind state).nextId, structuresNamespace⟩ := by
  rw [hcandid.declared, front.behind_runtime,
    ModuleRegistry.declare_of_free hfree]
  intro handle hhandle
  exact (Except.ok.inj hhandle).symm

/-- Whether the layouts' namespace was asked for decides what is declared. -/
theorem namespaces_behind_establish {state : σ}
    (hsound : (front.behind state).Sound)
    (hfree : ∀ handle ∈ (front.behind state).namespaces,
      handle.name ≠ structuresNamespace) :
    (front.behind (Boundary.establish front.host state).state).namespaces =
      (front.behind state).namespaces ++
        if .declare structuresNamespace ∈ front.setupAsked state
          then [⟨(front.behind state).nextId, structuresNamespace⟩]
          else [] := by
  obtain ⟨home, hhome⟩ := Boundary.exists_home front.host state
  obtain ⟨done, _, hasked⟩ := front.setupAsked_eq hhome
  have hgrants : ModuleCall.declare structuresNamespace ∉
      done.map Bridge.moduleCall := by
    rw [List.mem_map]
    rintro ⟨bridge, _, hbridge⟩
    cases hbridge
  rw [behind_establish, hasked]
  split
  · rw [List.singleton_append, ModuleRegistry.after_declare_of_free hfree,
      (hsound.declaring hfree).namespaces_after_grants,
      if_pos List.mem_cons_self]
    rfl
  · rw [List.nil_append, hsound.namespaces_after_grants, if_neg hgrants,
      List.append_nil]

/-- A candid front leaves the layouts' namespace and the bridges that it handed
on. -/
theorem Candid.behind_establish (hcandid : front.Candid) {state : σ}
    (hsound : (front.behind state).Sound)
    (hfree : ∀ handle ∈ (front.behind state).namespaces,
      handle.name ≠ structuresNamespace) :
    ∃ done : List Bridge, done.Sublist (Boundary.bridges
        ModuleRegistry.runtimeHandle
        ⟨(front.behind state).nextId, structuresNamespace⟩) ∧
      front.setupAsked state =
        .declare structuresNamespace :: done.map Bridge.moduleCall ∧
      (front.behind (Boundary.establish front.host state).state).grants =
        (front.behind state).grants ++
          (done.map Bridge.grant).filter
            (· ∉ (front.behind state).grants) := by
  obtain ⟨done, hdone, hasked⟩ := front.setupAsked_eq (hcandid.home hfree)
  rw [hcandid.declares, if_pos rfl, List.singleton_append] at hasked
  rw [hcandid.runtime] at hdone
  refine ⟨done, hdone, hasked, ?_⟩
  rw [Front.behind_establish, hasked,
    ModuleRegistry.after_declare_of_free hfree,
    (hsound.declaring hfree).after_bridges
      (fun bridge hmem => hsound.bridges_declared bridge (hdone.subset hmem))
      ((hdone.map Bridge.grant).nodup (Boundary.nodup_setupGrants _ _))]
  rfl

end Front

namespace ModuleRegistry

/-- A setup that fails is not undone.  Whatever the front before a registry
answers, the registry is left after what it was asked until the setup gave up:
with the layouts' namespace if that was asked for, and with the grants that were
made, those of before kept; and setting up a synthesizer fails in the same way.
A later setup on the registry succeeds exactly if the layouts' namespace was not
asked for.  A front that is candid about the runtime and about declarations, so
that only grants or checks of them can fail, always leaves that namespace,
together with the bridges that it handed on. -/
theorem failed_setup_is_not_undone {σ : Type} (front : Front σ) {state : σ}
    {steps : List SystemStep}
    (hregistry : front.behind state = new.run steps)
    (hfree : ∀ handle ∈ (new.run steps).namespaces,
      handle.name ≠ structuresNamespace)
    {fault : Fault}
    (hfails : (Boundary.establish front.host state).result = .error fault) :
    let registry := new.run steps
    let home : Handle := ⟨registry.nextId, structuresNamespace⟩
    let asked := front.setupAsked state
    let left := front.behind (Boundary.establish front.host state).state
    (left = registry.after asked ∧
      left.namespaces = registry.namespaces ++
        (if .declare structuresNamespace ∈ asked then [home] else []) ∧
      left.grants =
        (registry.grants ++ grantsMade (registry.served asked)).eraseDups) ∧
    (∀ origin config fallbacks,
      let outcome := Synthesizer.new origin front.host config fallbacks state
      outcome.result = .error fault ∧ front.behind outcome.state = left) ∧
    ((∃ boundary, (Boundary.establish .ofRegistry left).result =
        .ok boundary) ↔ .declare structuresNamespace ∉ asked) ∧
    (.declare structuresNamespace ∈ asked →
      Boundary.establish .ofRegistry left =
        ⟨.error (.namespaceFault (.alreadyDeclared structuresNamespace)),
          left, []⟩) ∧
    (front.Candid →
      left.namespaces = registry.namespaces ++ [home] ∧
      ∃ done : List Bridge,
        done.Sublist (Boundary.bridges runtimeHandle home) ∧
        asked = .declare structuresNamespace :: done.map Bridge.moduleCall ∧
        left.grants = registry.grants ++
          (done.map Bridge.grant).filter (· ∉ registry.grants)) := by
  have hsound : (new.run steps).Sound := sound_new.run steps
  rw [← hregistry] at hsound hfree ⊢
  intro registry home asked left
  have hleft : left = registry.after asked := front.behind_establish state
  have hnames : left.namespaces = registry.namespaces ++
      if .declare structuresNamespace ∈ asked then [home] else [] :=
    front.namespaces_behind_establish hsound hfree
  have htaken : .declare structuresNamespace ∈ asked →
      Boundary.establish .ofRegistry left =
        ⟨.error (.namespaceFault (.alreadyDeclared structuresNamespace)),
          left, []⟩ := by
    intro hasked
    apply establish_of_taken
    rw [hnames, if_pos hasked]
    exact ⟨home, List.mem_append_right _ (List.mem_singleton_self _), rfl⟩
  refine ⟨⟨hleft, hnames, ?_⟩, ?_, ⟨?_, ?_⟩, htaken, ?_⟩
  · rw [hleft]
    exact hsound.grants_after asked
  · intro origin config fallbacks outcome
    have houtcome : outcome = ⟨.error fault, _, _⟩ :=
      Action.bind_apply_error hfails
    rw [houtcome]
    exact ⟨rfl, rfl⟩
  · rintro ⟨boundary, hboundary⟩ hasked
    rw [htaken hasked] at hboundary
    cases hboundary
  · intro hasked
    have hsame : left.namespaces = registry.namespaces := by
      rw [hnames, if_neg hasked, List.append_nil]
    have hsoundLeft : left.Sound := by
      rw [hleft]
      exact hsound.after asked
    rw [← hsame] at hfree
    exact ⟨_, (hsoundLeft.establish_of_free hfree).1⟩
  · intro hcandid
    obtain ⟨done, hdone, hasked, hgrants⟩ :=
      hcandid.behind_establish hsound hfree
    have hdeclared : .declare structuresNamespace ∈ asked := by
      rw [show asked = _ from hasked]
      exact List.mem_cons_self
    rw [hnames, if_pos hdeclared]
    exact ⟨rfl, done, hdone, hasked, hgrants⟩

end ModuleRegistry

/-! ## A front that refuses one grant -/

/-- Whether a call reaches what is behind the interference. -/
def Interference.handsOn (how : Interference) : HostCall → Bool
  | .runtime | .canRead _ _ _ => true
  | .declare _ => how.refuseDeclare.isNone && how.declareAs.isNone
  | .grant _ _ package => package ∉ how.refused && package ∉ how.dropped

theorem Interference.answer_interfered (how : Interference) (call : HostCall)
    (registry : ModuleRegistry) :
    ((ModuleHost.ofRegistry.interfered how).answer call registry).2 =
      if how.handsOn call then (ModuleHost.ofRegistry.answer call registry).2
      else registry := by
  cases call with
  | runtime =>
      simp only [ModuleHost.answer, ModuleHost.interfered, handsOn]
      cases how.runtime <;> rfl
  | declare name =>
      obtain ⟨_, refuseDeclare, declareAs, _, _, _, _⟩ := how
      cases refuseDeclare <;> cases declareAs <;> rfl
  | grant reader owner package =>
      simp only [ModuleHost.answer, ModuleHost.interfered, handsOn]
      by_cases hrefused : package ∈ how.refused
      · simp only [hrefused]
        rfl
      · by_cases hdropped : package ∈ how.dropped
        · simp only [hrefused, hdropped]
          rfl
        · simp only [hrefused, hdropped]
          rfl
  | canRead reader owner package =>
      simp only [ModuleHost.answer, ModuleHost.interfered, handsOn]
      split
      · rfl
      · split <;> rfl

/-- Interference with the calls on a registry. -/
def Front.interfered (how : Interference) : Front ModuleRegistry where
  host := .interfered how .ofRegistry
  behind := id
  handsOn call _ := how.handsOn call
  behind_answer := how.answer_interfered

/-- Interference with grants and with checks of them only. -/
theorem Front.candid_interfered {how : Interference}
    (hruntime : how.runtime = none) (hrefuse : how.refuseDeclare = none)
    (hdeclare : how.declareAs = none) : (interfered how).Candid := by
  obtain ⟨_, _, _, _, _, _, _⟩ := how
  cases hruntime
  cases hrefuse
  cases hdeclare
  exact ⟨fun _ => rfl, fun _ _ => rfl, fun _ _ => rfl⟩

namespace ModuleRegistry

/-- The second grant of a setup is refused. -/
def stingy : Interference :=
  { Interference.none with refused := [runtimePackage] }

theorem candid_stingy : (Front.interfered stingy).Candid :=
  Front.candid_interfered rfl rfl rfl

/-- The layouts' namespace is not declared on a registry with a plugin. -/
theorem pluginSteps_free : ∀ handle ∈ (new.run pluginSteps).namespaces,
    handle.name ≠ structuresNamespace := by
  decide

theorem stingy_fails :
    (Boundary.establish (Front.interfered stingy).host
        (new.run pluginSteps)).result =
      .error (.namespaceFault (.refused "refused strata.runtime")) := rfl

/-- The front is found out at the second grant; the namespace and the first
grant stay, and nothing is left for a second setup. -/
theorem refused_grant_leaves_declaration :
    let left := (Boundary.establish (Front.interfered stingy).host
      (new.run pluginSteps)).state
    left.namespaces =
        [runtimeHandle, plugin, ⟨3, structuresNamespace⟩] ∧
      left.grants = [⟨3, 1, scriptsPackage⟩] ∧
      Boundary.establish .ofRegistry left =
        ⟨.error (.namespaceFault (.alreadyDeclared structuresNamespace)),
          left, []⟩ := by
  intro left
  obtain ⟨⟨_, _, hgrants⟩, _, _, htaken, hcandid⟩ :=
    failed_setup_is_not_undone (Front.interfered stingy) rfl pluginSteps_free
      stingy_fails
  obtain ⟨hnames, done, _, hasked, _⟩ := hcandid candid_stingy
  refine ⟨hnames, hgrants.trans (by decide +kernel), htaken ?_⟩
  rw [hasked]
  exact List.mem_cons_self

/-- A setup that fails may leave a registry on which no other one succeeds. -/
theorem failed_setup_may_leave_residue :
    ¬ ∀ (front : Front ModuleRegistry) (state : ModuleRegistry)
        (steps : List SystemStep) (fault : Fault), front.Candid →
      front.behind state = new.run steps →
      (∀ handle ∈ (new.run steps).namespaces,
        handle.name ≠ structuresNamespace) →
      (Boundary.establish front.host state).result = .error fault →
        let left := front.behind (Boundary.establish front.host state).state
        left.namespaces = (new.run steps).namespaces ∧
          left.grants = (new.run steps).grants ∧
          ∃ boundary, (Boundary.establish .ofRegistry left).result =
            .ok boundary := by
  intro hundone
  obtain ⟨hnames, _⟩ := hundone (.interfered stingy) (new.run pluginSteps)
    pluginSteps _ candid_stingy rfl pluginSteps_free stingy_fails
  revert hnames
  decide

end ModuleRegistry

end ScriptHost
