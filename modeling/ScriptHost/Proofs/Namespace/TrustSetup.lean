import ScriptHost.Proofs.Namespace.Exchanges
import ScriptHost.Proofs.Namespace.GrantHistory
import ScriptHost.Proofs.Structure.LayoutRuns

/-!
# The trust setup

Whatever the module system answers, setting up the boundary of generated
layouts asks for one namespace and three grants, checks each grant, and gives
up at the first thing that goes wrong.  The boundary may then address two
packages of the runtime and never any other.
-/

namespace ScriptHost

/-- A way for one namespace to read a package of another. -/
structure Bridge where
  reader : Handle
  owner : Handle
  package : String

namespace Bridge

/-- The calls that build a bridge and check that it stands. -/
def calls (bridge : Bridge) : List HostCall :=
  [.grant bridge.reader bridge.owner bridge.package,
    .canRead bridge.reader bridge.owner bridge.package]

def grant (bridge : Bridge) : ReadGrant :=
  ⟨bridge.reader.id, bridge.owner.id, bridge.package⟩

end Bridge

namespace Boundary

def bridges (runtime home : Handle) : List Bridge :=
  [⟨home, runtime, scriptsPackage⟩, ⟨home, runtime, runtimePackage⟩,
    ⟨runtime, home, structuresPackage⟩]

/-- The calls of a whole setup, given the handles of the runtime and of the
layouts' namespace. -/
def setupCalls (runtime home : Handle) : List HostCall :=
  .runtime :: .declare structuresNamespace ::
    (bridges runtime home).flatMap Bridge.calls

def setupGrants (runtime home : Handle) : List ReadGrant :=
  (bridges runtime home).map Bridge.grant

/-- The three grants differ in their packages. -/
theorem nodup_setupGrants (runtime home : Handle) :
    (setupGrants runtime home).Nodup := by
  apply List.Nodup.of_map ReadGrant.package
  change [scriptsPackage, runtimePackage, structuresPackage].Nodup
  decide

def bridged (runtime home : Handle) : Boundary :=
  ⟨home, runtime, [scriptsPackage, runtimePackage], true, []⟩

variable {σ : Type} {host : ModuleHost σ}

/-! ## The calls of a setup -/

/-- Whether a grant took effect is a call, and the setup breaks if it did
not. -/
theorem follows_check (reader owner : Handle) (package : String)
    (fault : NamespaceFault) (before : Recorded HostCall σ) :
    host.Follows [.canRead reader owner package] () before
      ((Action.query (host.recording.canRead reader owner package) >>=
        fun readable => Action.require readable (.namespaceFault fault))
          before) := by
  have hquery : (Action.query (host.recording.canRead reader owner package)
      before).result =
        .ok (host.canRead reader owner package before.inner).1 := rfl
  rw [Action.bind_apply_ok hquery]
  cases hreads : (host.canRead reader owner package before.inner).1 with
  | false =>
      exact .breaks [] [] _ (.namespaceFault fault) rfl
        (ModuleHost.obliges_nil _) ⟨hreads, fault, rfl⟩ rfl rfl
  | true =>
      exact .completes (ModuleHost.obliges_cons.mpr
        ⟨hreads, ModuleHost.obliges_nil _⟩) rfl rfl

theorem follows_bridge (reader owner : Handle) (package : String)
    (fault : NamespaceFault) (before : Recorded HostCall σ) :
    host.Follows (Bridge.mk reader owner package).calls () before
      (bridge host.recording reader owner package fault before) := by
  have hgrant : host.Follows [.grant reader owner package] () before
      (host.recording.grant reader owner package before) :=
    ModuleHost.follows_action (fun _ => .granted) rfl (fun _ => trivial)
      fun _ _ => rfl
  exact hgrant.bind fun calls => follows_check reader owner package fault _

/-- The setup follows its plan with the handles that the module system
gives. -/
theorem follows_establish {state : σ} {home : Handle}
    (hhome : ∀ handle, (host.declare structuresNamespace
      (host.runtime state).2).result = .ok handle → handle = home) :
    host.Follows (setupCalls (host.runtime state).1 home)
      (bridged (host.runtime state).1 home) (.start state)
      (establish host.recording (.start state)) := by
  refine (ModuleHost.follows_runtime (.start state)).bind fun _ => ?_
  refine (ModuleHost.follows_action .handle rfl (fun _ => trivial) hhome).bind
    fun _ => ?_
  refine (follows_bridge home _ scriptsPackage _ _).bind fun _ => ?_
  refine (follows_bridge home _ runtimePackage _ _).bind fun _ => ?_
  refine (follows_bridge _ home structuresPackage _ _).bind fun _ => ?_
  exact .of_pure _ _

/-! ## The record of the calls -/

theorem bridge_mirrors (reader owner : Handle) (package : String)
    (fault : NamespaceFault) :
    (bridge host.recording reader owner package fault).Mirrors
      (bridge host reader owner package fault) := by
  apply Action.Mirrors.bind (Action.mirrors_action _ _)
  intro granted
  apply Action.Mirrors.bind (Action.mirrors_query _ _)
  intro readable
  exact Action.mirrors_require readable _

/-- Recording the calls of a setup changes nothing else. -/
theorem establish_mirrors :
    (establish host.recording).Mirrors (establish host) := by
  apply Action.Mirrors.bind (Action.mirrors_query _ _)
  intro runtime
  apply Action.Mirrors.bind (Action.mirrors_action _ _)
  intro home
  apply Action.Mirrors.bind (bridge_mirrors _ _ _ _)
  intro first
  apply Action.Mirrors.bind (bridge_mirrors _ _ _ _)
  intro second
  apply Action.Mirrors.bind (bridge_mirrors _ _ _ _)
  intro third
  exact Action.mirrors_pure _

theorem unrecorded_establish (host : ModuleHost σ) (state : σ) :
    (establish host.recording (.start state)).unrecorded =
      establish host state :=
  establish_mirrors (.start state)

/-- The namespace that is declared, if there is one. -/
theorem exists_home (host : ModuleHost σ) (state : σ) :
    ∃ home, ∀ handle, (host.declare structuresNamespace
      (host.runtime state).2).result = .ok handle → handle = home := by
  cases hresult : (host.declare structuresNamespace
      (host.runtime state).2).result with
  | error fault => exact ⟨default, nofun⟩
  | ok home => exact ⟨home, fun _ hhandle => (Except.ok.inj hhandle).symm⟩

/-- A setup succeeds exactly if all calls of its plan are answered well. -/
theorem establish_eq_ok_iff {state : σ} {home : Handle}
    (hhome : ∀ handle, (host.declare structuresNamespace
      (host.runtime state).2).result = .ok handle → handle = home)
    {boundary : Boundary} :
    (establish host state).result = .ok boundary ↔
      host.Obliges (setupCalls (host.runtime state).1 home) state ∧
        boundary = bridged (host.runtime state).1 home := by
  rw [← unrecorded_establish]
  exact (follows_establish hhome).result_eq_ok_iff

/-! ## What the boundary may address -/

/-- Layouts may address the two packages of the runtime that were asked for,
and no definition adds another. -/
theorem canAddress_iff {boundary : Boundary} {package : String}
    (hreadable : boundary.readable = [scriptsPackage, runtimePackage]) :
    boundary.canAddress package = true ↔
      package = scriptsPackage ∨ package = runtimePackage := by
  rw [canAddress, hreadable, List.contains_iff_mem, List.mem_pair]

theorem readable_foldl_define (boundary : Boundary) (names : List String) :
    (names.foldl define boundary).readable = boundary.readable := by
  induction names generalizing boundary with
  | nil => rfl
  | cons name rest ih => exact ih (boundary.define name)

end Boundary

namespace Synthesizer

variable {σ : Type} {host : ModuleHost σ}

/-- A request leaves alone what the boundary may read. -/
theorem readable_request (mode : FieldMode) (descriptor : String)
    (self : Synthesizer) :
    (request mode descriptor self).state.boundary.readable =
      self.boundary.readable := by
  rcases request_state_cases mode descriptor self with
    hsame | ⟨_, _, _, hpublish⟩
  · rw [hsame]
  · rw [hpublish]
    rfl

theorem readable_after (calls : List LayoutCall) (self : Synthesizer) :
    (self.after calls).boundary.readable = self.boundary.readable :=
  after_of
    (P := fun later => later.boundary.readable = self.boundary.readable)
    (fun mode descriptor later hlater =>
      (readable_request mode descriptor later).trans hlater)
    calls rfl

end Synthesizer

end ScriptHost
