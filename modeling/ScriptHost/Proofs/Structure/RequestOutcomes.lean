import ScriptHost.Proofs.Field.Descriptor
import ScriptHost.Proofs.Namespace.TrustSetup
import ScriptHost.Proofs.Structure.SlotPlan

/-!
# How requests end

A boundary that was set up permits layouts of either mode, so a request can
only fail by its descriptor, and then it fails as reading the descriptor does,
under the name of the layout.  A request that fails changes nothing at all, and
it fails again whenever it is repeated.
-/

namespace ScriptHost

/-- What is asked for under a name ends as reading the descriptor does: it
succeeds if the descriptor is read, and otherwise the same fault is reported
under that name. -/
def EndsAsReading {α : Type} (limit : Nat) (name descriptor : String)
    (result : Except Fault α) : Prop :=
  ((∃ value, result = .ok value) ↔
    ∃ shape, Shape.ofDescriptor limit descriptor = .ok shape) ∧
  ∀ fault, result = .error fault → ∃ cause,
    Shape.ofDescriptor limit descriptor =
      .error (.layoutGeneration descriptor cause) ∧
    fault = .layoutGeneration name cause

/-! ## Boundaries that permit layouts -/

namespace Boundary

/-- The boundary permits what layouts of either mode refer to. -/
def Permits (boundary : Boundary) : Prop :=
  ∀ mode, Layout.checkBoundary mode boundary = .ok ()

theorem permits_of_establish {σ : Type} {host : ModuleHost σ} {system : σ}
    {boundary : Boundary}
    (hboundary : (establish host system).result = .ok boundary) :
    boundary.Permits := by
  obtain ⟨home, hhome⟩ := exists_home host system
  obtain ⟨_, rfl⟩ := (establish_eq_ok_iff hhome).mp hboundary
  intro mode
  cases mode <;> rfl

theorem Permits.define {boundary : Boundary} (hpermits : boundary.Permits)
    (name : String) : (boundary.define name).Permits :=
  hpermits

theorem Permits.foldl_define {boundary : Boundary}
    (hpermits : boundary.Permits) (names : List String) :
    (names.foldl Boundary.define boundary).Permits := by
  induction names generalizing boundary with
  | nil => exact hpermits
  | cons name rest ih => exact ih (hpermits.define name)

end Boundary

/-! ## Generating a layout -/

namespace Layout

variable {stamp : Stamp} {mode : FieldMode} {limit : Nat}
variable {name descriptor : String} {boundary : Boundary}

theorem generate_of_read (hpermits : boundary.Permits) {shape : Shape}
    (hread : Shape.read limit descriptor = .ok shape) :
    generate stamp mode limit name descriptor boundary =
      .ok ⟨stamp, name, shape, mode, FieldSlot.plan mode shape,
        boundary.home⟩ :=
  generate_eq_ok_iff.mpr ⟨hpermits mode, shape, hread, rfl⟩

theorem generate_of_read_error (hpermits : boundary.Permits)
    {cause : ShapeFault}
    (hread : Shape.read limit descriptor = .error cause) :
    generate stamp mode limit name descriptor boundary =
      .error (.layoutGeneration name (.shape cause)) := by
  rw [generate, hpermits mode, hread]

end Layout

/-- Whatever succeeds if the descriptor is read, and fails with its fault under
the name otherwise, ends as reading does. -/
theorem endsAsReading_of {α : Type} {limit : Nat} {name descriptor : String}
    {result : Except Fault α}
    (hok : ∀ shape, Shape.read limit descriptor = .ok shape →
      ∃ value, result = .ok value)
    (herror : ∀ cause, Shape.read limit descriptor = .error cause →
      result = .error (.layoutGeneration name (.shape cause))) :
    EndsAsReading limit name descriptor result := by
  cases hread : Shape.read limit descriptor with
  | ok shape =>
      obtain ⟨value, rfl⟩ := hok shape hread
      refine ⟨iff_of_true ⟨value, rfl⟩ ⟨shape, ?_⟩, nofun⟩
      exact Shape.ofDescriptor_eq_ok_iff.mpr hread
  | error cause =>
      rw [herror cause hread]
      have hdescriptor : Shape.ofDescriptor limit descriptor =
          .error (.layoutGeneration descriptor (.shape cause)) :=
        Shape.ofDescriptor_eq_error_iff.mpr ⟨cause, hread, rfl⟩
      refine ⟨iff_of_false nofun ?_, ?_⟩
      · rintro ⟨shape, hshape⟩
        cases hdescriptor.symm.trans hshape
      · intro fault hfault
        cases hfault
        exact ⟨.shape cause, hdescriptor, rfl⟩

namespace Synthesizer

variable {self : Synthesizer} {mode : FieldMode} {descriptor : String}

/-! ## Requests behind a boundary that permits them -/

/-- What is true of a synthesizer at every moment after its setup. -/
structure Ready (maker : Synthesizer) : Prop where
  sound : maker.Sound
  permits : maker.boundary.Permits
  planned : ∀ entry ∈ maker.published.entries, entry.2.Planned

theorem ready_new {σ : Type} {host : ModuleHost σ} {origin : Nat}
    {config : LayoutConfig} {fallbacks : List LayoutSource} {system : σ}
    {start : Synthesizer}
    (hstart : (new origin host config fallbacks system).result = .ok start) :
    start.Ready where
  sound := sound_new hstart
  permits := by
    obtain ⟨boundary, hboundary, rfl⟩ := new_eq_ok_iff.mp hstart
    exact Boundary.permits_of_establish hboundary
  planned := by
    obtain ⟨boundary, _, rfl⟩ := new_eq_ok_iff.mp hstart
    exact fun _ hentry => absurd hentry List.not_mem_nil

theorem ready_request (mode : FieldMode) (descriptor : String)
    (hself : self.Ready) : (request mode descriptor self).state.Ready := by
  have hsound := sound_request mode descriptor hself.sound
  rcases request_state_cases mode descriptor self with
    hsame | ⟨hfree, layout, hgenerate, hpublish⟩
  · rw [hsame]
    exact hself
  · rw [hpublish] at hsound ⊢
    refine ⟨hsound, hself.permits.define _, ?_⟩
    intro entry hentry
    change entry ∈ (self.published.publish _ layout).entries at hentry
    rw [Published.publish_entries layout hfree, Published.mem_place] at hentry
    rcases hentry with rfl | hentry
    · exact (Layout.planned_of_generate hgenerate).1
    · exact hself.planned entry hentry

theorem ready_after (calls : List LayoutCall) (hself : self.Ready) :
    (self.after calls).Ready :=
  after_of (P := Ready)
    (fun mode descriptor _ hcurrent => ready_request mode descriptor hcurrent)
    calls hself

/-- What is published under the name of a descriptor was read from that
descriptor. -/
theorem Sound.read_of_find? (hself : self.Sound) {layout : Layout}
    (hfind : self.published.find? (mode.canonicalName descriptor) =
      some layout) :
    Shape.read self.config.maxFields descriptor = .ok layout.shape := by
  have hhosts := hself.hosts _ (Published.mem_of_find? hfind)
  have hsame : (layout.mode, layout.shape.descriptor) = (mode, descriptor) :=
    FieldMode.canonicalName_injective hhosts.canonical
  exact Shape.read_eq_ok_iff.mpr ⟨(Prod.mk.inj hsame).2, hhosts.bounded⟩

/-- A request for a descriptor that is read succeeds, and makes the layout
unless it is there already. -/
theorem request_of_read (mode : FieldMode) (hself : self.Ready)
    {shape : Shape}
    (hread : Shape.read self.config.maxFields descriptor = .ok shape) :
    ∃ layout, (request mode descriptor self).result =
      .ok (layout, !self.contains (mode.canonicalName descriptor)) := by
  rcases resolve_cases mode (mode.canonicalName descriptor) descriptor self
    with ⟨layout, hfind, hresolve⟩ | ⟨_, fault, hgenerate, _⟩ |
      ⟨hfree, layout, _, hresolve⟩
  · exact ⟨layout, by rw [request, hresolve, contains, hfind]; rfl⟩
  · rw [Layout.generate_of_read hself.permits hread] at hgenerate
    cases hgenerate
  · exact ⟨layout, by rw [request, hresolve, contains, hfree]; rfl⟩

/-- A request for a descriptor that is not read fails and does nothing. -/
theorem request_of_read_error (mode : FieldMode) (hself : self.Ready)
    {cause : ShapeFault}
    (hread : Shape.read self.config.maxFields descriptor = .error cause) :
    request mode descriptor self =
      ⟨.error (.layoutGeneration (mode.canonicalName descriptor)
        (.shape cause)), self, []⟩ := by
  rcases resolve_cases mode (mode.canonicalName descriptor) descriptor self
    with ⟨layout, hfind, _⟩ | ⟨_, fault, hgenerate, hresolve⟩ |
      ⟨_, layout, hgenerate, _⟩
  · cases hread.symm.trans (hself.sound.read_of_find? hfind)
  · rw [Layout.generate_of_read_error hself.permits hread] at hgenerate
    cases hgenerate
    exact hresolve
  · rw [Layout.generate_of_read_error hself.permits hread] at hgenerate
    cases hgenerate

/-! ## Calls for one layout -/

variable {call : LayoutCall}

theorem endsAsReading_perform (hself : self.Ready)
    (htarget : call.target? self.config.defaultMode =
      some (mode, descriptor)) :
    EndsAsReading self.config.maxFields (mode.canonicalName descriptor)
      descriptor (call.perform self).result := by
  rw [perform_of_target? htarget]
  apply endsAsReading_of
  · intro shape hread
    obtain ⟨layout, hlayout⟩ := request_of_read mode hself hread
    exact ⟨.layout layout, by rw [hlayout]; rfl⟩
  · intro cause hread
    rw [request_of_read_error mode hself hread]
    rfl

/-- A call for one layout that fails once fails in the same way at every
moment, and does nothing. -/
theorem perform_of_error {later : Synthesizer} (hself : self.Ready)
    (hlater : later.Ready) (hconfig : later.config = self.config)
    (htarget : call.target? self.config.defaultMode = some (mode, descriptor))
    {fault : Fault} (hfault : (call.perform self).result = .error fault) :
    call.perform later = ⟨.error fault, later, []⟩ := by
  rw [perform_of_target? htarget] at hfault
  cases hread : Shape.read self.config.maxFields descriptor with
  | ok shape =>
      obtain ⟨layout, hlayout⟩ := request_of_read mode hself hread
      rw [hlayout] at hfault
      cases hfault
  | error cause =>
      rw [request_of_read_error mode hself hread] at hfault
      rw [← hconfig] at hread htarget
      rw [perform_of_target? htarget, request_of_read_error mode hlater hread]
      cases hfault
      rfl

/-- Requests fail exactly on descriptors that are not read, and leave no trace.
Behind every boundary that was set up, however the module system answered and
whatever was defined since, a layout is generated under any name if and only if
the descriptor is read, and otherwise the fault of the descriptor is reported
under that name.  At every moment of a run a call for one layout ends in the
same way under its canonical name.  If it fails, the synthesizer is what it was
before, every run from there on goes as if the call had not been made, and the
call fails with the same fault whenever it is repeated. -/
theorem malformed_requests_leave_no_trace {σ : Type} {host : ModuleHost σ}
    {system : σ} {boundary : Boundary}
    (hboundary : (Boundary.establish host system).result = .ok boundary) :
    (∀ (names : List String) (stamp : Stamp) (mode : FieldMode) (limit : Nat)
      (name descriptor : String),
      EndsAsReading limit name descriptor
        (Layout.generate stamp mode limit name descriptor
          (names.foldl Boundary.define boundary))) ∧
    ∀ (origin : Nat) (config : LayoutConfig) (fallbacks : List LayoutSource)
      (start : Synthesizer),
      (new origin host config fallbacks system).result = .ok start →
        ∀ (calls : List LayoutCall) (call : LayoutCall) (mode : FieldMode)
          (descriptor : String),
          call.target? config.defaultMode = some (mode, descriptor) →
            EndsAsReading config.maxFields (mode.canonicalName descriptor)
              descriptor (call.perform (start.after calls)).result ∧
            ∀ fault,
              (call.perform (start.after calls)).result = .error fault →
                call.perform (start.after calls) =
                  ⟨.error fault, start.after calls, []⟩ ∧
                ∀ more : List LayoutCall,
                  start.after (calls ++ call :: more) =
                    start.after (calls ++ more) ∧
                  (start.after (calls ++ [call])).served more =
                    (start.after calls).served more ∧
                  (call.perform (start.after (calls ++ more))).result =
                    .error fault := by
  constructor
  · intro names stamp mode limit name descriptor
    have hpermits :=
      (Boundary.permits_of_establish hboundary).foldl_define names
    apply endsAsReading_of
    · intro shape hread
      exact ⟨_, Layout.generate_of_read hpermits hread⟩
    · intro cause hread
      exact Layout.generate_of_read_error hpermits hread
  · intro origin config fallbacks start hstart calls call mode descriptor
      htarget
    have hready := ready_new hstart
    have hconfig := config_after hstart
    rw [← hconfig calls] at htarget ⊢
    refine ⟨endsAsReading_perform (ready_after calls hready) htarget, ?_⟩
    intro fault hfault
    have hagain : ∀ more : List LayoutCall,
        call.perform (start.after (calls ++ more)) =
          ⟨.error fault, start.after (calls ++ more), []⟩ := by
      intro more
      exact perform_of_error (ready_after calls hready)
        (ready_after _ hready) ((hconfig _).trans (hconfig calls).symm)
        htarget hfault
    have hnow := hagain []
    rw [List.append_nil] at hnow
    have hunchanged : (start.after calls).after [call] = start.after calls :=
      congrArg Outcome.state hnow
    refine ⟨hnow, fun more => ⟨?_, ?_, congrArg Outcome.result (hagain more)⟩⟩
    · calc start.after (calls ++ call :: more)
          = ((start.after calls).after [call]).after more := by
            rw [after_append]
            rfl
        _ = start.after (calls ++ more) := by
            rw [hunchanged, after_append]
    · rw [after_append, hunchanged]

/-- A registry behind a front that claims grants it never makes. -/
def credulousSystem : ModuleHost ModuleRegistry :=
  .interfered { Interference.none with
    dropped := [scriptsPackage, runtimePackage, structuresPackage]
    trusted := [scriptsPackage, runtimePackage, structuresPackage] }
    .ofRegistry

/-- A module system that only claims to make its grants is believed.  Behind
the boundary it leads to, an unknown letter is a fault under any name, it stays
one whatever else is asked for, and nothing comes of it. -/
theorem unknown_letter_leaves_no_trace :
    ∃ boundary start,
      (Boundary.establish credulousSystem ModuleRegistry.new).result =
        .ok boundary ∧
      (new 0 credulousSystem .default [] ModuleRegistry.new).result =
        .ok start ∧
      (¬ ∃ layout, Layout.generate ⟨0, 0⟩ .single 2 "Any" "X?" boundary =
        .ok layout) ∧
      start.after [.get "OD" .dual, .find "strata.structures.Dual$X?",
          .get "I" .single] =
        start.after [.get "OD" .dual, .get "I" .single] ∧
      ((LayoutCall.find "strata.structures.Dual$X?").perform
          (start.after [.get "OD" .dual, .get "I" .single])).result =
        .error (.layoutGeneration "strata.structures.Dual$X?"
          (.shape (.invalidToken 'X' 0))) := by
  have hboundary :
      (Boundary.establish credulousSystem ModuleRegistry.new).result =
        .ok (.bridged ModuleRegistry.runtimeHandle
          ⟨2, structuresNamespace⟩) := rfl
  have hstart :
      (new 0 credulousSystem .default [] ModuleRegistry.new).result =
        .ok ⟨0, .bridged ModuleRegistry.runtimeHandle
          ⟨2, structuresNamespace⟩, .default, .empty, [], 0⟩ := rfl
  obtain ⟨hgenerate, hcalls⟩ := malformed_requests_leave_no_trace hboundary
  obtain ⟨_, hfails⟩ := hcalls 0 .default [] _ hstart [.get "OD" .dual]
    (.find "strata.structures.Dual$X?") .dual "X?"
    (FieldMode.route_canonicalName .dual "X?")
  have hread : Shape.ofDescriptor 2 "X?" =
      .error (.layoutGeneration "X?" (.shape (.invalidToken 'X' 0))) := rfl
  obtain ⟨_, hmore⟩ := hfails (.layoutGeneration "strata.structures.Dual$X?"
    (.shape (.invalidToken 'X' 0))) (by decide +kernel)
  obtain ⟨hafter, _, hagain⟩ := hmore [.get "I" .single]
  refine ⟨_, _, hboundary, hstart, ?_, hafter, hagain⟩
  intro hlayout
  obtain ⟨shape, hshape⟩ :=
    (hgenerate [] ⟨0, 0⟩ .single 2 "Any" "X?").1.mp hlayout
  cases hread.symm.trans hshape

end Synthesizer

end ScriptHost
