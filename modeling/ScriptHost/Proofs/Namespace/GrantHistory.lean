import Mathlib.Data.List.Induction
import ScriptHost.Namespace.Registry
import ScriptHost.Proofs.Action
import ScriptHost.Proofs.Distinct

/-!
# The history of grants

A module registry is only ever added to: a call is refused and leaves it as it
is, or declares a namespace, or makes a grant between declared namespaces.  The
set of grants that reading is decided by and the log of grants stay in step, so
what may be read at any moment is what was granted before, and nothing else.
-/

namespace ScriptHost

inductive ModuleCall where
  | declare (name : String)
  | grant (reader owner : Handle) (package : String)
  deriving DecidableEq, Repr

inductive ModuleAnswer where
  | declared (handle : Handle)
  | granted
  deriving DecidableEq, Repr

namespace ModuleCall

def perform : ModuleCall → Action ModuleRegistry ModuleAnswer
  | declare name => do
    let handle ← ModuleRegistry.declare name
    return .declared handle
  | grant reader owner package => do
    ModuleRegistry.grant reader owner package
    return .granted

/-- The call asks for a name that is taken, or for a grant between handles of
which one is not that of a declared namespace. -/
def Refused (registry : ModuleRegistry) : ModuleCall → Prop
  | declare name => ∃ handle ∈ registry.namespaces, handle.name = name
  | grant reader owner _ =>
    ¬ (reader ∈ registry.namespaces ∧ owner ∈ registry.namespaces)

def fault (registry : ModuleRegistry) : ModuleCall → NamespaceFault
  | declare name => .alreadyDeclared name
  | grant reader owner _ =>
    .undeclared (if reader ∈ registry.namespaces then owner else reader)

def answer (registry : ModuleRegistry) : ModuleCall → ModuleAnswer
  | declare name => .declared ⟨registry.nextId, name⟩
  | grant .. => .granted

def grant? : ModuleCall → Option ReadGrant
  | declare _ => none
  | grant reader owner package => some ⟨reader.id, owner.id, package⟩

end ModuleCall

structure ServedModuleCall where
  call : ModuleCall
  result : Except Fault ModuleAnswer

/-- The grant that the call made, perhaps not for the first time. -/
def ServedModuleCall.made? (served : ServedModuleCall) : Option ReadGrant :=
  if served.result.isOk then served.call.grant? else none

/-- The grants that calls made, in order and with repetitions. -/
def grantsMade (served : List ServedModuleCall) : List ReadGrant :=
  served.filterMap (·.made?)

def ServedModuleCall.declared? : ServedModuleCall → Option Handle
  | ⟨.declare _, .ok (.declared handle)⟩ => some handle
  | _ => none

/-- The handles that calls returned for new namespaces, in order. -/
def handlesReturned (served : List ServedModuleCall) : List Handle :=
  served.filterMap (·.declared?)

namespace ModuleRegistry

variable {registry : ModuleRegistry}

def after (registry : ModuleRegistry) (calls : List ModuleCall) :
    ModuleRegistry :=
  calls.foldl (fun current call => (call.perform current).state) registry

def served (registry : ModuleRegistry) :
    List ModuleCall → List ServedModuleCall
  | [] => []
  | call :: rest =>
    ⟨call, (call.perform registry).result⟩ ::
      served (call.perform registry).state rest

/-! ## What is declared -/

theorem of_find? {name : String} {handle : Handle}
    (hfind : registry.find? name = some handle) :
    handle ∈ registry.namespaces ∧ handle.name = name := by
  rw [find?] at hfind
  refine ⟨List.mem_of_find?_eq_some hfind, ?_⟩
  simpa only [beq_iff_eq] using List.find?_some hfind

theorem find?_eq_none_iff {name : String} :
    registry.find? name = none ↔
      ∀ handle ∈ registry.namespaces, handle.name ≠ name := by
  rw [find?, List.find?_eq_none]
  simp only [beq_iff_eq, ne_eq]

/-- What holds of every registry that was only ever added to. -/
structure Sound (registry : ModuleRegistry) : Prop where
  rooted : runtimeHandle ∈ registry.namespaces
  numbered :
    registry.namespaces.map (·.id) = numbers registry.namespaces.length
  next : registry.nextId = UInt32.ofNat (registry.namespaces.length + 1)
  named : (registry.namespaces.map (·.name)).Nodup
  /-- Reading is decided by the grants of the log. -/
  inStep : ∀ grant, grant ∈ registry.inForce ↔ grant ∈ registry.grants
  once : registry.grants.Nodup
  /-- The log is between declared namespaces. -/
  known : ∀ grant ∈ registry.grants,
    (∃ reader ∈ registry.namespaces, reader.id = grant.reader) ∧
      ∃ owner ∈ registry.namespaces, owner.id = grant.owner

theorem sound_new : new.Sound where
  rooted := List.mem_singleton_self _
  numbered := rfl
  next := rfl
  named := List.nodup_singleton _
  inStep := fun _ => Iff.rfl
  once := List.nodup_nil
  known := fun _ hgrant => absurd hgrant List.not_mem_nil

namespace Sound

/-- A name tells which namespace it is. -/
theorem eq_of_name (hsound : registry.Sound) {left right : Handle}
    (hleft : left ∈ registry.namespaces)
    (hright : right ∈ registry.namespaces) (hname : left.name = right.name) :
    left = right :=
  List.inj_on_of_nodup_map hsound.named hleft hright hname

/-- A handle counts as declared if it is that of a declared namespace, in name
and in number. -/
theorem isDeclared_iff (hsound : registry.Sound) {handle : Handle} :
    registry.isDeclared handle = true ↔ handle ∈ registry.namespaces := by
  rw [isDeclared, Option.any_eq_true]
  constructor
  · rintro ⟨found, hfind, hid⟩
    obtain ⟨hfound, hname⟩ := of_find? hfind
    have hid : found.id = handle.id := by simpa only [beq_iff_eq] using hid
    have hsame : found = handle := by
      cases found
      cases handle
      cases hid
      cases hname
      rfl
    rw [← hsame]
    exact hfound
  · intro hmem
    cases hfind : registry.find? handle.name with
    | none => exact absurd rfl (find?_eq_none_iff.mp hfind handle hmem)
    | some found =>
        obtain ⟨hfound, hname⟩ := of_find? hfind
        rw [hsound.eq_of_name hfound hmem hname]
        exact ⟨handle, rfl, beq_self_eq_true handle.id⟩

/-- Until numbers run out, a number tells which namespace it is. -/
theorem nodup_ids (hsound : registry.Sound)
    (hsize : registry.namespaces.length ≤ UInt32.size) :
    (registry.namespaces.map (·.id)).Nodup := by
  rw [hsound.numbered]
  exact nodup_numbers hsize

/-- Until numbers run out, the next one belongs to no namespace. -/
theorem nextId_ne (hsound : registry.Sound)
    (hsize : registry.namespaces.length < UInt32.size) {handle : Handle}
    (hmem : handle ∈ registry.namespaces) : handle.id ≠ registry.nextId := by
  intro hequal
  apply next_not_mem_numbers hsize
  rw [← hsound.numbered, ← hsound.next, ← hequal]
  exact List.mem_map_of_mem hmem

end Sound

/-! ## What is added -/

def declaring (registry : ModuleRegistry) (name : String) : ModuleRegistry :=
  { registry with
    nextId := registry.nextId + 1
    namespaces := registry.namespaces ++ [⟨registry.nextId, name⟩] }

/-- The registry with a grant in force, which is logged if it is new. -/
def granting (registry : ModuleRegistry) (grant : ReadGrant) :
    ModuleRegistry :=
  if grant ∈ registry.inForce then registry
  else
    { registry with
      inForce := grant :: registry.inForce
      grants := registry.grants ++ [grant] }

theorem Sound.declaring (hsound : registry.Sound) {name : String}
    (hname : ∀ handle ∈ registry.namespaces, handle.name ≠ name) :
    (registry.declaring name).Sound where
  rooted := List.mem_append_left _ hsound.rooted
  numbered := by
    simp only [ModuleRegistry.declaring, List.map_append, List.map_cons,
      List.map_nil, List.length_append, List.length_cons, List.length_nil,
      Nat.zero_add, numbers_succ, hsound.numbered, hsound.next]
  next := by
    simp only [ModuleRegistry.declaring, hsound.next, List.length_append,
      List.length_cons, List.length_nil, Nat.zero_add, UInt32.ofNat_add]
    rfl
  named := by
    rw [ModuleRegistry.declaring, List.map_append, List.nodup_append_comm]
    refine List.nodup_cons.mpr ⟨fun hmem => ?_, hsound.named⟩
    obtain ⟨handle, hhandle, hsame⟩ := List.mem_map.mp hmem
    exact hname handle hhandle hsame
  inStep := hsound.inStep
  once := hsound.once
  known := by
    intro grant hgrant
    obtain ⟨⟨reader, hreader, hreads⟩, owner, howner, howns⟩ :=
      hsound.known grant hgrant
    exact ⟨⟨reader, List.mem_append_left _ hreader, hreads⟩, owner,
      List.mem_append_left _ howner, howns⟩

theorem namespaces_granting (registry : ModuleRegistry) (grant : ReadGrant) :
    (registry.granting grant).namespaces = registry.namespaces := by
  rw [granting]
  split <;> rfl

theorem mem_inForce_granting {registry : ModuleRegistry}
    {grant other : ReadGrant} :
    other ∈ (registry.granting grant).inForce ↔
      other = grant ∨ other ∈ registry.inForce := by
  rw [granting]
  split
  · rename_i hforce
    refine (or_iff_right_of_imp ?_).symm
    rintro rfl
    exact hforce
  · exact List.mem_cons

theorem Sound.grants_granting (hsound : registry.Sound) (grant : ReadGrant) :
    (registry.granting grant).grants =
      registry.grants ++ [grant].filter (· ∉ registry.grants) := by
  rw [granting]
  simp only [hsound.inStep]
  split <;> simp [*]

theorem Sound.granting (hsound : registry.Sound) {reader owner : Handle}
    (hreader : reader ∈ registry.namespaces)
    (howner : owner ∈ registry.namespaces) (package : String) :
    (registry.granting ⟨reader.id, owner.id, package⟩).Sound := by
  rw [ModuleRegistry.granting]
  split
  · exact hsound
  · rename_i hnew
    refine { hsound with inStep := ?_, once := ?_, known := ?_ }
    · intro grant
      rw [List.mem_cons, List.mem_append, List.mem_singleton, hsound.inStep,
        or_comm]
    · rw [hsound.inStep] at hnew
      rw [List.nodup_append_comm]
      exact List.nodup_cons.mpr ⟨hnew, hsound.once⟩
    · intro grant hgrant
      rcases List.mem_append.mp hgrant with hold | hnew
      · exact hsound.known grant hold
      · rw [List.mem_singleton.mp hnew]
        exact ⟨⟨reader, hreader, rfl⟩, owner, howner, rfl⟩

/-! ## One call -/

/-- The registry after a call that is not refused. -/
def extended (registry : ModuleRegistry) : ModuleCall → ModuleRegistry
  | .declare name => registry.declaring name
  | .grant reader owner package =>
    registry.granting ⟨reader.id, owner.id, package⟩

theorem declare_of_taken {name : String}
    (htaken : ∃ handle ∈ registry.namespaces, handle.name = name) :
    declare name registry =
      ⟨.error (.namespaceFault (.alreadyDeclared name)), registry, []⟩ := by
  rw [declare]
  cases hfind : registry.find? name with
  | some found => rfl
  | none =>
      obtain ⟨handle, hmem, hname⟩ := htaken
      exact absurd hname (find?_eq_none_iff.mp hfind handle hmem)

theorem declare_of_free {name : String}
    (hfree : ∀ handle ∈ registry.namespaces, handle.name ≠ name) :
    declare name registry =
      ⟨.ok ⟨registry.nextId, name⟩, registry.declaring name,
        [.namespaceDeclared ⟨registry.nextId, name⟩]⟩ := by
  rw [declare, find?_eq_none_iff.mpr hfree]
  rfl

namespace Sound

/-- A grant between declared namespaces is in force afterwards. -/
theorem grant_of_declared (hsound : registry.Sound)
    {reader owner : Handle} (hreader : reader ∈ registry.namespaces)
    (howner : owner ∈ registry.namespaces) (package : String) :
    (grant reader owner package registry).result = .ok () ∧
      (grant reader owner package registry).state =
        registry.granting ⟨reader.id, owner.id, package⟩ := by
  rw [grant, hsound.isDeclared_iff.mpr hreader,
    hsound.isDeclared_iff.mpr howner, ModuleRegistry.granting]
  simp only [Bool.not_true, Bool.false_eq_true, if_false]
  split <;> exact ⟨rfl, rfl⟩

/-- A grant for a handle that is not declared fails on the first such one. -/
theorem grant_of_undeclared (hsound : registry.Sound)
    {reader owner : Handle} (package : String)
    (hunknown : ¬ (reader ∈ registry.namespaces ∧
      owner ∈ registry.namespaces)) :
    grant reader owner package registry =
      ⟨.error (.namespaceFault (.undeclared
        (if reader ∈ registry.namespaces then owner else reader))),
        registry, []⟩ := by
  simp only [grant, ← hsound.isDeclared_iff] at hunknown ⊢
  cases hreader : registry.isDeclared reader with
  | false => rfl
  | true =>
      cases howner : registry.isDeclared owner with
      | false => rfl
      | true => exact absurd ⟨hreader, howner⟩ hunknown

/-- A call that is refused fails and changes nothing. -/
theorem perform_of_refused (hsound : registry.Sound) {call : ModuleCall}
    (hrefused : call.Refused registry) :
    call.perform registry =
      ⟨.error (.namespaceFault (call.fault registry)), registry, []⟩ := by
  cases call with
  | declare name =>
      rw [ModuleCall.perform, Action.bind_pure_apply,
        declare_of_taken hrefused]
      rfl
  | grant reader owner package =>
      rw [ModuleCall.perform, Action.bind_pure_apply,
        hsound.grant_of_undeclared package hrefused]
      rfl

/-- Any other call succeeds and adds what it asks for. -/
theorem perform_of_not_refused (hsound : registry.Sound) {call : ModuleCall}
    (hserved : ¬ call.Refused registry) :
    (call.perform registry).result = .ok (call.answer registry) ∧
      (call.perform registry).state = registry.extended call := by
  cases call with
  | declare name =>
      have hfree : ∀ handle ∈ registry.namespaces, handle.name ≠ name :=
        fun handle hmem hname => hserved ⟨handle, hmem, hname⟩
      rw [ModuleCall.perform, Action.bind_pure_apply, declare_of_free hfree]
      exact ⟨rfl, rfl⟩
  | grant reader owner package =>
      obtain ⟨hreader, howner⟩ := not_not.mp hserved
      obtain ⟨hresult, hstate⟩ :=
        hsound.grant_of_declared hreader howner package
      rw [ModuleCall.perform, Action.bind_pure_apply, hresult, hstate]
      exact ⟨rfl, rfl⟩

theorem perform (hsound : registry.Sound) (call : ModuleCall) :
    (call.perform registry).state.Sound := by
  by_cases hrefused : call.Refused registry
  · rw [hsound.perform_of_refused hrefused]
    exact hsound
  · rw [(hsound.perform_of_not_refused hrefused).2]
    cases call with
    | declare name =>
        exact hsound.declaring fun handle hmem hname =>
          hrefused ⟨handle, hmem, hname⟩
    | grant reader owner package =>
        obtain ⟨hreader, howner⟩ := not_not.mp hrefused
        exact hsound.granting hreader howner package

/-- A call adds the namespace whose handle it returns. -/
theorem namespaces_perform (hsound : registry.Sound) (call : ModuleCall) :
    (call.perform registry).state.namespaces =
      registry.namespaces ++ (ServedModuleCall.declared?
        ⟨call, (call.perform registry).result⟩).toList := by
  by_cases hrefused : call.Refused registry
  · rw [hsound.perform_of_refused hrefused]
    cases call <;> exact (List.append_nil _).symm
  · obtain ⟨hresult, hstate⟩ := hsound.perform_of_not_refused hrefused
    rw [hresult, hstate]
    cases call with
    | declare name => rfl
    | grant reader owner package =>
        rw [ModuleRegistry.extended, namespaces_granting]
        exact (List.append_nil _).symm

/-- A call logs the grant it made, unless that was logged before. -/
theorem grants_perform (hsound : registry.Sound) (call : ModuleCall) :
    (call.perform registry).state.grants =
      registry.grants ++ (ServedModuleCall.made?
        ⟨call, (call.perform registry).result⟩).toList.filter
          (· ∉ registry.grants) := by
  by_cases hrefused : call.Refused registry
  · rw [hsound.perform_of_refused hrefused]
    exact (List.append_nil _).symm
  · obtain ⟨hresult, hstate⟩ := hsound.perform_of_not_refused hrefused
    rw [hresult, hstate]
    cases call with
    | declare name => exact (List.append_nil _).symm
    | grant reader owner package => exact hsound.grants_granting _

/-- What may be read is decided by the log. -/
theorem canRead_iff (hsound : registry.Sound) {reader owner : Handle}
    {package : String} :
    registry.canRead reader owner package = true ↔ reader.id = owner.id ∨
      ⟨reader.id, owner.id, package⟩ ∈ registry.grants := by
  rw [canRead, Bool.or_eq_true, beq_iff_eq, decide_eq_true_iff,
    hsound.inStep]

/-- A call that makes a grant opens what it names, and no call opens or closes
anything else. -/
theorem canRead_perform_iff (hsound : registry.Sound) (call : ModuleCall)
    {reader owner : Handle} {package : String} :
    (call.perform registry).state.canRead reader owner package = true ↔
      registry.canRead reader owner package = true ∨
        ServedModuleCall.made? ⟨call, (call.perform registry).result⟩ =
          some ⟨reader.id, owner.id, package⟩ := by
  rw [(hsound.perform call).canRead_iff, hsound.canRead_iff, or_assoc,
    hsound.grants_perform]
  refine or_congr_right ?_
  rw [List.mem_append, List.mem_filter, Option.mem_toList,
    decide_eq_true_iff, or_and_left]
  exact and_iff_left (em _)

end Sound

/-! ## Whole runs -/

theorem after_append (registry : ModuleRegistry)
    (calls more : List ModuleCall) :
    registry.after (calls ++ more) = (registry.after calls).after more :=
  List.foldl_append

theorem served_append (registry : ModuleRegistry)
    (calls more : List ModuleCall) :
    registry.served (calls ++ more) =
      registry.served calls ++ (registry.after calls).served more := by
  induction calls generalizing registry with
  | nil => rfl
  | cons call rest ih => exact congrArg (List.cons _) (ih _)

theorem Sound.after (hsound : registry.Sound) (calls : List ModuleCall) :
    (registry.after calls).Sound := by
  induction calls generalizing registry with
  | nil => exact hsound
  | cons call rest ih => exact ih (hsound.perform call)

/-- The namespaces go on with those whose handles calls returned. -/
theorem Sound.namespaces_after (hsound : registry.Sound)
    (calls : List ModuleCall) :
    (registry.after calls).namespaces =
      registry.namespaces ++ handlesReturned (registry.served calls) := by
  induction calls generalizing registry with
  | nil => exact (List.append_nil _).symm
  | cons call rest ih =>
      have hrest := ih (hsound.perform call)
      rw [hsound.namespaces_perform, List.append_assoc] at hrest
      rw [served, handlesReturned, List.filterMap_cons]
      refine hrest.trans (congrArg (registry.namespaces ++ ·) ?_)
      cases ServedModuleCall.declared?
        ⟨call, (call.perform registry).result⟩ <;> rfl

/-- The log goes on with the grants that were made, each where it was made
first. -/
theorem Sound.grants_after (hsound : registry.Sound)
    (calls : List ModuleCall) :
    (registry.after calls).grants =
      (registry.grants ++ grantsMade (registry.served calls)).eraseDups := by
  induction calls using List.reverseRecOn with
  | nil =>
      change registry.grants = (registry.grants ++ []).eraseDups
      rw [List.append_nil, eraseDups_of_nodup hsound.once]
  | append_singleton calls call ih =>
      rw [after_append, served_append, grantsMade, List.filterMap_append,
        ← List.append_assoc]
      change (call.perform (registry.after calls)).state.grants =
        (registry.grants ++ grantsMade (registry.served calls) ++ _).eraseDups
      rw [(hsound.after calls).grants_perform, ih]
      generalize registry.grants ++ grantsMade (registry.served calls) = log
      simp only [served, List.filterMap_cons, List.filterMap_nil]
      cases ServedModuleCall.made?
          ⟨call, (call.perform (registry.after calls)).result⟩ with
      | none => simp
      | some made =>
          rw [Option.toList_some, eraseDups_concat]
          split <;> simp [*]

/-- From the start, the log lists the grants that were made. -/
theorem grants_after (calls : List ModuleCall) :
    (new.after calls).grants = (grantsMade (new.served calls)).eraseDups :=
  sound_new.grants_after calls

/-- What may be read once may be read ever after. -/
theorem Sound.canRead_after (hsound : registry.Sound) {reader owner : Handle}
    {package : String} (calls : List ModuleCall)
    (hreads : registry.canRead reader owner package = true) :
    (registry.after calls).canRead reader owner package = true := by
  induction calls generalizing registry with
  | nil => exact hreads
  | cons call rest ih =>
      exact ih (hsound.perform call)
        ((hsound.canRead_perform_iff call).mpr (.inl hreads))

/-- Read access is the history of grants.  At every moment of every run, the
namespaces are that of the runtime and those that calls declared, in order and
with the handles the calls returned; they are numbered from one on, names tell
them apart, and so do numbers until they run out.  The log lists each
grant that some call made once, where it was made first, and is between declared
namespaces; a namespace may read a package of another exactly if the log says
so, and its own packages always.  So a call that makes a grant opens what it
names and nothing else, and what may be read once may be read ever after.  A
call fails exactly if its name is taken, or if one of its handles agrees with no
declared namespace in name and number, and then it changes nothing; any other
declaration returns the handle of the name under the next number. -/
theorem reading_follows_the_history_of_grants (calls : List ModuleCall) :
    let registry := new.after calls
    (registry.namespaces =
        runtimeHandle :: handlesReturned (new.served calls) ∧
      registry.namespaces.map (·.id) = numbers registry.namespaces.length ∧
      registry.nextId = UInt32.ofNat (registry.namespaces.length + 1)) ∧
    ((registry.namespaces.map (·.name)).Nodup ∧
      (registry.namespaces.length ≤ UInt32.size →
        (registry.namespaces.map (·.id)).Nodup)) ∧
    (registry.grants.Nodup ∧
      registry.grants = (grantsMade (new.served calls)).eraseDups ∧
      ∀ grant ∈ registry.grants,
        (∃ reader ∈ registry.namespaces, reader.id = grant.reader) ∧
          ∃ owner ∈ registry.namespaces, owner.id = grant.owner) ∧
    (∀ reader owner package,
      registry.canRead reader owner package = true ↔
        reader.id = owner.id ∨
          ⟨reader.id, owner.id, package⟩ ∈ registry.grants) ∧
    (∀ call reader owner package,
      (call.perform registry).state.canRead reader owner package = true ↔
        registry.canRead reader owner package = true ∨
          ServedModuleCall.made? ⟨call, (call.perform registry).result⟩ =
            some ⟨reader.id, owner.id, package⟩) ∧
    (∀ more reader owner package,
      registry.canRead reader owner package = true →
        (new.after (calls ++ more)).canRead reader owner package = true) ∧
    ∀ call : ModuleCall,
      ((∃ fault, (call.perform registry).result = .error fault) ↔
        call.Refused registry) ∧
      (call.Refused registry → call.perform registry =
        ⟨.error (.namespaceFault (call.fault registry)), registry, []⟩) ∧
      (¬ call.Refused registry →
        (call.perform registry).result = .ok (call.answer registry)) := by
  intro registry
  have hsound : registry.Sound := sound_new.after calls
  refine ⟨⟨sound_new.namespaces_after calls, hsound.numbered, hsound.next⟩,
    ⟨hsound.named, hsound.nodup_ids⟩,
    ⟨hsound.once, grants_after calls, hsound.known⟩, ?_, ?_, ?_, ?_⟩
  · intro reader owner package
    exact hsound.canRead_iff
  · intro call reader owner package
    exact hsound.canRead_perform_iff call
  · intro more reader owner package hreads
    rw [after_append]
    exact hsound.canRead_after more hreads
  · intro call
    refine ⟨⟨?_, ?_⟩, hsound.perform_of_refused,
      fun hserved => (hsound.perform_of_not_refused hserved).1⟩
    · rintro ⟨fault, hfault⟩
      by_contra hserved
      rw [(hsound.perform_of_not_refused hserved).1] at hfault
      cases hfault
    · intro hrefused
      rw [hsound.perform_of_refused hrefused]
      exact ⟨_, rfl⟩

/-! ## A plugin and a made-up handle of the same number -/

def plugin : Handle := ⟨2, "app.plugin"⟩

/-- A handle that nobody declared. -/
def stranger : Handle := ⟨2, "app.stranger"⟩

/-- A plugin is let read the scripts, twice; the stranger is let read nothing,
and the plugin is not declared again. -/
def pluginCalls : List ModuleCall :=
  [.declare "app.plugin", .grant plugin runtimeHandle scriptsPackage,
    .grant stranger runtimeHandle runtimePackage, .declare "app.plugin",
    .grant plugin runtimeHandle scriptsPackage]

theorem plugin_reads_scripts_and_nothing_else :
    let registry := new.after pluginCalls
    registry.namespaces = [runtimeHandle, plugin] ∧
      registry.namespaces.length ≤ UInt32.size ∧
      (registry.namespaces.map (·.id)).Nodup ∧
      registry.grants = [⟨2, 1, scriptsPackage⟩] ∧
      (∃ reader ∈ registry.namespaces, reader.id = 2) ∧
      ¬ registry.canRead plugin runtimeHandle runtimePackage = true ∧
      (new.after (pluginCalls ++ pluginCalls)).canRead plugin runtimeHandle
        scriptsPackage = true ∧
      (ModuleCall.grant stranger plugin scriptsPackage).perform registry =
        ⟨.error (.namespaceFault (.undeclared stranger)), registry, []⟩ := by
  intro registry
  have hsize : registry.namespaces.length ≤ UInt32.size := by decide
  obtain ⟨⟨hdeclared, _⟩, ⟨_, hids⟩, ⟨_, hgrants, hknown⟩, hreads, _, hlater,
    hcalls⟩ := reading_follows_the_history_of_grants pluginCalls
  have hlog : registry.grants = [⟨2, 1, scriptsPackage⟩] :=
    hgrants.trans (by decide +kernel)
  have hmem : ⟨2, 1, scriptsPackage⟩ ∈ registry.grants := by
    rw [hlog]
    exact List.mem_singleton_self _
  refine ⟨hdeclared.trans (by decide +kernel), hsize, hids hsize, hlog,
    (hknown _ hmem).1, ?_, hlater _ _ _ _ ((hreads _ _ _).mpr (.inr hmem)),
    (hcalls _).2.1 (by simp only [ModuleCall.Refused]; decide +kernel)⟩
  rw [hreads, hlog]
  decide

end ModuleRegistry

end ScriptHost
