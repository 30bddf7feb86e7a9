import Mathlib.Data.Finset.Card
import Mathlib.Data.List.Sort
import ScriptHost.Proofs.Distinct
import ScriptHost.Proofs.Structure.RequestOutcomes

/-!
# Requests in advance

Requests in advance are resolved one after the other until one fails.  What
they leave behind depends only on which requests were resolved, not on their
order and not on how often each was made: it is what the same requests leave
behind when they are made one by one.
-/

namespace ScriptHost

namespace Layout

/-- The layout without its identity. -/
def outline (layout : Layout) : Layout :=
  { layout with stamp := default }

def NamedBefore (left right : Layout) : Prop :=
  bytewiseBefore left.name right.name = true

instance : Std.Irrefl NamedBefore where
  irrefl layout := bytewiseBefore_irrefl layout.name

instance : Std.Antisymm NamedBefore where
  antisymm left _ hleft hright :=
    absurd (bytewiseBefore_trans hleft hright)
      (bytewiseBefore_irrefl left.name)

end Layout

namespace Synthesizer

variable {self before middle after : Synthesizer}
variable {requests first second : List (String × FieldMode)}

/-! ## The requests of a list that are new -/

def requestName (request : String × FieldMode) : String :=
  request.2.canonicalName request.1

theorem requestName_injective : Function.Injective requestName := by
  intro left right heq
  have hswap : left.swap = right.swap :=
    FieldMode.canonicalName_injective heq
  exact Prod.swap_injective hswap

/-- The distinct requests of a list whose layouts are not published. -/
def newRequests (self : Synthesizer) (requests : List (String × FieldMode)) :
    Finset (String × FieldMode) :=
  requests.toFinset.filter fun request =>
    self.contains (requestName request) = false

theorem mem_newRequests_iff {request : String × FieldMode} :
    request ∈ self.newRequests requests ↔
      request ∈ requests ∧ self.contains (requestName request) = false := by
  rw [newRequests, Finset.mem_filter, List.mem_toFinset]

theorem card_newRequests_singleton (self : Synthesizer)
    (request : String × FieldMode) :
    (self.newRequests [request]).card =
      if self.contains (requestName request) then 0 else 1 := by
  cases hcontains : self.contains (requestName request) <;>
    simp [newRequests, Finset.filter_singleton, hcontains]

/-- Lists of the same requests have the same new ones. -/
theorem newRequests_eq_of_mem_iff {other : List (String × FieldMode)}
    (hmem : ∀ request, request ∈ other ↔ request ∈ requests) :
    self.newRequests other = self.newRequests requests := by
  ext request
  rw [mem_newRequests_iff, mem_newRequests_iff, hmem]

/-! ## What a list of requests publishes -/

/-- Exactly the requests of the list were published, each one once, and
nothing else has changed. -/
structure Publishes (before : Synthesizer)
    (requests : List (String × FieldMode)) (after : Synthesizer) : Prop where
  kept : Extends before after
  contains_iff : ∀ name, after.contains name = true ↔
    before.contains name = true ∨
      ∃ request ∈ requests, requestName request = name
  generated_eq : after.generated =
    before.generated + (before.newRequests requests).card
  defined_eq : after.boundary.definitionCount =
    before.boundary.definitionCount + (before.newRequests requests).card

theorem Publishes.refl (self : Synthesizer) : Publishes self [] self where
  kept := Extends.refl self
  contains_iff := by simp
  generated_eq := rfl
  defined_eq := rfl

theorem Publishes.contains_requestName_iff
    (hfirst : Publishes before first middle) (request : String × FieldMode) :
    middle.contains (requestName request) = true ↔
      before.contains (requestName request) = true ∨ request ∈ first := by
  rw [hfirst.contains_iff]
  simp only [requestName_injective.eq_iff, exists_eq_right]

/-- The new requests of two lists in a row are those of the first list and
those that the first list leaves new. -/
theorem Publishes.card_newRequests_append
    (hfirst : Publishes before first middle)
    (second : List (String × FieldMode)) :
    (before.newRequests (first ++ second)).card =
      (before.newRequests first).card + (middle.newRequests second).card := by
  have hunion : before.newRequests (first ++ second) =
      before.newRequests first ∪ middle.newRequests second := by
    ext request
    have hmiddle := hfirst.contains_requestName_iff request
    rw [Finset.mem_union, mem_newRequests_iff, mem_newRequests_iff,
      mem_newRequests_iff, List.mem_append]
    grind
  have hdisjoint : Disjoint (before.newRequests first)
      (middle.newRequests second) := by
    apply Finset.disjoint_left.mpr
    intro request hrequest hlater
    have hcontains := (hfirst.contains_requestName_iff request).mpr
      (.inr (mem_newRequests_iff.mp hrequest).1)
    rw [(mem_newRequests_iff.mp hlater).2] at hcontains
    cases hcontains
  rw [hunion, Finset.card_union_of_disjoint hdisjoint]

theorem Publishes.append (hfirst : Publishes before first middle)
    (hsecond : Publishes middle second after) :
    Publishes before (first ++ second) after where
  kept := hfirst.kept.trans hsecond.kept
  contains_iff := by
    intro name
    rw [hsecond.contains_iff, hfirst.contains_iff]
    simp only [List.mem_append, or_and_right, exists_or, or_assoc]
  generated_eq := by
    rw [hsecond.generated_eq, hfirst.generated_eq,
      hfirst.card_newRequests_append, Nat.add_assoc]
  defined_eq := by
    rw [hsecond.defined_eq, hfirst.defined_eq,
      hfirst.card_newRequests_append, Nat.add_assoc]

/-! ## One request -/

theorem contains_iff_exists {name : String} :
    self.contains name = true ↔
      ∃ entry ∈ self.published.entries, entry.1 = name := by
  rw [contains, Option.isSome_iff_ne_none, ne_eq,
    Published.find?_eq_none_iff]
  simp only [ne_eq, not_forall, not_not, exists_prop]

theorem contains_publish_iff {name other : String} (layout : Layout)
    (hfree : self.published.find? name = none) :
    (self.publish name layout).contains other = true ↔
      self.contains other = true ∨ name = other := by
  rw [contains_iff_exists, contains_iff_exists]
  change (∃ entry ∈ (self.published.publish name layout).entries, _) ↔ _
  rw [Published.publish_entries layout hfree]
  simp only [Published.mem_place, or_and_right, exists_or, exists_eq_left]
  exact or_comm

/-- A request whose descriptor is read publishes itself. -/
theorem publishes_request (mode : FieldMode) {descriptor : String}
    {shape : Shape} (hself : self.Ready)
    (hread : Shape.read self.config.maxFields descriptor = .ok shape) :
    Publishes self [(descriptor, mode)]
      (request mode descriptor self).state := by
  have hcard := card_newRequests_singleton self (descriptor, mode)
  have hkept := extends_request mode descriptor self
  rcases resolve_cases mode (mode.canonicalName descriptor) descriptor self
    with ⟨layout, hfind, hresolve⟩ | ⟨_, fault, hgenerate, _⟩ |
      ⟨hfree, layout, _, hresolve⟩
  · have hcontains : self.contains (requestName (descriptor, mode)) = true :=
      Option.isSome_of_eq_some hfind
    rw [hcontains, if_pos rfl] at hcard
    rw [request, hresolve] at hkept ⊢
    refine ⟨hkept, ?_, by rw [hcard]; rfl, by rw [hcard]; rfl⟩
    intro name
    rw [or_iff_left_of_imp]
    rintro ⟨_, hrequest, rfl⟩
    rw [List.mem_singleton.mp hrequest]
    exact hcontains
  · rw [Layout.generate_of_read hself.permits hread] at hgenerate
    cases hgenerate
  · have hcontains : self.contains (requestName (descriptor, mode)) = false :=
      Option.isSome_eq_false_iff.mpr (Option.isNone_iff_eq_none.mpr hfree)
    rw [hcontains, if_neg Bool.false_ne_true] at hcard
    rw [request, hresolve] at hkept ⊢
    refine ⟨hkept, ?_, by rw [hcard]; rfl, ?_⟩
    · intro name
      rw [contains_publish_iff layout hfree]
      simp only [List.mem_singleton, exists_eq_left]
      rfl
    · rw [hcard]
      exact List.length_append

/-! ## Resolving the requests of a list -/

/-- The descriptor of a request is read within the limit. -/
def WellFormed (limit : Nat) (request : String × FieldMode) : Prop :=
  ∃ shape, Shape.read limit request.1 = .ok shape

def requestCall (request : String × FieldMode) : LayoutCall :=
  .get request.1 request.2

theorem after_requestCall (mode : FieldMode) (descriptor : String) :
    self.after [requestCall (descriptor, mode)] =
      (request mode descriptor self).state := by
  have htarget : (requestCall (descriptor, mode)).target?
      self.config.defaultMode = some (mode, descriptor) := rfl
  exact congrArg Outcome.state (perform_of_target? htarget)

theorem prewarm_cons_of_ok {descriptor : String} {mode : FieldMode}
    {layout : Layout} {fresh : Bool}
    (hresult : (request mode descriptor self).result = .ok (layout, fresh)) :
    prewarm ((descriptor, mode) :: requests) self =
      ⟨(prewarm requests (request mode descriptor self).state).result.map
          fun count => if fresh then count + 1 else count,
        (prewarm requests (request mode descriptor self).state).state,
        (request mode descriptor self).journal ++
          (prewarm requests (request mode descriptor self).state).journal⟩ := by
  rw [prewarm]
  refine (Action.bind_apply_ok hresult).trans ?_
  simp only [Action.bind_pure_apply]

theorem prewarm_cons_of_error {descriptor : String} {mode : FieldMode}
    {fault : Fault}
    (hresult : (request mode descriptor self).result = .error fault) :
    prewarm ((descriptor, mode) :: requests) self =
      ⟨.error fault, (request mode descriptor self).state,
        (request mode descriptor self).journal⟩ := by
  rw [prewarm]
  exact Action.bind_apply_error hresult

/-- Requests whose descriptors are all read are counted as far as they were
new, and they leave behind what they leave behind one by one. -/
theorem prewarm_of_wellFormed (hself : self.Ready)
    (hvalid : ∀ request ∈ requests,
      WellFormed self.config.maxFields request) :
    (prewarm requests self).result = .ok (self.newRequests requests).card ∧
      (prewarm requests self).state =
        self.after (requests.map requestCall) ∧
      Publishes self requests (prewarm requests self).state := by
  induction requests generalizing self with
  | nil => exact ⟨rfl, rfl, Publishes.refl self⟩
  | cons head rest ih =>
      obtain ⟨descriptor, mode⟩ := head
      obtain ⟨shape, hread⟩ := hvalid _ List.mem_cons_self
      obtain ⟨layout, hresult⟩ := request_of_read mode hself hread
      have hhead := publishes_request mode hself hread
      have hlater : ∀ later ∈ rest, WellFormed
          (request mode descriptor self).state.config.maxFields later := by
        rw [hhead.kept.config]
        exact List.forall_mem_of_forall_mem_cons hvalid
      obtain ⟨hcount, hstate, hrest⟩ :=
        ih (ready_request mode descriptor hself) hlater
      rw [prewarm_cons_of_ok hresult]
      refine ⟨?_, ?_, hhead.append hrest⟩
      · have htotal := hhead.card_newRequests_append rest
        rw [card_newRequests_singleton, List.singleton_append] at htotal
        rw [hcount, htotal, requestName]
        cases self.contains (mode.canonicalName descriptor) with
        | true => exact congrArg Except.ok (Nat.zero_add _).symm
        | false => exact congrArg Except.ok (Nat.add_comm _ _)
      · rw [hstate, List.map_cons, ← List.singleton_append, after_append,
          after_requestCall]

/-- The first descriptor that is not read ends the requests in advance; the
requests before it have been made. -/
theorem prewarm_of_read_error {valid : List (String × FieldMode)}
    {descriptor : String} {cause : ShapeFault} (mode : FieldMode)
    (later : List (String × FieldMode)) (hself : self.Ready)
    (hvalid : ∀ request ∈ valid, WellFormed self.config.maxFields request)
    (hread : Shape.read self.config.maxFields descriptor = .error cause) :
    (prewarm (valid ++ (descriptor, mode) :: later) self).result =
        .error (.layoutGeneration (mode.canonicalName descriptor)
          (.shape cause)) ∧
      (prewarm (valid ++ (descriptor, mode) :: later) self).state =
        (prewarm valid self).state := by
  induction valid generalizing self with
  | nil =>
      have hrequest := request_of_read_error mode hself hread
      rw [List.nil_append,
        prewarm_cons_of_error (congrArg Outcome.result hrequest), hrequest]
      exact ⟨rfl, rfl⟩
  | cons head rest ih =>
      obtain ⟨other, otherMode⟩ := head
      obtain ⟨shape, hshape⟩ := hvalid _ List.mem_cons_self
      obtain ⟨layout, hresult⟩ := request_of_read otherMode hself hshape
      have hconfig := (extends_request otherMode other self).config
      rw [List.cons_append, prewarm_cons_of_ok hresult,
        prewarm_cons_of_ok hresult]
      rw [← hconfig] at hread
      have hrest : ∀ next ∈ rest, WellFormed
          (request otherMode other self).state.config.maxFields next := by
        rw [hconfig]
        exact List.forall_mem_of_forall_mem_cons hvalid
      obtain ⟨hfails, hstate⟩ :=
        ih (ready_request otherMode other hself) hrest hread
      refine ⟨?_, hstate⟩
      rw [hfails]
      rfl

/-! ## The order of requests -/

/-- The published layouts without their identities, in the order of their
names. -/
def outlines (self : Synthesizer) : List Layout :=
  self.layouts.map Layout.outline

variable {left right : Synthesizer}

/-- Behind one boundary, layouts of one name differ in nothing but their
identity. -/
theorem outline_eq_of_name_eq (hleft : left.Ready) (hright : right.Ready)
    (hhome : left.boundary.home = right.boundary.home) {name : String}
    {layout other : Layout} (hlayout : (name, layout) ∈ left.published.entries)
    (hother : (name, other) ∈ right.published.entries) :
    layout.outline = other.outline := by
  have hhosts := hleft.sound.hosts _ hlayout
  have hotherHosts := hright.sound.hosts _ hother
  have hsame : (layout.mode, layout.shape.descriptor) =
      (other.mode, other.shape.descriptor) :=
    FieldMode.canonicalName_injective
      (hhosts.canonical.trans hotherHosts.canonical.symm)
  have hmode : layout.mode = other.mode := congrArg Prod.fst hsame
  have hshape : layout.shape = other.shape :=
    Shape.descriptor_injective (congrArg Prod.snd hsame)
  have hslots : layout.slots = other.slots := by
    rw [hleft.planned _ hlayout, hright.planned _ hother, hmode, hshape]
  simp only [Layout.outline, Layout.mk.injEq, true_and]
  exact ⟨hhosts.name_eq.trans hotherHosts.name_eq.symm, hshape, hmode, hslots,
    hhosts.housed.trans (hhome.trans hotherHosts.housed.symm)⟩

theorem outlines_subset (hleft : left.Ready) (hright : right.Ready)
    (hhome : left.boundary.home = right.boundary.home)
    (hnames : ∀ name, left.contains name = true →
      right.contains name = true) :
    left.outlines ⊆ right.outlines := by
  intro outline houtline
  obtain ⟨layout, hlayout, rfl⟩ := List.mem_map.mp houtline
  have hentry := Published.mem_of_find?
    (hleft.sound.mem_layouts_iff.mp hlayout)
  obtain ⟨⟨name, other⟩, hother, hname⟩ := contains_iff_exists.mp
    (hnames layout.name (contains_iff_exists.mpr ⟨_, hentry, rfl⟩))
  have hother : (layout.name, other) ∈ right.published.entries := hname ▸ hother
  rw [outline_eq_of_name_eq hleft hright hhome hentry hother]
  exact List.mem_map_of_mem (List.mem_map_of_mem hother)

theorem outlines_ascending (hself : self.Sound) :
    self.outlines.Pairwise Layout.NamedBefore :=
  List.pairwise_map.mpr hself.layouts_ascending

/-- Behind one boundary, the published names determine the published layouts
up to their identities. -/
theorem outlines_eq_of_contains_iff (hleft : left.Ready)
    (hright : right.Ready)
    (hhome : left.boundary.home = right.boundary.home)
    (hnames : ∀ name, left.contains name = true ↔
      right.contains name = true) :
    left.outlines = right.outlines := by
  apply List.Subset.antisymm_of_pairwise (outlines_ascending hleft.sound)
    (outlines_ascending hright.sound)
  · exact outlines_subset hleft hright hhome fun name => (hnames name).mp
  · exact outlines_subset hright hleft hhome.symm fun name => (hnames name).mpr

/-- Requests that are all read leave the same layouts behind in every order
and however often each is made. -/
theorem prewarm_eq_of_mem_iff {other : List (String × FieldMode)}
    (hself : self.Ready)
    (hvalid : ∀ request ∈ requests, WellFormed self.config.maxFields request)
    (hmem : ∀ request, request ∈ other ↔ request ∈ requests) :
    (prewarm other self).result = (prewarm requests self).result ∧
      (prewarm other self).state.outlines =
        (prewarm requests self).state.outlines ∧
      (prewarm other self).state = self.after (other.map requestCall) := by
  obtain ⟨hcount, hstate, hpublishes⟩ := prewarm_of_wellFormed hself hvalid
  obtain ⟨hotherCount, hotherState, hotherPublishes⟩ :=
    prewarm_of_wellFormed hself
      fun request hrequest => hvalid request ((hmem request).mp hrequest)
  refine ⟨?_, ?_, hotherState⟩
  · rw [hotherCount, hcount, newRequests_eq_of_mem_iff hmem]
  · apply outlines_eq_of_contains_iff
    · rw [hotherState]
      exact ready_after _ hself
    · rw [hstate]
      exact ready_after _ hself
    · exact hotherPublishes.kept.home.trans hpublishes.kept.home.symm
    · intro name
      rw [hotherPublishes.contains_iff, hpublishes.contains_iff]
      simp only [hmem]

/-! ## Whole runs -/

/-- If some request of a list is not read, there is a first one. -/
theorem exists_first_malformed {limit : Nat}
    (hbad : ∃ request ∈ requests, ¬ WellFormed limit request) :
    ∃ valid descriptor mode later cause,
      requests = valid ++ (descriptor, mode) :: later ∧
      (∀ request ∈ valid, WellFormed limit request) ∧
      Shape.read limit descriptor = .error cause := by
  obtain ⟨request, hrequest, hmalformed⟩ := hbad
  rcases forall_or_first_not (WellFormed limit) requests with
    hall | ⟨valid, ⟨descriptor, mode⟩, later, hsplit, hvalid, hfirst⟩
  · exact absurd (hall request hrequest) hmalformed
  · cases hread : Shape.read limit descriptor with
    | error cause =>
        exact ⟨valid, descriptor, mode, later, cause, hsplit, hvalid, hread⟩
    | ok shape => exact absurd ⟨shape, hread⟩ hfirst

/-- Requests in advance, at every moment of every run.  If all their
descriptors are read, the distinct ones whose layouts are not published are
counted; the counts of layouts and of definitions grow by that number, and what
is published grows by the names that are asked for.  The same requests in any
order, each made any number of times, give the same count and the same layouts
up to their identities, and so do the calls for them one by one.  Otherwise the
fault of the first descriptor that is not read is reported, and exactly the
requests before it have been made. -/
theorem prewarm_publishes_what_is_new {σ : Type} {host : ModuleHost σ}
    {origin : Nat} {config : LayoutConfig} {fallbacks : List LayoutSource}
    {system : σ} {start : Synthesizer}
    (hstart : (new origin host config fallbacks system).result = .ok start)
    (calls : List LayoutCall) (requests : List (String × FieldMode)) :
    ((∀ request ∈ requests, WellFormed config.maxFields request) →
      (prewarm requests (start.after calls)).result =
        .ok ((start.after calls).newRequests requests).card ∧
      Publishes (start.after calls) requests
        (prewarm requests (start.after calls)).state ∧
      ∀ other : List (String × FieldMode),
        (∀ request, request ∈ other ↔ request ∈ requests) →
          (prewarm other (start.after calls)).result =
            (prewarm requests (start.after calls)).result ∧
          (prewarm other (start.after calls)).state.outlines =
            (prewarm requests (start.after calls)).state.outlines ∧
          start.after (calls ++ other.map requestCall) =
            (prewarm other (start.after calls)).state) ∧
    ((∃ request ∈ requests, ¬ WellFormed config.maxFields request) →
      ∃ valid descriptor mode later cause,
        requests = valid ++ (descriptor, mode) :: later ∧
        (∀ request ∈ valid, WellFormed config.maxFields request) ∧
        Shape.read config.maxFields descriptor = .error cause ∧
        (prewarm requests (start.after calls)).result =
          .error (.layoutGeneration (mode.canonicalName descriptor)
            (.shape cause)) ∧
        Publishes (start.after calls) valid
          (prewarm requests (start.after calls)).state) := by
  have hready := ready_after calls (ready_new hstart)
  rw [← config_after hstart calls]
  constructor
  · intro hvalid
    obtain ⟨hcount, _, hpublishes⟩ := prewarm_of_wellFormed hready hvalid
    refine ⟨hcount, hpublishes, ?_⟩
    intro other hmem
    obtain ⟨hresult, houtlines, hstate⟩ :=
      prewarm_eq_of_mem_iff hready hvalid hmem
    exact ⟨hresult, houtlines, by rw [hstate, after_append]⟩
  · intro hbad
    obtain ⟨valid, descriptor, mode, later, cause, rfl, hvalid, hread⟩ :=
      exists_first_malformed hbad
    obtain ⟨hresult, hstate⟩ :=
      prewarm_of_read_error mode later hready hvalid hread
    refine ⟨valid, descriptor, mode, later, cause, rfl, hvalid, hread,
      hresult, ?_⟩
    rw [hstate]
    exact (prewarm_of_wellFormed hready hvalid).2.2

/-- A layout that is published and a request made twice are not counted, and
turning the requests round makes no difference.  A request before an unknown
letter is made. -/
theorem repeated_requests_counted_once :
    ∃ start : Synthesizer,
      (new 0 .ofRegistry .default [] ModuleRegistry.new).result = .ok start ∧
        (prewarm [("O", .dual), ("O", .single), ("II", .dual), ("II", .dual)]
          (start.after [.get "O" .dual])).result = .ok 2 ∧
        (prewarm [("II", .dual), ("O", .single), ("O", .dual)]
          (start.after [.get "O" .dual])).result = .ok 2 ∧
        (prewarm [("J", .dual), ("?", .dual)]
          (start.after [.get "O" .dual])).result.isOk = false ∧
        (prewarm [("J", .dual), ("?", .dual)]
          (start.after [.get "O" .dual])).state.contains
            "strata.structures.Dual$J" = true := by
  have hstart : (new 0 .ofRegistry .default [] ModuleRegistry.new).result =
      .ok ⟨0, .bridged ModuleRegistry.runtimeHandle ⟨2, structuresNamespace⟩,
        .default, .empty, [], 0⟩ := rfl
  obtain ⟨hcount, _, hother⟩ := (prewarm_publishes_what_is_new hstart
    [.get "O" .dual]
    [("O", .dual), ("O", .single), ("II", .dual), ("II", .dual)]).1
      (by simp only [List.forall_mem_cons]
          exact ⟨⟨_, rfl⟩, ⟨_, rfl⟩, ⟨_, rfl⟩, ⟨_, rfl⟩, nofun⟩)
  obtain ⟨hturned, _⟩ := hother [("II", .dual), ("O", .single), ("O", .dual)]
    (by simp only [List.mem_cons, List.not_mem_nil]
        grind)
  obtain ⟨valid, descriptor, mode, later, cause, hsplit, _, hread, hfails,
    hpublishes⟩ := (prewarm_publishes_what_is_new hstart
      [.get "O" .dual] [("J", .dual), ("?", .dual)]).2
        ⟨("?", .dual), by decide, nofun⟩
  refine ⟨_, hstart, hcount.trans ?_, hturned.trans (hcount.trans ?_), ?_, ?_⟩
  · exact congrArg Except.ok (by decide +kernel)
  · exact congrArg Except.ok (by decide +kernel)
  · rw [hfails]
    rfl
  · apply (hpublishes.contains_iff _).mpr
    cases valid with
    | nil =>
        cases hsplit
        cases hread
    | cons head rest =>
        obtain ⟨rfl, _⟩ := List.cons.inj hsplit
        exact .inr ⟨("J", .dual), List.mem_cons_self, rfl⟩

end Synthesizer

end ScriptHost
