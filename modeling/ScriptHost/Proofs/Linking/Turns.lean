import ScriptHost.Linking.Rule
import ScriptHost.Proofs.Distinct
import ScriptHost.Proofs.HostType.WellKnown
import ScriptHost.Proofs.Linking.Order
import ScriptHost.Proofs.Recorded

/-!
# The turns of linkers

Without a policy the linkers of a pipeline take turns.  In its turn a linker is
first asked whether it accepts the type of the target, and if so to link the
request.  Each turn finds the state that the turn before it left behind.  The
search ends with the first linker that answers with an invocation or a fault;
if there is none, the request is unlinkable.
-/

namespace ScriptHost

variable {σ : Type}

/-- The turn of a linker, which comes on some state. -/
structure Turn (σ : Type) where
  linker : Linker σ
  before : σ

namespace Turn

def accepted (request : LinkRequest) (turn : Turn σ) : Bool :=
  (turn.linker.accepts request.target turn.before).1

def answer (request : LinkRequest) (turn : Turn σ) :
    Outcome σ (Option Invocation) :=
  turn.linker.link request none
    (turn.linker.accepts request.target turn.before).2

def after (request : LinkRequest) (turn : Turn σ) : σ :=
  if turn.accepted request then (turn.answer request).state
  else (turn.linker.accepts request.target turn.before).2

def consultations (request : LinkRequest) (turn : Turn σ) :
    List Consultation :=
  .accepts turn.linker.name ::
    if turn.accepted request then [.link turn.linker.name] else []

/-- If the linker accepts the target, it declines the request. -/
def Declines (request : LinkRequest) (turn : Turn σ) : Prop :=
  turn.accepted request = true → (turn.answer request).result = .ok none

/-- The linker accepts the target and answers with an invocation or a
fault. -/
structure Decides (request : LinkRequest) (turn : Turn σ)
    (result : Except Fault Invocation) : Prop where
  accepted : turn.accepted request = true
  answer : (turn.answer request).result = result.map some

theorem declines_or_decides (request : LinkRequest) (turn : Turn σ) :
    turn.Declines request ∨ ∃ result, turn.Decides request result := by
  by_cases haccepted : turn.accepted request = true
  · cases hanswer : (turn.answer request).result with
    | error fault => exact .inr ⟨.error fault, haccepted, hanswer⟩
    | ok found =>
        cases found with
        | none => exact .inl fun _ => hanswer
        | some invocation => exact .inr ⟨.ok invocation, haccepted, hanswer⟩
  · exact .inl fun hyes => absurd hyes haccepted

end Turn

/-- The turns that linkers take one after the other as long as none decides. -/
def turns (request : LinkRequest) : List (Linker σ) → σ → List (Turn σ)
  | [], _ => []
  | linker :: rest, state =>
    let turn : Turn σ := ⟨linker, state⟩
    turn :: turns request rest (turn.after request)

theorem map_linker_turns (request : LinkRequest) (linkers : List (Linker σ))
    (state : σ) : (turns request linkers state).map (·.linker) = linkers := by
  induction linkers generalizing state with
  | nil => rfl
  | cons linker rest ih => rw [turns, List.map_cons, ih]

/-- Either all turns pass without a decision, or there is a first one that
decides. -/
theorem all_decline_or_first_decides (request : LinkRequest)
    (taken : List (Turn σ)) :
    (∀ turn ∈ taken, turn.Declines request) ∨
      ∃ passed turn later result, taken = passed ++ turn :: later ∧
        (∀ earlier ∈ passed, earlier.Declines request) ∧
        turn.Decides request result := by
  rcases forall_or_first_not (·.Declines request) taken with
    hall | ⟨passed, turn, later, hsplit, hpassed, hturn⟩
  · exact .inl hall
  · obtain ⟨result, hdecides⟩ :=
      (turn.declines_or_decides request).resolve_left hturn
    exact .inr ⟨passed, turn, later, result, hsplit, hpassed, hdecides⟩

/-! ## One turn of the search -/

namespace Pipeline

variable {request : LinkRequest} {turn : Turn σ}

/-- What is left behind when only the filter of the linker was asked. -/
def filtered (request : LinkRequest) (turn : Turn σ)
    (calls : List Consultation) : Recorded Consultation σ :=
  ⟨(turn.linker.accepts request.target turn.before).2,
    calls ++ [.accepts turn.linker.name]⟩

/-- The search begins with the filter of the first linker. -/
theorem resolve_cons (turn : Turn σ)
    (rest : List (Linker (Recorded Consultation σ)))
    (calls : List Consultation) :
    resolve none request (turn.linker.recording :: rest) ⟨turn.before, calls⟩ =
      if turn.accepted request then
        (turn.linker.recording.link request none >>= fun
          | some invocation => do
            Action.note (.linked turn.linker.name request.text)
            return invocation
          | none => resolve none request rest) (filtered request turn calls)
      else resolve none request rest (filtered request turn calls) := by
  have hfilter : (Action.query
      (turn.linker.recording.accepts request.target)
      ⟨turn.before, calls⟩).result = .ok (turn.accepted request) := rfl
  rw [resolve, Action.bind_apply_ok hfilter]
  cases haccepted : turn.accepted request
  · rfl
  · rfl

/-- Asking the linker itself is recorded after asking its filter. -/
theorem state_link_recording (haccepted : turn.accepted request = true)
    (calls : List Consultation) :
    (turn.linker.recording.link request none
        (filtered request turn calls)).state =
      ⟨turn.after request, calls ++ turn.consultations request⟩ := by
  rw [Turn.after, Turn.consultations, if_pos haccepted, if_pos haccepted,
    ← List.singleton_append, ← List.append_assoc]
  rfl

/-- A turn that passes leads on to the next linkers. -/
theorem resolve_of_declines (hdeclines : turn.Declines request)
    (rest : List (Linker (Recorded Consultation σ)))
    (calls : List Consultation) :
    let outcome := resolve none request (turn.linker.recording :: rest)
      ⟨turn.before, calls⟩
    let next := resolve none request rest
      ⟨turn.after request, calls ++ turn.consultations request⟩
    outcome.result = next.result ∧ outcome.state = next.state := by
  rw [resolve_cons]
  by_cases haccepted : turn.accepted request = true
  · have hanswer : (turn.linker.recording.link request none
        (filtered request turn calls)).result = .ok none :=
      hdeclines haccepted
    rw [if_pos haccepted, Action.bind_apply_ok hanswer,
      state_link_recording haccepted]
    exact ⟨rfl, rfl⟩
  · rw [if_neg haccepted, Turn.after, Turn.consultations, if_neg haccepted,
      if_neg haccepted]
    exact ⟨rfl, rfl⟩

/-- A turn that decides ends the search. -/
theorem resolve_of_decides {result : Except Fault Invocation}
    (hdecides : turn.Decides request result)
    (rest : List (Linker (Recorded Consultation σ)))
    (calls : List Consultation) :
    let outcome := resolve none request (turn.linker.recording :: rest)
      ⟨turn.before, calls⟩
    outcome.result = result ∧ outcome.state =
      ⟨turn.after request, calls ++ turn.consultations request⟩ := by
  have hanswer : (turn.linker.recording.link request none
      (filtered request turn calls)).result = result.map some :=
    hdecides.answer
  rw [resolve_cons, if_pos hdecides.accepted]
  cases result with
  | error fault =>
      rw [Action.bind_apply_error hanswer,
        state_link_recording hdecides.accepted]
      exact ⟨rfl, rfl⟩
  | ok invocation =>
      rw [Action.bind_apply_ok hanswer, state_link_recording hdecides.accepted]
      exact ⟨rfl, rfl⟩

/-! ## The whole search -/

/-- If all turns pass, the request is unlinkable. -/
theorem resolve_of_all_decline (linkers : List (Linker σ)) (state : σ)
    (calls : List Consultation)
    (hdecline : ∀ turn ∈ turns request linkers state, turn.Declines request) :
    let outcome := resolve none request (linkers.map Linker.recording)
      ⟨state, calls⟩
    outcome.result = .error (.unlinkable request.text) ∧
      outcome.state.calls = calls ++
        (turns request linkers state).flatMap (·.consultations request) := by
  induction linkers generalizing state calls with
  | nil => exact ⟨rfl, (List.append_nil calls).symm⟩
  | cons linker rest ih =>
      rw [turns, List.forall_mem_cons] at hdecline
      obtain ⟨hresult, hstate⟩ := resolve_of_declines hdecline.1
        (rest.map Linker.recording) calls
      obtain ⟨hnext, hcalls⟩ := ih _
        (calls ++ Turn.consultations request ⟨linker, state⟩) hdecline.2
      rw [List.append_assoc] at hcalls
      exact ⟨hresult.trans hnext,
        (congrArg Recorded.calls hstate).trans hcalls⟩

/-- The first turn that decides is the last one to be taken. -/
theorem resolve_of_first_decides (linkers : List (Linker σ)) (state : σ)
    (calls : List Consultation) {passed later : List (Turn σ)}
    {result : Except Fault Invocation}
    (hturns : turns request linkers state = passed ++ turn :: later)
    (hpassed : ∀ earlier ∈ passed, earlier.Declines request)
    (hdecides : turn.Decides request result) :
    let outcome := resolve none request (linkers.map Linker.recording)
      ⟨state, calls⟩
    outcome.result = result ∧ outcome.state = ⟨turn.after request, calls ++
      (passed ++ [turn]).flatMap (·.consultations request)⟩ := by
  induction passed generalizing linkers state calls with
  | nil =>
      cases linkers with
      | nil => cases hturns
      | cons linker rest =>
          rw [turns, List.nil_append, List.cons.injEq] at hturns
          obtain ⟨rfl, _⟩ := hturns
          rw [List.nil_append, List.flatMap_singleton]
          exact resolve_of_decides hdecides (rest.map Linker.recording) calls
  | cons first passed ih =>
      cases linkers with
      | nil => cases hturns
      | cons linker rest =>
          rw [turns, List.cons_append, List.cons.injEq] at hturns
          obtain ⟨rfl, hrest⟩ := hturns
          rw [List.forall_mem_cons] at hpassed
          obtain ⟨hresult, hstate⟩ := resolve_of_declines hpassed.1
            (rest.map Linker.recording) calls
          obtain ⟨hnext, hlast⟩ := ih rest _
            (calls ++ Turn.consultations request ⟨linker, state⟩) hrest
            hpassed.2
          rw [List.append_assoc] at hlast
          exact ⟨hresult.trans hnext, hstate.trans hlast⟩

/-- The search ends as unlinkable after all turns, or with the first one that
decides. -/
theorem resolve_cases (request : LinkRequest) (linkers : List (Linker σ))
    (state : σ) :
    let taken := turns request linkers state
    let outcome := resolve none request (linkers.map Linker.recording)
      (.start state)
    ((∀ turn ∈ taken, turn.Declines request) ∧
      outcome.result = .error (.unlinkable request.text) ∧
      outcome.state.calls = taken.flatMap (·.consultations request)) ∨
    ∃ passed turn later, taken = passed ++ turn :: later ∧
      (∀ earlier ∈ passed, earlier.Declines request) ∧
      turn.Decides request outcome.result ∧
      outcome.state = ⟨turn.after request,
        (passed ++ [turn]).flatMap (·.consultations request)⟩ := by
  intro taken outcome
  cases all_decline_or_first_decides request taken with
  | inl hdecline =>
      exact .inl ⟨hdecline, resolve_of_all_decline linkers state [] hdecline⟩
  | inr hsplit =>
      obtain ⟨passed, turn, later, result, htaken, hpassed, hdecides⟩ := hsplit
      obtain ⟨hresult, hstate⟩ :=
        resolve_of_first_decides linkers state [] htaken hpassed hdecides
      rw [← hresult] at hdecides
      exact .inr ⟨passed, turn, later, htaken, hpassed, hdecides, hstate⟩

/-- The search reports the request as unlinkable if all turns pass, and if a
linker does so itself. -/
theorem resolve_eq_unlinkable_iff (request : LinkRequest)
    (linkers : List (Linker σ)) (state : σ) :
    let taken := turns request linkers state
    (resolve none request (linkers.map Linker.recording)
        (.start state)).result = .error (.unlinkable request.text) ↔
      (∀ turn ∈ taken, turn.Declines request) ∨
      ∃ passed turn later, taken = passed ++ turn :: later ∧
        (∀ earlier ∈ passed, earlier.Declines request) ∧
        turn.Decides request (.error (.unlinkable request.text)) := by
  intro taken
  constructor
  · intro hunlinkable
    cases resolve_cases request linkers state with
    | inl hall => exact .inl hall.1
    | inr hfirst =>
        obtain ⟨passed, turn, later, htaken, hpassed, hdecides, _⟩ := hfirst
        rw [hunlinkable] at hdecides
        exact .inr ⟨passed, turn, later, htaken, hpassed, hdecides⟩
  · intro hends
    cases hends with
    | inl hdecline => exact (resolve_of_all_decline linkers state [] hdecline).1
    | inr hfirst =>
        obtain ⟨passed, turn, later, htaken, hpassed, hdecides⟩ := hfirst
        exact (resolve_of_first_decides linkers state [] htaken hpassed
          hdecides).1

/-! ## The pipeline -/

theorem linkers_ofRegistered_recording (registered : List (Linker σ)) :
    (ofRegistered (registered.map Linker.recording)).linkers =
      (ofRegistered registered).linkers.map Linker.recording := by
  rw [linkers_ofRegistered, linkers_ofRegistered, List.map_mergeSort]
  intro earlier _ later _
  rfl

theorem tryLink_mirrors (policy : Option Policy) (request : LinkRequest) :
    (Guard.tryLink policy request :
      Action (Recorded Consultation σ) Unit).Mirrors
        (Guard.tryLink policy request) := by
  intro state
  cases policy with
  | none => rfl
  | some policy => rfl

/-- Recorded linkers are searched as the linkers themselves are. -/
theorem resolve_mirrors (policy : Option Policy) (request : LinkRequest)
    (linkers : List (Linker σ)) :
    (resolve policy request (linkers.map Linker.recording)).Mirrors
      (resolve policy request linkers) := by
  induction linkers with
  | nil => exact Action.mirrors_fail _
  | cons linker rest ih =>
      rw [List.map_cons, resolve, resolve]
      apply Action.Mirrors.bind (Action.mirrors_query _ _)
      intro accepted
      cases accepted with
      | false => exact ih
      | true =>
          apply Action.Mirrors.bind (Action.mirrors_action _ _)
          intro answer
          cases answer with
          | none => exact ih
          | some invocation =>
              apply Action.Mirrors.bind (Action.mirrors_note _)
              intro noted
              exact Action.mirrors_pure invocation

theorem link_mirrors (policy : Option Policy) (request : LinkRequest)
    (registered : List (Linker σ)) :
    ((ofRegistered (registered.map Linker.recording)).link policy
      request).Mirrors ((ofRegistered registered).link policy request) := by
  rw [link, link, linkers_ofRegistered_recording]
  apply Action.Mirrors.bind (tryLink_mirrors policy request)
  intro passed
  exact resolve_mirrors policy request _

theorem link_some (pipeline : Pipeline σ) (policy : Policy)
    (request : LinkRequest) (state : σ) :
    pipeline.link (some policy) request state =
      ⟨.error (.dispatchDenied request.target.name .linkWithPolicy), state,
        [.linkDenied request.text policy.name]⟩ := rfl

theorem link_none (pipeline : Pipeline σ) (request : LinkRequest) (state : σ) :
    pipeline.link none request state =
      resolve none request pipeline.linkers state := rfl

/-- Linkers take turns in the order of a stable sort until one decides.

However linkers were registered, they are asked in descending priority, those
of equal priority in the order of registration.  Which of them are consulted is
read off the same pipeline of recorded linkers, which does the same apart from
the record.  With a policy the request is denied and no linker is consulted, not
even its filter.  Without one the linkers take turns in that order: if all that
accept the target decline, the request is unlinkable; otherwise the first one
that answers with an invocation or a fault is the last one to be consulted, and
its answer is returned as it is.  So the request is reported as unlinkable
exactly if all linkers that accept the target decline, or if the deciding linker
itself answers with just that fault. -/
theorem linkers_take_turns_in_stable_order_until_one_decides
    (registered : List (Linker σ)) (request : LinkRequest) (state : σ) :
    let pipeline := ofRegistered registered
    let recorded := ofRegistered (registered.map Linker.recording)
    let taken := turns request pipeline.linkers state
    let outcome := recorded.link none request (.start state)
    (pipeline.linkers = registered.mergeSort Linker.mayPrecede ∧
      pipeline.linkers.Perm registered ∧
      Linker.Descending pipeline.linkers ∧
      ∀ priority, Linker.ofPriority priority pipeline.linkers =
        Linker.ofPriority priority registered) ∧
    (∀ policy, (recorded.link policy request (.start state)).unrecorded =
      pipeline.link policy request state) ∧
    (∀ policy, recorded.link (some policy) request (.start state) =
      ⟨.error (.dispatchDenied request.target.name .linkWithPolicy),
        .start state, [.linkDenied request.text policy.name]⟩) ∧
    taken.map (·.linker) = pipeline.linkers ∧
    (((∀ turn ∈ taken, turn.Declines request) ∧
        outcome.result = .error (.unlinkable request.text) ∧
        outcome.state.calls = taken.flatMap (·.consultations request)) ∨
      ∃ passed turn later, taken = passed ++ turn :: later ∧
        (∀ earlier ∈ passed, earlier.Declines request) ∧
        turn.Decides request outcome.result ∧
        outcome.state = ⟨turn.after request,
          (passed ++ [turn]).flatMap (·.consultations request)⟩) ∧
    (outcome.result = .error (.unlinkable request.text) ↔
      (∀ turn ∈ taken, turn.Declines request) ∨
      ∃ passed turn later, taken = passed ++ turn :: later ∧
        (∀ earlier ∈ passed, earlier.Declines request) ∧
        turn.Decides request (.error (.unlinkable request.text))) := by
  intro pipeline recorded taken outcome
  have hsorted : pipeline.linkers = registered.mergeSort Linker.mayPrecede :=
    linkers_ofRegistered registered
  have houtcome : outcome = resolve none request
      (pipeline.linkers.map Linker.recording) (.start state) := by
    simp only [outcome, recorded, link_none, linkers_ofRegistered_recording]
    rfl
  refine ⟨⟨hsorted, ?_, ?_, ?_⟩, ?_, ?_, ?_, ?_, ?_⟩
  · rw [hsorted]
    exact List.mergeSort_perm registered Linker.mayPrecede
  · rw [hsorted]
    exact Linker.descending_mergeSort registered
  · intro priority
    rw [hsorted]
    exact Linker.ofPriority_mergeSort priority registered
  · intro policy
    exact link_mirrors policy request registered (.start state)
  · intro policy
    exact link_some recorded policy request (.start state)
  · exact map_linker_turns request pipeline.linkers state
  · rw [houtcome]
    exact resolve_cases request pipeline.linkers state
  · rw [houtcome]
    exact resolve_eq_unlinkable_iff request pipeline.linkers state

/-! ### A linker that reports the request as unlinkable itself -/

def plainRequest : LinkRequest :=
  ⟨WellKnown.object 0, .getProperty, some "x", false⟩

/-- A linker that fails in the words of a pipeline that has found no linker. -/
def strictRule : LinkRule :=
  ⟨"strict", 1, none, false, none, some (.unlinkable plainRequest.text)⟩

def lenientRule : LinkRule := ⟨"lenient", 0, none, false, none, none⟩

theorem linkers_strict_before_lenient :
    (ofRegistered [strictRule.linker, lenientRule.linker]).linkers =
      [strictRule.linker, lenientRule.linker] := by
  rw [linkers_ofRegistered]
  apply List.mergeSort_of_pairwise
  apply List.pairwise_pair.mpr
  decide

/-- A request may be reported as unlinkable although a linker that accepts the
target does not decline it. -/
theorem unlinkable_though_not_all_decline :
    ¬ ∀ (registered : List (Linker Unit)) (request : LinkRequest),
      ((ofRegistered registered).link none request ()).result =
          .error (.unlinkable request.text) ↔
        ∀ turn ∈ turns request (ofRegistered registered).linkers (),
          turn.Declines request := by
  intro hdecline
  have hreported := hdecline [strictRule.linker, lenientRule.linker]
    plainRequest
  rw [link_none, linkers_strict_before_lenient] at hreported
  have hstrict := hreported.mp rfl _ List.mem_cons_self rfl
  cases hstrict

end Pipeline

end ScriptHost
