import ScriptHost.Namespace.Boundary
import ScriptHost.Proofs.Action
import ScriptHost.Proofs.Recorded

/-!
# Plans of calls on a module system

A module system may answer a call as it pleases.  An action follows a plan if
it makes the calls of the plan one after the other until one of them is not
answered well, and then fails without making another.  The plans of actions in
sequence are put end to end.
-/

namespace ScriptHost

inductive HostAnswer where
  /-- The handle of the runtime, or of a namespace that was declared. -/
  | handle (handle : Handle)
  | granted
  | readable (yes : Bool)
  | refused (fault : Fault)
  deriving DecidableEq, Repr

namespace HostAnswer

/-- The answer to a call that may be refused. -/
def ofResult {α : Type} (accepted : α → HostAnswer) :
    Except Fault α → HostAnswer
  | .ok value => accepted value
  | .error fault => refused fault

/-- Nothing is refused, and nothing is reported as unreadable. -/
def Good : HostAnswer → Prop
  | handle _ | granted => True
  | readable yes => yes = true
  | refused _ => False

/-- An action that gets the answer fails with the fault: that of the refusal,
or one that says what is unreadable. -/
def LeadsTo (fault : Fault) : HostAnswer → Prop
  | handle _ | granted => False
  | readable yes => yes = false ∧ ∃ cause, fault = .namespaceFault cause
  | refused given => fault = given

theorem LeadsTo.not_good {answer : HostAnswer} {fault : Fault}
    (hleads : answer.LeadsTo fault) : ¬ answer.Good := by
  cases answer with
  | handle handle => exact hleads.elim
  | granted => exact hleads.elim
  | readable yes =>
      rw [Good, hleads.1]
      exact Bool.false_ne_true
  | refused given => exact id

end HostAnswer

namespace ModuleHost

variable {σ α β : Type} (host : ModuleHost σ)

def answer : HostCall → σ → HostAnswer × σ
  | .runtime, state =>
    (.handle (host.runtime state).1, (host.runtime state).2)
  | .declare name, state =>
    (.ofResult .handle (host.declare name state).result,
      (host.declare name state).state)
  | .grant reader owner package, state =>
    (.ofResult (fun _ => .granted)
        (host.grant reader owner package state).result,
      (host.grant reader owner package state).state)
  | .canRead reader owner package, state =>
    (.readable (host.canRead reader owner package state).1,
      (host.canRead reader owner package state).2)

def afterCalls (calls : List HostCall) (state : σ) : σ :=
  calls.foldl (fun current call => (host.answer call current).2) state

def answers : List HostCall → σ → List HostAnswer
  | [], _ => []
  | call :: rest, state =>
    (host.answer call state).1 :: answers rest (host.answer call state).2

/-- Calls made one after the other are all answered well. -/
def Obliges (calls : List HostCall) (state : σ) : Prop :=
  ∀ answer ∈ host.answers calls state, answer.Good

/-- How an action ends that follows a plan and gives a value in the end. -/
inductive Follows (plan : List HostCall) (value : α)
    (before : Recorded HostCall σ) (outcome : Outcome (Recorded HostCall σ) α) :
    Prop where
  /-- All calls of the plan were made and answered well. -/
  | completes (hgood : host.Obliges plan before.inner)
      (hresult : outcome.result = .ok value)
      (hstate : outcome.state =
        ⟨host.afterCalls plan before.inner, before.calls ++ plan⟩)
  /-- The last call that was made is the first not to be answered well. -/
  | breaks (front back : List HostCall) (call : HostCall) (fault : Fault)
      (hplan : plan = front ++ call :: back)
      (hgood : host.Obliges front before.inner)
      (hbad : (host.answer call
        (host.afterCalls front before.inner)).1.LeadsTo fault)
      (hresult : outcome.result = .error fault)
      (hstate : outcome.state =
        ⟨host.afterCalls (front ++ [call]) before.inner,
          before.calls ++ (front ++ [call])⟩)

variable {host}

/-! ## Calls end to end -/

theorem afterCalls_cons (call : HostCall) (rest : List HostCall) (state : σ) :
    host.afterCalls (call :: rest) state =
      host.afterCalls rest (host.answer call state).2 :=
  List.foldl_cons

theorem afterCalls_append (front back : List HostCall) (state : σ) :
    host.afterCalls (front ++ back) state =
      host.afterCalls back (host.afterCalls front state) :=
  List.foldl_append

theorem answers_append (front back : List HostCall) (state : σ) :
    host.answers (front ++ back) state =
      host.answers front state ++
        host.answers back (host.afterCalls front state) := by
  induction front generalizing state with
  | nil => rfl
  | cons call rest ih => exact congrArg (List.cons _) (ih _)

theorem obliges_append {front back : List HostCall} {state : σ} :
    host.Obliges (front ++ back) state ↔ host.Obliges front state ∧
      host.Obliges back (host.afterCalls front state) := by
  rw [Obliges, answers_append, List.forall_mem_append]
  rfl

theorem obliges_cons {call : HostCall} {rest : List HostCall} {state : σ} :
    host.Obliges (call :: rest) state ↔ (host.answer call state).1.Good ∧
      host.Obliges rest (host.answer call state).2 := by
  rw [Obliges, answers, List.forall_mem_cons]
  rfl

theorem obliges_nil (state : σ) : host.Obliges [] state :=
  fun _ hanswer => absurd hanswer List.not_mem_nil

/-! ## Following a plan -/

namespace Follows

variable {plan rest : List HostCall} {value : α} {other : β}
variable {before : Recorded HostCall σ}

/-- The calls that were made are the first ones of the plan. -/
theorem made {outcome : Outcome (Recorded HostCall σ) α}
    (hfollows : host.Follows plan value before outcome) :
    ∃ calls, calls <+: plan ∧ outcome.state =
      ⟨host.afterCalls calls before.inner, before.calls ++ calls⟩ := by
  cases hfollows with
  | completes _ _ hstate => exact ⟨plan, List.prefix_rfl, hstate⟩
  | breaks front back call _ hplan _ _ _ hstate =>
      refine ⟨front ++ [call], ⟨back, ?_⟩, hstate⟩
      rw [hplan, List.append_assoc, List.singleton_append]

/-- All calls of a plan are made if they are answered well. -/
theorem of_obliges {outcome : Outcome (Recorded HostCall σ) α}
    (hfollows : host.Follows plan value before outcome)
    (hgood : host.Obliges plan before.inner) :
    outcome.result = .ok value ∧ outcome.state =
      ⟨host.afterCalls plan before.inner, before.calls ++ plan⟩ := by
  cases hfollows with
  | completes _ hresult hstate => exact ⟨hresult, hstate⟩
  | breaks _ _ _ _ hplan _ hbad _ _ =>
      rw [hplan, obliges_append, obliges_cons] at hgood
      exact absurd hgood.2.1 hbad.not_good

/-- Following a plan succeeds exactly if all its calls are answered well. -/
theorem result_eq_ok_iff {outcome : Outcome (Recorded HostCall σ) α}
    (hfollows : host.Follows plan value before outcome) {given : α} :
    outcome.result = .ok given ↔
      host.Obliges plan before.inner ∧ given = value := by
  constructor
  · intro hresult
    cases hfollows with
    | completes hgood hvalue _ =>
        exact ⟨hgood, Except.ok.inj (hresult.symm.trans hvalue)⟩
    | breaks _ _ _ _ _ _ _ hfault _ => cases hresult.symm.trans hfault
  · rintro ⟨hgood, rfl⟩
    exact (hfollows.of_obliges hgood).1

theorem of_pure (value : α) (before : Recorded HostCall σ) :
    host.Follows [] value before
      ((pure value : Action (Recorded HostCall σ) α) before) := by
  refine .completes (obliges_nil _) rfl ?_
  rw [List.append_nil]
  rfl

/-- A sequence follows the plan of its first action and then that of the
next. -/
theorem bind {first : Action (Recorded HostCall σ) α}
    {next : α → Action (Recorded HostCall σ) β}
    (hfirst : host.Follows plan value before (first before))
    (hnext : ∀ calls, host.Follows rest other
      ⟨host.afterCalls plan before.inner, calls⟩
      (next value ⟨host.afterCalls plan before.inner, calls⟩)) :
    host.Follows (plan ++ rest) other before ((first >>= next) before) := by
  cases hfirst with
  | breaks front back call fault hplan hgood hbad hresult hstate =>
      rw [Action.bind_apply_error hresult]
      refine .breaks front (back ++ rest) call fault ?_ hgood hbad rfl hstate
      rw [hplan, List.append_assoc, List.cons_append]
  | completes hgood hresult hstate =>
      rw [Action.bind_apply_ok hresult, hstate]
      cases hnext (before.calls ++ plan) with
      | completes hnextGood hnextResult hnextState =>
          refine .completes (obliges_append.mpr ⟨hgood, hnextGood⟩)
            hnextResult (hnextState.trans ?_)
          rw [afterCalls_append, List.append_assoc]
      | breaks front back call fault hplan hnextGood hbad hnextResult
          hnextState =>
          rw [← afterCalls_append] at hbad
          refine .breaks (plan ++ front) back call fault ?_
            (obliges_append.mpr ⟨hgood, hnextGood⟩) hbad hnextResult
            (hnextState.trans ?_)
          · rw [hplan, List.append_assoc]
          · rw [List.append_assoc, List.append_assoc plan,
              afterCalls_append plan (front ++ [call])]

end Follows

/-! ## Single calls -/

theorem follows_runtime (before : Recorded HostCall σ) :
    host.Follows [.runtime] (host.runtime before.inner).1 before
      (Action.query host.recording.runtime before) :=
  .completes (obliges_cons.mpr ⟨trivial, obliges_nil _⟩) rfl rfl

/-- A call that may be refused follows the plan of making it. -/
theorem follows_action {call : HostCall} {run : Action σ α} {value : α}
    {before : Recorded HostCall σ} (accepted : α → HostAnswer)
    (hanswer : host.answer call before.inner =
      (.ofResult accepted (run before.inner).result,
        (run before.inner).state))
    (haccepted : ∀ given, (accepted given).Good)
    (hvalue : ∀ given, (run before.inner).result = .ok given →
      given = value) :
    host.Follows [call] value before (Recorded.action call run before) := by
  cases hresult : (run before.inner).result with
  | error fault =>
      refine .breaks [] [] call fault rfl (obliges_nil _) ?_ hresult ?_
      · change (host.answer call before.inner).1.LeadsTo fault
        rw [hanswer, hresult]
        rfl
      · change _ = Recorded.mk (host.answer call before.inner).2 _
        rw [hanswer]
        rfl
  | ok given =>
      rw [← hvalue given hresult]
      refine .completes (obliges_cons.mpr ⟨?_, obliges_nil _⟩) hresult ?_
      · rw [hanswer, hresult]
        exact haccepted given
      · change _ = Recorded.mk (host.answer call before.inner).2 _
        rw [hanswer]
        rfl

end ModuleHost

end ScriptHost
