import ScriptHost.Fault
import ScriptHost.Journal

/-!
# Actions

An action works on a state, may fail, and keeps a journal.  A failing action
still leaves a state and a journal behind: what was done before the fault
stays done.  Actions compose in sequence, and a fault ends the sequence.
-/

namespace ScriptHost

/-- What an action leaves behind. -/
structure Outcome (σ α : Type) where
  /-- The value, or the fault that ended the action. -/
  result : Except Fault α
  state : σ
  /-- The events of the action, in order. -/
  journal : List Event

/-- A computation on a state that may fail and that keeps a journal. -/
def Action (σ α : Type) : Type :=
  σ → Outcome σ α

namespace Action

variable {σ α β : Type}

def done (value : α) : Action σ α :=
  fun state => ⟨.ok value, state, []⟩

def fail (fault : Fault) : Action σ α :=
  fun state => ⟨.error fault, state, []⟩

/-- One action, then the next unless the first one failed. -/
def andThen (first : Action σ α) (next : α → Action σ β) : Action σ β :=
  fun state =>
    let before := first state
    match before.result with
    | .error fault => ⟨.error fault, before.state, before.journal⟩
    | .ok value =>
      let after := next value before.state
      ⟨after.result, after.state, before.journal ++ after.journal⟩

instance : Monad (Action σ) where
  pure := done
  bind := andThen

/-- Takes a value from the state, which may change on the way. -/
def query (read : σ → α × σ) : Action σ α :=
  fun state =>
    let answer := read state
    ⟨.ok answer.1, answer.2, []⟩

def note (event : Event) : Action σ Unit :=
  fun state => ⟨.ok (), state, [event]⟩

/-- Fails unless the condition holds. -/
def require (condition : Bool) (fault : Fault) : Action σ Unit :=
  if condition then done () else fail fault

theorem bind_apply_ok {first : Action σ α} {next : α → Action σ β}
    {state : σ} {value : α} (hfirst : (first state).result = .ok value) :
    (first >>= next) state =
      ⟨(next value (first state).state).result,
        (next value (first state).state).state,
        (first state).journal ++ (next value (first state).state).journal⟩ := by
  change andThen first next state = _
  simp only [andThen, hfirst]

theorem bind_apply_error {first : Action σ α} {next : α → Action σ β}
    {state : σ} {fault : Fault} (hfirst : (first state).result = .error fault) :
    (first >>= next) state =
      ⟨.error fault, (first state).state, (first state).journal⟩ := by
  change andThen first next state = _
  simp only [andThen, hfirst]

@[simp]
theorem pure_apply (value : α) (state : σ) :
    (pure value : Action σ α) state = ⟨.ok value, state, []⟩ := rfl

end Action

end ScriptHost
