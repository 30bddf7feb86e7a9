import ScriptHost.Action

/-!
# Recorded calls

A state can carry a record of the calls made on it.  Each recorded call is
added to the record before it runs, so a call that fails is recorded too.
-/

namespace ScriptHost

/-- A state together with the calls made on it, oldest first. -/
structure Recorded (Call σ : Type) where
  inner : σ
  calls : List Call

namespace Recorded

variable {Call σ α : Type}

/-- A state on which no calls were made. -/
def start (inner : σ) : Recorded Call σ := ⟨inner, []⟩

/-- Takes a value from the state and records the call. -/
def query (call : Call) (read : σ → α × σ) (state : Recorded Call σ) :
    α × Recorded Call σ :=
  let answer := read state.inner
  (answer.1, ⟨answer.2, state.calls ++ [call]⟩)

/-- Runs an action on the state and records the call. -/
def action (call : Call) (run : Action σ α) : Action (Recorded Call σ) α :=
  fun state =>
    let outcome := run state.inner
    ⟨outcome.result, ⟨outcome.state, state.calls ++ [call]⟩, outcome.journal⟩

end Recorded

end ScriptHost
