import ScriptHost.Recorded

/-!
# Recording changes nothing else

An action on a state with a record of calls mirrors an action on the state
alone if it does the same apart from the record.  Recorded calls mirror the
calls themselves, and a sequence mirrors another one if its parts do.
-/

namespace ScriptHost

variable {Call σ α β : Type}

/-- The outcome with the record of calls left out. -/
def Outcome.unrecorded (outcome : Outcome (Recorded Call σ) α) : Outcome σ α :=
  ⟨outcome.result, outcome.state.inner, outcome.journal⟩

namespace Action

/-- An action does the same as another one, and may record calls besides. -/
def Mirrors (recorded : Action (Recorded Call σ) α) (plain : Action σ α) :
    Prop :=
  ∀ state, (recorded state).unrecorded = plain state.inner

theorem mirrors_pure (value : α) :
    Mirrors (pure value : Action (Recorded Call σ) α) (pure value) := by
  intro state
  rfl

theorem mirrors_fail (fault : Fault) :
    Mirrors (fail fault : Action (Recorded Call σ) α) (fail fault) := by
  intro state
  rfl

theorem mirrors_note (event : Event) :
    Mirrors (note event : Action (Recorded Call σ) Unit) (note event) := by
  intro state
  rfl

theorem mirrors_require (condition : Bool) (fault : Fault) :
    Mirrors (require condition fault : Action (Recorded Call σ) Unit)
      (require condition fault) := by
  cases condition with
  | false => exact mirrors_fail fault
  | true => exact mirrors_pure ()

theorem mirrors_query (call : Call) (read : σ → α × σ) :
    Mirrors (query (Recorded.query call read)) (query read) := by
  intro state
  rfl

theorem mirrors_action (call : Call) (run : Action σ α) :
    Mirrors (Recorded.action call run) run := by
  intro state
  rfl

/-- A sequence mirrors another one if its parts do. -/
theorem Mirrors.bind {recorded : Action (Recorded Call σ) α}
    {plain : Action σ α} {recordedNext : α → Action (Recorded Call σ) β}
    {plainNext : α → Action σ β} (hfirst : recorded.Mirrors plain)
    (hnext : ∀ value, (recordedNext value).Mirrors (plainNext value)) :
    (recorded >>= recordedNext).Mirrors (plain >>= plainNext) := by
  intro state
  have hplain := hfirst state
  cases hresult : (recorded state).result with
  | error fault =>
      have hplainResult : (plain state.inner).result = .error fault := by
        rw [← hplain]
        exact hresult
      rw [bind_apply_error hresult, bind_apply_error hplainResult, ← hplain]
      rfl
  | ok value =>
      have hplainResult : (plain state.inner).result = .ok value := by
        rw [← hplain]
        exact hresult
      have hrest : plainNext value (recorded state).unrecorded.state =
          (recordedNext value (recorded state).state).unrecorded :=
        (hnext value (recorded state).state).symm
      rw [bind_apply_ok hresult, bind_apply_ok hplainResult, ← hplain, hrest]
      rfl

end Action

end ScriptHost
