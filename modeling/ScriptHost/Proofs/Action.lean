import ScriptHost.Action

/-!
# What a sequence of actions leaves behind

A sequence succeeds if both of its actions do.  Whatever both actions keep of
the state is kept by the sequence, also when the first one fails.
-/

namespace ScriptHost.Action

variable {σ α β : Type}

theorem bind_result_eq_ok_iff {first : Action σ α} {next : α → Action σ β}
    {state : σ} {value : β} :
    ((first >>= next) state).result = .ok value ↔
      ∃ before, (first state).result = .ok before ∧
        (next before (first state).state).result = .ok value := by
  cases hfirst : (first state).result with
  | error fault =>
      rw [bind_apply_error hfirst]
      simp
  | ok before =>
      rw [bind_apply_ok hfirst]
      simp

/-- A property of states that both actions keep is kept by their sequence. -/
theorem bind_state_of {P : σ → Prop} {first : Action σ α}
    {next : α → Action σ β} {state : σ} (hfirst : P (first state).state)
    (hnext : ∀ value before, P before → P (next value before).state) :
    P ((first >>= next) state).state := by
  cases hresult : (first state).result with
  | error fault =>
      rw [bind_apply_error hresult]
      exact hfirst
  | ok value =>
      rw [bind_apply_ok hresult]
      exact hnext value _ hfirst

/-- Returning a function of the value changes the value only. -/
theorem bind_pure_apply (first : Action σ α) (read : α → β) (state : σ) :
    (first >>= fun value => pure (read value)) state =
      ⟨(first state).result.map read, (first state).state,
        (first state).journal⟩ := by
  cases hresult : (first state).result with
  | error fault =>
      rw [bind_apply_error hresult]
      rfl
  | ok value =>
      rw [bind_apply_ok hresult]
      simp [Except.map]

end ScriptHost.Action
