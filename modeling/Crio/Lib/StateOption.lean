import Mathlib

/-!
Computations that read and write a state, may fail with an error, and may never return:
`ExceptT ε (StateT σ Option)`, where `none` is a run that stops (a panic, a deadlock, a bound
on a loop reached) and `some (.error e, s')` an error raised in state `s'`.
-/

namespace StateOption

variable {ε σ α β : Type}

theorem run_get_bind {f : σ → ExceptT ε (StateT σ Option) β} {s : σ} :
    ((MonadState.get : ExceptT ε (StateT σ Option) σ) >>= f).run s = (f s).run s := rfl

theorem run_bind {x : ExceptT ε (StateT σ Option) α} {f : α → ExceptT ε (StateT σ Option) β}
    {s : σ} : (x >>= f).run s = (x.run s).bind fun step =>
      match step with
      | (.ok a, s') => (f a).run s'
      | (.error e, s') => some (.error e, s') := by
  rw [ExceptT.run_bind]
  change StateT.run (x.run >>= _) s = _
  rw [StateT.run_bind]
  change (x.run s >>= _) = _
  cases x.run s with
  | none => rfl
  | some step =>
    obtain ⟨result, s'⟩ := step
    cases result <;> rfl

theorem run_bind_of_run {x : ExceptT ε (StateT σ Option) α} {f : α → ExceptT ε (StateT σ Option) β}
    {s s' : σ} {a : α} (ran : x.run s = some (.ok a, s')) : (x >>= f).run s = (f a).run s' := by
  rw [run_bind, ran]
  rfl

theorem run_bind_of_error {x : ExceptT ε (StateT σ Option) α} {f : α → ExceptT ε (StateT σ Option) β}
    {s s' : σ} {e : ε} (ran : x.run s = some (.error e, s')) :
    (x >>= f).run s = some (.error e, s') := by
  rw [run_bind, ran]
  rfl

end StateOption
