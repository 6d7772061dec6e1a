import Mathlib

/-!
States a transition system can reach from its initial states, and the rule that turns a
property holding initially and preserved by every transition into a property of every
reachable state. `Relation.ReflTransGen` carries the runs.
-/

namespace Reachability

variable {σ : Type}

def Reachable (init : σ → Prop) (next : σ → σ → Prop) (s : σ) : Prop :=
  ∃ start, init start ∧ Relation.ReflTransGen next start s

theorem Reachable.initial {init : σ → Prop} {next : σ → σ → Prop} {s : σ} (start : init s) :
    Reachable init next s :=
  ⟨s, start, Relation.ReflTransGen.refl⟩

theorem Reachable.step {init : σ → Prop} {next : σ → σ → Prop} {s s' : σ}
    (reached : Reachable init next s) (move : next s s') : Reachable init next s' := by
  obtain ⟨start, initial, run⟩ := reached
  exact ⟨start, initial, run.tail move⟩

theorem Reachable.invariant {init : σ → Prop} {next : σ → σ → Prop} (inv : σ → Prop)
    (initial : ∀ s, init s → inv s) (preserved : ∀ s s', inv s → next s s' → inv s')
    {s : σ} (reached : Reachable init next s) : inv s := by
  obtain ⟨start, startInit, run⟩ := reached
  induction run with
  | refl => exact initial start startInit
  | tail _ move ih => exact preserved _ _ ih move

theorem Reachable.foldlM {γ : Type} {init : σ → Prop} {next : σ → σ → Prop}
    {run : σ → γ → Option σ} (sound : ∀ s call s', run s call = some s' → next s s') :
    ∀ (calls : List γ) {s s' : σ}, Reachable init next s → calls.foldlM run s = some s' →
      Reachable init next s'
  | [], _, _, reached, ran => by
    rw [List.foldlM_nil] at ran
    exact Option.some_inj.mp ran ▸ reached
  | call :: rest, s, _, reached, ran => by
    rw [List.foldlM_cons] at ran
    cases first : run s call with
    | none => rw [first] at ran; contradiction
    | some moved =>
      rw [first] at ran
      exact Reachable.foldlM sound rest (reached.step (sound s call moved first)) ran

end Reachability
