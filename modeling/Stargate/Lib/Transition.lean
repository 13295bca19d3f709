import Mathlib.Logic.Basic
import Mathlib.Logic.Relation

/-!
# Stargate.Lib.Transition

States reachable in a transition system, and the induction rule for invariants over whole
runs: an invariant that holds initially and that every step preserves holds in every
reachable state. The same rule over a chain of steps (`Relation.ReflTransGen`) gives what a
run between two given states preserves, and a map that sends each step to a step or to no change
sends reachable states to reachable states (`Reachable.map`). A step relation allows any
interleaving of the steps it offers; runs are not recorded, only the states they reach.
-/

/-- The states reachable from a state satisfying `init` by steps of `step`. -/
inductive Reachable {σ : Type} (init : σ → Prop) (step : σ → σ → Prop) : σ → Prop
  | init {s : σ} : init s → Reachable init step s
  | step {s s' : σ} : Reachable init step s → step s s' → Reachable init step s'

namespace Reachable

variable {σ : Type} {init : σ → Prop} {step : σ → σ → Prop}

/-- **Invariant rule.** -/
theorem invariant (inv : σ → Prop) (h0 : ∀ s, init s → inv s)
    (hstep : ∀ s s', inv s → step s s' → inv s') {s : σ} (h : Reachable init step s) : inv s := by
  induction h with
  | init hs => exact h0 _ hs
  | step _ hst ih => exact hstep _ _ ih hst

/-- **Projection rule.** A map that sends initial states to initial states, and each step to a
step or to no change, sends reachable states to reachable states. -/
theorem map {τ : Type} {init' : τ → Prop} {step' : τ → τ → Prop} (f : σ → τ)
    (h0 : ∀ s, init s → init' (f s))
    (hstep : ∀ s s', step s s' → f s' = f s ∨ step' (f s) (f s'))
    {s : σ} (h : Reachable init step s) : Reachable init' step' (f s) := by
  induction h with
  | init hs => exact .init (h0 _ hs)
  | step _ hst ih =>
    rcases hstep _ _ hst with heq | hnext
    · rw [heq]
      exact ih
    · exact .step ih hnext

end Reachable

/-- A property that every step keeps holds at the end of every chain of steps. -/
theorem Relation.ReflTransGen.preserves {σ : Type} {r : σ → σ → Prop} (P : σ → Prop)
    (hstep : ∀ a b, P a → r a b → P b) {a b : σ} (h : Relation.ReflTransGen r a b) (ha : P a) :
    P b := by
  induction h with
  | refl => exact ha
  | tail _ hbc ih => exact hstep _ _ ih hbc
