import ItsBedalyo.Lib.Transition
import Mathlib.Order.OrderIsoNat

/-!
# Executions that come to rest

An execution goes on for ever, but nothing need happen between two of its states. Some of the
labels are the system's own. If its own steps lower a measure and the others at least do not
raise it, and if the system takes a step of its own whenever it can, then from some point on it
is at rest (`Execution.comes_to_rest`), whatever the others go on doing.
-/

namespace Settling

variable {σ α β : Type*} {step : σ → α → Option σ}

/-- Between two states there is a step, or nothing. -/
def Next (step : σ → α → Option σ) (s : σ) : Option α → σ → Prop
  | none, s' => s' = s
  | some a, s' => step s a = some s'

/-- An infinite execution. -/
structure Execution (step : σ → α → Option σ) where
  state : ℕ → σ
  label : ℕ → Option α
  next : ∀ i, Next step (state i) (label i) (state (i + 1))

namespace Execution

variable (e : Execution step)

/-- What every step keeps holds throughout. -/
theorem invariant {I : σ → Prop} (hI : ∀ s a s', I s → step s a = some s' → I s')
    (hinit : I (e.state 0)) (i : ℕ) : I (e.state i) := by
  induction i with
  | zero => exact hinit
  | succ i ih =>
    have hnext := e.next i
    cases hlabel : e.label i with
    | none =>
      rw [hlabel] at hnext
      exact hnext ▸ ih
    | some a =>
      rw [hlabel] at hnext
      exact hI _ a _ ih hnext

/-- Where it has something of its own to do, the system does something sooner or later. -/
def Fair (own : α → Prop) (rest : σ → Prop) : Prop :=
  ∀ i, ¬rest (e.state i) → ∃ j ≥ i, ∃ a, e.label j = some a ∧ own a

variable {e} {own : α → Prop} {rest I : σ → Prop}

/-- **Settling.** A fair execution comes to rest if the system's own steps lower a measure and
the others do not raise it. -/
theorem comes_to_rest [PartialOrder β] [WellFoundedLT β] (μ : σ → β) (hI : ∀ i, I (e.state i))
    (hle : ∀ i a s', e.label i = some a → I (e.state i) → step (e.state i) a = some s' →
      μ s' ≤ μ (e.state i))
    (hlt : ∀ s a s', I s → own a → step s a = some s' → μ s' < μ s) (hfair : e.Fair own rest) :
    ∃ N, ∀ i ≥ N, rest (e.state i) := by
  have hanti : Antitone fun i => μ (e.state i) := by
    refine antitone_nat_of_succ_le fun i => ?_
    have hnext := e.next i
    cases hlabel : e.label i with
    | none =>
      rw [hlabel] at hnext
      exact le_of_eq (congrArg μ hnext)
    | some a =>
      rw [hlabel] at hnext
      exact hle i a _ hlabel (hI i) hnext
  obtain ⟨N, hN⟩ := WellFoundedLT.antitone_chain_condition hanti
  refine ⟨N, fun i hi => ?_⟩
  by_contra hrest
  obtain ⟨j, hj, a, hlabel, hown⟩ := hfair i hrest
  -- the measure has stopped falling, so nothing of the system's own happens
  have hnext := e.next j
  rw [hlabel] at hnext
  have hfall := hlt _ a _ (hI j) hown hnext
  have hbefore := hN j (hi.trans hj)
  have hafter := hN (j + 1) ((hi.trans hj).trans (Nat.le_succ j))
  exact absurd (hbefore.symm.trans hafter) (ne_of_gt hfall)

end Execution

end Settling
