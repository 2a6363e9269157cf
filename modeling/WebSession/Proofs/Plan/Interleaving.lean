import Mathlib.Logic.Function.Basic
import WebSession.Proofs.Plan

/-!
# WebSession.Proofs.Plan.Interleaving

**Plans that run at the same time** (`Plan.Interleaves`): whoever answers takes one call after the
other, of whichever plan, and between two calls the state may move by itself.

A schedule is not fixed in advance. An interleaving is any derivation of the relation, and its
trace tells whose calls came when.
-/

namespace WebSession.Plan

variable {α σ ι : Type} [DecidableEq ι]

/-- From a state, the plans run to their ends, in the order of a trace, and leave a state. -/
inductive Interleaves (respond : Responder σ) (drift : σ → σ → Prop) :
    (ι → Plan α) → σ → List (ι × Call) → σ → Prop where
  /-- All plans are done. -/
  | done {plans : ι → Plan α} {s : σ} : (∀ i, ∃ a, plans i = .done a) →
      Interleaves respond drift plans s [] s
  /-- The state moves by itself. -/
  | drift {plans : ι → Plan α} {s s' t : σ} {trace : List (ι × Call)} : drift s s' →
      Interleaves respond drift plans s' trace t → Interleaves respond drift plans s trace t
  /-- A call of one of the plans is answered. -/
  | call {plans : ι → Plan α} {s t : σ} {trace : List (ι × Call)} (i : ι) {call : Call}
      {next : call.Answer → Plan α} : plans i = .ask call next →
      Interleaves respond drift (Function.update plans i (next (respond call s).1))
        (respond call s).2 trace t →
      Interleaves respond drift plans s ((i, call) :: trace) t

variable {respond : Responder σ} {drift : σ → σ → Prop}

/-- A plan may run to its end before the others go on. -/
theorem Interleaves.of_run {plans : ι → Plan α} (i : ι) {trace : List (ι × Call)} {t : σ}
    (p : Plan α) {s : σ}
    (h : Interleaves respond drift (Function.update plans i (.done (p.run respond s).1))
      (p.run respond s).2 trace t) :
    ∃ own : List Call, Interleaves respond drift (Function.update plans i p) s
      (own.map (Prod.mk i) ++ trace) t := by
  induction p generalizing s with
  | done a => exact ⟨[], h⟩
  | ask call next ih =>
      obtain ⟨own, hown⟩ := ih (respond call s).1 h
      refine ⟨call :: own, ?_⟩
      refine Interleaves.call i (Function.update_self i _ plans) ?_
      rw [Function.update_idem]
      exact hown

end WebSession.Plan
