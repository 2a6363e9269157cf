import WebSession.Proofs.Plan.Makes

/-!
# WebSession.Proofs.Plan.Unfailing

**Runs in which no call for a record fails** (`Plan.Unfailing`). That a record is not there is an
answer like any other; everything else that is not a success is a failure.

Failing is a matter of the run, not of the responder: what the plan does not ask for may well be
broken.
-/

namespace WebSession

/-- The answer is one of a store that works. -/
def Call.Succeeds : (call : Call) → call.Answer → Prop
  | .random _, _ => True
  | .add .., written => written = .ok ()
  | .get .., record => ∀ e, record = .error e → e = .noSession
  | .remove .., removed => removed = .ok () ∨ removed = .error .noSession

namespace Plan

variable {α β σ : Type} {respond : Responder σ}

/-- Run from a state, the plan makes no call that fails. -/
def Unfailing (respond : Responder σ) : Plan α → σ → Prop
  | .done _, _ => True
  | .ask call next, s =>
    call.Succeeds (respond call s).1 ∧
      (next (respond call s).1).Unfailing respond (respond call s).2

/-- A plan is unfailing part by part. -/
theorem unfailing_bind {p : Plan α} {f : α → Plan β} {s : σ} :
    (p >>= f).Unfailing respond s ↔ p.Unfailing respond s ∧
      (f (p.run respond s).1).Unfailing respond (p.run respond s).2 := by
  induction p generalizing s with
  | done a => simp [Unfailing]
  | ask call next ih => simp [Unfailing, ih, and_assoc]

variable {kind : Call → Prop} {p : Plan α}

/-- **A plan is unfailing** if the calls of its kind succeed under a condition that they keep. -/
theorem Makes.unfailing {ok : σ → Prop} (h : p.Makes kind)
    (hok : ∀ call s, kind call → ok s →
      call.Succeeds (respond call s).1 ∧ ok (respond call s).2) {s : σ} (hs : ok s) :
    p.Unfailing respond s ∧ ok (p.run respond s).2 := by
  induction h generalizing s with
  | done _ => exact ⟨trivial, hs⟩
  | ask hcall _ ih =>
      obtain ⟨hsucceeds, hkept⟩ := hok _ s hcall hs
      obtain ⟨hunfailing, hend⟩ := ih _ hkept
      exact ⟨⟨hsucceeds, hunfailing⟩, hend⟩

end Plan

end WebSession
