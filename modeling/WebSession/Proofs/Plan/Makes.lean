import WebSession.Proofs.Plan

/-!
# WebSession.Proofs.Plan.Makes

**Plans all of whose calls are of a kind** (`Plan.Makes`), however they are answered. What the calls
of the kind keep is kept by the whole run (`Makes.run`), and the calls that a run makes are of the
kind (`Makes.of_mem_trace`).

Where a plan goes on with what it made, one also has to know that that is good (`Plan.Yields`).
-/

namespace WebSession.Plan

variable {α β σ : Type} {respond : Responder σ}

/-- Every call that the plan makes is of a kind, however its calls are answered. -/
inductive Makes (kind : Call → Prop) : Plan α → Prop where
  /-- The plan is done. -/
  | done (a : α) : Makes kind (.done a)
  /-- The plan calls and goes on. -/
  | ask {call : Call} {next : call.Answer → Plan α} :
      kind call → (∀ answer, Makes kind (next answer)) → Makes kind (.ask call next)

variable {kind : Call → Prop} {p : Plan α}

theorem Makes.mono {more : Call → Prop} (h : p.Makes kind) (hkind : ∀ call, kind call → more call) :
    p.Makes more := by
  induction h with
  | done a => exact .done a
  | ask hcall _ ih => exact .ask (hkind _ hcall) ih

theorem Makes.bind {f : α → Plan β} (h : p.Makes kind) (hf : ∀ a, (f a).Makes kind) :
    (p >>= f).Makes kind := by
  induction h with
  | done a => exact hf a
  | ask hcall _ ih => exact .ask hcall ih

/-- Calls that are of two kinds are of both. -/
theorem Makes.and {other : Call → Prop} (h : p.Makes kind) (h' : p.Makes other) :
    p.Makes fun call => kind call ∧ other call := by
  induction h with
  | done a => exact .done a
  | ask hcall _ ih =>
      cases h' with
      | ask hcall' hnext' => exact .ask ⟨hcall, hcall'⟩ fun answer => ih answer (hnext' answer)

/-- What follows a plan that only draws need only be right for its good results. -/
theorem Quiet.bind_makes {good : α → Prop} {f : α → Plan β} (h : p.Quiet good)
    (hrandom : ∀ count, kind (.random count)) (hf : ∀ a, good a → (f a).Makes kind) :
    (p >>= f).Makes kind := by
  induction h with
  | done ha => exact hf _ ha
  | draw _ ih => exact .ask (hrandom _) ih

theorem Quiet.makes {good : α → Prop} (h : p.Quiet good) (hrandom : ∀ count, kind (.random count)) :
    p.Makes kind := by
  induction h with
  | done _ => exact .done _
  | draw _ ih => exact .ask (hrandom _) ih

/-- **A run keeps** what the calls of its kind keep. -/
theorem Makes.run {ok : σ → Prop} (h : p.Makes kind)
    (hok : ∀ call s, kind call → ok s → ok (respond call s).2) {s : σ} (hs : ok s) :
    ok (p.run respond s).2 := by
  induction h generalizing s with
  | done _ => exact hs
  | ask hcall _ ih => exact ih _ (hok _ s hcall hs)

/-! ### Traces -/

/-- The calls that a run makes, in their order. -/
def trace (respond : Responder σ) : Plan α → σ → List Call
  | .done _, _ => []
  | .ask call next, s =>
    call :: (next (respond call s).1).trace respond (respond call s).2

/-- **The calls of a run** are of the kind that the plan makes. -/
theorem Makes.of_mem_trace (h : p.Makes kind) {s : σ} {call : Call}
    (hcall : call ∈ p.trace respond s) : kind call := by
  induction h generalizing s with
  | done _ => cases hcall
  | ask hkind _ ih =>
      rcases List.mem_cons.mp hcall with rfl | hcall
      · exact hkind
      · exact ih _ hcall

/-- A run makes the calls of its parts. -/
theorem trace_bind (p : Plan α) (f : α → Plan β) (s : σ) :
    (p >>= f).trace respond s =
      p.trace respond s ++ (f (p.run respond s).1).trace respond (p.run respond s).2 := by
  induction p generalizing s with
  | done a => rfl
  | ask call next ih => exact congrArg (call :: ·) (ih _ _)

/-! ### Results -/

/-- Every call that the plan makes is of a kind, and its result is good, however its calls are
answered. -/
inductive Yields (kind : Call → Prop) (good : α → Prop) : Plan α → Prop where
  /-- The plan is done. -/
  | done {a : α} : good a → Yields kind good (.done a)
  /-- The plan calls and goes on. -/
  | ask {call : Call} {next : call.Answer → Plan α} :
      kind call → (∀ answer, Yields kind good (next answer)) → Yields kind good (.ask call next)

variable {good : α → Prop}

theorem Yields.makes (h : p.Yields kind good) : p.Makes kind := by
  induction h with
  | done _ => exact .done _
  | ask hcall _ ih => exact .ask hcall ih

theorem Makes.yields (h : p.Makes kind) : p.Yields kind fun _ => True := by
  induction h with
  | done a => exact .done trivial
  | ask hcall _ ih => exact .ask hcall ih

theorem Quiet.yields (h : p.Quiet good) (hrandom : ∀ count, kind (.random count)) :
    p.Yields kind good := by
  induction h with
  | done ha => exact .done ha
  | draw _ ih => exact .ask (hrandom _) ih

theorem Yields.bind {goal : β → Prop} {f : α → Plan β} (h : p.Yields kind good)
    (hf : ∀ a, good a → (f a).Yields kind goal) : (p >>= f).Yields kind goal := by
  induction h with
  | done ha => exact hf _ ha
  | ask hcall _ ih => exact .ask hcall ih

/-- **A run ends with a good result**, whoever answers. -/
theorem Yields.good_run (h : p.Yields kind good) (respond : Responder σ) (s : σ) :
    good (p.run respond s).1 := by
  induction h generalizing s with
  | done ha => exact ha
  | ask _ _ ih => exact ih _ _

end WebSession.Plan
