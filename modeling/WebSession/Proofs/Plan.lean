import WebSession.World

/-!
# WebSession.Proofs.Plan

**Plans that only draw random octets** (`Plan.Quiet`), and how they run.

Most of what a session operation calls for is randomness, which tells the records nothing. A plan
that only draws is therefore known by its results alone. Where it matters whether octets are given
at all, `Plan.Draws` tells the results with them from those without.
-/

namespace WebSession

variable {α β γ σ : Type}

namespace Plan

/-! ### Laws -/

theorem bind_assoc (p : Plan α) (f : α → Plan β) (g : β → Plan γ) :
    p >>= f >>= g = p >>= fun a => f a >>= g := by
  induction p with
  | done a => rfl
  | ask call next ih =>
      show Plan.ask call _ = Plan.ask call _
      congr 1
      funext answer
      exact ih answer

theorem bind_done (p : Plan α) : p >>= Plan.done = p := by
  induction p with
  | done a => rfl
  | ask call next ih =>
      show Plan.ask call _ = Plan.ask call _
      congr 1
      funext answer
      exact ih answer

instance : LawfulMonad Plan :=
  LawfulMonad.mk' Plan bind_done (fun _ _ => rfl) bind_assoc

/-! ### Drawing -/

/-- The plan makes no call but for random octets, and however these are answered its result is
good. -/
inductive Quiet (good : α → Prop) : Plan α → Prop where
  /-- The plan is done. -/
  | done {a : α} : good a → Quiet good (.done a)
  /-- The plan draws and goes on. -/
  | draw {count : Nat} {next : Option (Vector UInt8 count) → Plan α} :
      (∀ answer, Quiet good (next answer)) → Quiet good (.ask (.random count) next)

theorem Quiet.mono {P Q : α → Prop} {p : Plan α} (h : Quiet P p) (hPQ : ∀ a, P a → Q a) :
    Quiet Q p := by
  induction h with
  | done ha => exact .done (hPQ _ ha)
  | draw _ ih => exact .draw ih

theorem Quiet.bind {P : α → Prop} {Q : β → Prop} {p : Plan α} {f : α → Plan β} (h : Quiet P p)
    (hf : ∀ a, P a → Quiet Q (f a)) : Quiet Q (p >>= f) := by
  induction h with
  | done ha => exact hf _ ha
  | draw _ ih => exact .draw ih

/-- The plan makes no call but for random octets. If it gets them its result is good, and if not it
is that of a starved plan. -/
inductive Draws (good starved : α → Prop) : Plan α → Prop where
  /-- The plan is done. -/
  | done {a : α} : good a → Draws good starved (.done a)
  /-- The plan draws and goes on. -/
  | draw {count : Nat} {next : Option (Vector UInt8 count) → Plan α} :
      (∀ octets, Draws good starved (next (some octets))) → Quiet starved (next none) →
      Draws good starved (.ask (.random count) next)

theorem Draws.mono {P Q S : α → Prop} {p : Plan α} (h : Draws P S p) (hPQ : ∀ a, P a → Q a) :
    Draws Q S p := by
  induction h with
  | done ha => exact .done (hPQ _ ha)
  | draw _ hnone ih => exact .draw ih hnone

theorem Draws.bind {P S : α → Prop} {Q T : β → Prop} {p : Plan α} {f : α → Plan β}
    (h : Draws P S p) (hf : ∀ a, P a → Draws Q T (f a)) (hs : ∀ a, S a → Quiet T (f a)) :
    Draws Q T (p >>= f) := by
  induction h with
  | done ha => exact hf _ ha
  | draw _ hnone ih => exact .draw ih (hnone.bind hs)

/-- However its calls are answered, the result is one of both kinds. -/
theorem Draws.quiet {P S : α → Prop} {p : Plan α} (h : Draws P S p) :
    Quiet (fun a => P a ∨ S a) p := by
  induction h with
  | done ha => exact .done (Or.inl ha)
  | draw _ hnone ih =>
      refine .draw fun answer => ?_
      cases answer with
      | none => exact hnone.mono fun _ => Or.inr
      | some octets => exact ih octets

/-- The plan draws, makes one call of a kind, and draws again. Without octets it may end before. -/
inductive Calls (kind : Call → Prop) : Plan α → Prop where
  /-- The plan makes the call. -/
  | call {call : Call} {next : call.Answer → Plan α} :
      kind call → (∀ answer, Quiet (fun _ => True) (next answer)) → Calls kind (.ask call next)
  /-- The plan draws and goes on. -/
  | draw {count : Nat} {next : Option (Vector UInt8 count) → Plan α} :
      (∀ octets, Calls kind (next (some octets))) → Quiet (fun _ => True) (next none) →
      Calls kind (.ask (.random count) next)

theorem Calls.mono {K L : Call → Prop} {p : Plan α} (h : Calls K p)
    (hKL : ∀ call, K call → L call) : Calls L p := by
  induction h with
  | call hcall hnext => exact .call (hKL _ hcall) hnext
  | draw _ hnone ih => exact .draw ih hnone

theorem Draws.bind_calls {P S : α → Prop} {kind : Call → Prop} {p : Plan α} {f : α → Plan β}
    (h : Draws P S p) (hf : ∀ a, P a → Calls kind (f a))
    (hs : ∀ a, S a → Quiet (fun _ => True) (f a)) : Calls kind (p >>= f) := by
  induction h with
  | done ha => exact hf _ ha
  | draw _ hnone ih => exact .draw ih (hnone.bind hs)

theorem Calls.bind {kind : Call → Prop} {p : Plan α} {f : α → Plan β} (h : Calls kind p)
    (hf : ∀ a, Quiet (fun _ => True) (f a)) : Calls kind (p >>= f) := by
  induction h with
  | call hcall hnext => exact .call hcall fun answer => (hnext answer).bind fun a _ => hf a
  | draw _ hnone ih => exact .draw ih (hnone.bind fun a _ => hf a)

end Plan

/-! ### Supply -/

/-- Whoever answers keeps a condition while drawing. -/
def Responder.Keeps (respond : Responder σ) (ok : σ → Prop) : Prop :=
  ∀ (s : σ) (count : Nat), ok s → ok (respond (.random count) s).2

/-- Whoever answers gives random octets while a condition holds, and drawing keeps it. -/
structure Responder.Supplies (respond : Responder σ) (ok : σ → Prop) : Prop where
  /-- Octets are given. -/
  random : ∀ {s : σ} (count : Nat), ok s → ∃ octets, (respond (.random count) s).1 = some octets
  /-- The condition stays. -/
  keeps : respond.Keeps ok

/-- **A plan that only draws ends with a good result**, whoever answers. -/
theorem Plan.Quiet.good_run {good : α → Prop} {p : Plan α} (h : p.Quiet good)
    (respond : Responder σ) (s : σ) : good (p.run respond s).1 := by
  induction h generalizing s with
  | done ha => exact ha
  | draw _ ih => exact ih _ _

/-- And it leaves the state as good as it was. -/
theorem Plan.run_of_quiet {respond : Responder σ} {ok : σ → Prop} (hr : respond.Keeps ok)
    {good : α → Prop} {p : Plan α} (h : p.Quiet good) {s : σ} (hs : ok s) :
    good (p.run respond s).1 ∧ ok (p.run respond s).2 := by
  refine ⟨h.good_run respond s, ?_⟩
  induction h generalizing s with
  | done _ => exact hs
  | @draw count next _ ih => exact ih _ (hr s count hs)

/-- **When octets are given** the result is that of a plan that gets them. -/
theorem Plan.run_of_draws {respond : Responder σ} {ok : σ → Prop} (hr : respond.Supplies ok)
    {good starved : α → Prop} {p : Plan α} (h : p.Draws good starved) {s : σ} (hs : ok s) :
    good (p.run respond s).1 ∧ ok (p.run respond s).2 := by
  induction h generalizing s with
  | done ha => exact ⟨ha, hs⟩
  | @draw count next _ _ ih =>
      obtain ⟨octets, hoctets⟩ := hr.random count hs
      rw [Plan.run_ask, hoctets]
      exact ih octets (hr.keeps s count hs)

/-- **A plan with one call** keeps what drawing and the call keep. -/
theorem Plan.run_of_calls {respond : Responder σ} {ok : σ → Prop} (hr : respond.Keeps ok)
    {kind : Call → Prop} {p : Plan α} (h : p.Calls kind)
    (hcall : ∀ call s, kind call → ok s → ok (respond call s).2) {s : σ} (hs : ok s) :
    ok (p.run respond s).2 := by
  induction h generalizing s with
  | call hkind hnext => exact (run_of_quiet hr (hnext _) (hcall _ _ hkind hs)).2
  | @draw count next _ hnone ih =>
      rw [Plan.run_ask]
      have hkept := hr s count hs
      cases (respond (.random count) s).1 with
      | none => exact (run_of_quiet hr hnone hkept).2
      | some octets => exact ih octets hkept

theorem Responder.refusing_none (respond : Responder σ) :
    (respond.refusing fun _ => none) = respond := rfl

/-- Drawing keeps what it kept when no draw is refused. -/
theorem Responder.Keeps.refusing {respond : Responder σ} {ok : σ → Prop} (h : respond.Keeps ok)
    {refuse? : Call → Option Error} (hrandom : ∀ count, refuse? (.random count) = none) :
    (respond.refusing refuse?).Keeps ok := by
  intro s count hs
  simp only [Responder.refusing, hrandom]
  exact h s count hs

/-- The world gives random octets as long as its stream is not broken. -/
theorem World.supplies : Responder.Supplies World.respond (fun w => w.entropy.broken = false) where
  random := by
    intro w count hw
    simp [World.respond, Entropy.draw, hw]
  keeps := by
    intro w count hw
    simp [World.respond, Entropy.draw, hw]

end WebSession
