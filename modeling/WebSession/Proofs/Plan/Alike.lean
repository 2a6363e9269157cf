import WebSession.Proofs.Plan.Unfailing

/-!
# WebSession.Proofs.Plan.Alike

**Two plans that differ in the texts of records alone** (`Plan.Alike`). Run with the same random
octets they have related results, if every record is written (`Alike.run`): all that is told of a
record that was written is that it was.
-/

namespace WebSession.Plan

variable {α α' β β' : Type}

/-- Two plans draw alike and write records under the same ids, whatever their texts. If these are
written, the results are related in the end. -/
inductive Alike (related : α → α' → Prop) : Plan α → Plan α' → Prop where
  /-- Both plans are done. -/
  | done {a : α} {a' : α'} : related a a' → Alike related (.done a) (.done a')
  /-- Both draw and go on with the same octets. -/
  | draw {count : Nat} {next : Option (Vector UInt8 count) → Plan α}
      {next' : Option (Vector UInt8 count) → Plan α'} :
      (∀ octets, Alike related (next octets) (next' octets)) →
      Alike related (.ask (.random count) next) (.ask (.random count) next')
  /-- Both write a record under an id and go on when it is written. -/
  | add {store id text text' : String} {maxAge : Int} {next : Except Error Unit → Plan α}
      {next' : Except Error Unit → Plan α'} :
      Alike related (next (.ok ())) (next' (.ok ())) →
      Alike related (.ask (.add store id text maxAge) next)
        (.ask (.add store id text' maxAge) next')

variable {related : α → α' → Prop} {related' : β → β' → Prop}

theorem Alike.bind {p : Plan α} {p' : Plan α'} {f : α → Plan β} {f' : α' → Plan β'}
    (h : p.Alike related p') (hf : ∀ a a', related a a' → (f a).Alike related' (f' a')) :
    (p >>= f).Alike related' (p' >>= f') := by
  induction h with
  | done ha => exact hf _ _ ha
  | draw _ ih => exact .draw ih
  | add _ ih => exact .add ih

/-- A plan that only draws is like itself. -/
theorem Quiet.alike {good : α → Prop} {p : Plan α} (h : p.Quiet good) : p.Alike Eq p := by
  induction h with
  | done _ => exact .done rfl
  | draw _ ih => exact .draw ih

/-! ### Attempts -/

/-- Two attempts both succeed, or fail with the same error. -/
def SameFate : Except Error α → Except Error α' → Prop
  | .ok _, .ok _ => True
  | .error e, .error e' => e = e'
  | _, _ => False

/-- Attempts go on alike if they go on after success alike. -/
theorem Alike.bind_attempt {p : ExceptT Error Plan α} {p' : ExceptT Error Plan α'}
    {f : α → ExceptT Error Plan β} {f' : α' → ExceptT Error Plan β'}
    (h : p.run.Alike SameFate p'.run) (hf : ∀ a a', (f a).run.Alike SameFate (f' a').run) :
    (p >>= f).run.Alike SameFate (p' >>= f').run := by
  refine h.bind fun a a' ha => ?_
  cases a with
  | error e =>
      cases a' with
      | error e' => exact .done ha
      | ok a' => cases ha
  | ok a =>
      cases a' with
      | error e' => cases ha
      | ok a' => exact hf a a'

/-! ### Runs -/

/-- In two states that are the same in this way the same octets are drawn, now and later, whatever
records are written in between. -/
structure DrawsAlike {σ : Type} (respond : Responder σ) (same : σ → σ → Prop) : Prop where
  answer_eq : ∀ {t t' : σ} (count : Nat), same t t' →
    (respond (.random count) t).1 = (respond (.random count) t').1
  random : ∀ {t t' : σ} (count : Nat), same t t' →
    same (respond (.random count) t).2 (respond (.random count) t').2
  add : ∀ {t t' : σ} (store id text text' : String) (maxAge : Int), same t t' →
    same (respond (.add store id text maxAge) t).2 (respond (.add store id text' maxAge) t').2

/-- Worlds with the same stream of octets are the same in this way. -/
theorem drawsAlike_world : DrawsAlike World.respond fun w w' => w.entropy = w'.entropy where
  answer_eq count h := by simp only [World.respond, h]
  random count h := by simp only [World.respond, h]
  add store id text text' maxAge h := by
    have hkept : ∀ (text : String) (w : World),
        (World.respond (.add store id text maxAge) w).2.entropy = w.entropy := by
      intro text w
      simp only [World.respond]
      split <;> rfl
    rw [hkept, hkept, h]

/-- **Plans that are alike end alike** where the same octets are drawn, if all records are
written. -/
theorem Alike.run {σ : Type} {respond : Responder σ} {same : σ → σ → Prop} {p : Plan α}
    {p' : Plan α'} (h : p.Alike related p') (hrespond : DrawsAlike respond same) {t t' : σ}
    (hsame : same t t') (hp : p.Unfailing respond t) (hp' : p'.Unfailing respond t') :
    related (p.run respond t).1 (p'.run respond t').1 := by
  induction h generalizing t t' with
  | done ha => exact ha
  | @draw count next next' _ ih =>
      have hdrawn := hrespond.answer_eq count hsame
      rw [run_ask, run_ask, ← hdrawn]
      refine ih _ (hrespond.random count hsame) hp.2 ?_
      rw [hdrawn]
      exact hp'.2
  | @add store id text text' maxAge next next' _ ih =>
      have hok : (respond (.add store id text maxAge) t).1 = .ok () := hp.1
      have hok' : (respond (.add store id text' maxAge) t').1 = .ok () := hp'.1
      have hmore := hp.2
      have hmore' := hp'.2
      rw [hok] at hmore
      rw [hok'] at hmore'
      rw [run_ask, run_ask, hok, hok']
      exact ih (hrespond.add store id text text' maxAge hsame) hmore hmore'

end WebSession.Plan
