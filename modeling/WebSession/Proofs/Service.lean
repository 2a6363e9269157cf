import WebSession.Proofs.RequestSessions
import WebSession.Proofs.SessionStore
import WebSession.Service

/-!
# WebSession.Proofs.Service

**Showing and setting values are one plan**: load the session, change it, save it
(`respond_of_updates`). Showing changes nothing and saves all the same.
-/

namespace WebSession.Service

open Plan RequestSessions Http

/-! ### Setting values -/

/-- After setting values, a key that was set has its value and any other the one it had. -/
theorem get?_setAll (fields : Dict Json) (d : SessionData) (key : String) :
    (setAll fields d).get? key =
      match fields.get? key with
      | some j => some (Value.ofJson j)
      | none => d.get? key := by
  unfold setAll
  suffices h : ∀ {lo : Option String} (fields : Fields Json lo) (d : SessionData),
      (fields.toList.foldl (fun d f => d.insert f.1 (Value.ofJson f.2)) d).get? key =
        match fields.get? key with
        | some j => some (Value.ofJson j)
        | none => d.get? key from h fields d
  intro lo fields
  induction fields with
  | nil =>
      intro d
      rfl
  | cons k above j rest ih =>
      intro d
      rw [Fields.toList_cons, List.foldl_cons, ih, Fields.get?_cons]
      by_cases hk : key = k
      · subst hk
        rw [if_pos rfl, Fields.get?_eq_none_of_not_above (not_above_self key)]
        exact SessionData.get?_insert_self
      · rw [if_neg hk, SessionData.get?_insert_of_ne hk]

/-- Setting values twice is setting them once. -/
theorem setAll_setAll (fields : Dict Json) (d : SessionData) :
    setAll fields (setAll fields d) = setAll fields d := by
  refine SessionData.ext_get? fun key => ?_
  rw [get?_setAll, get?_setAll]
  cases fields.get? key <;> rfl

/-- The id stays if its key is not among those set. -/
theorem id?_setAll {fields : Dict Json} (h : fields.contains SessionData.idKey = false)
    (d : SessionData) : (setAll fields d).id? = d.id? := by
  have hnone : fields.get? SessionData.idKey = none := by
    simpa [Fields.contains] using h
  rw [SessionData.id?, get?_setAll, hnone, SessionData.id?]

/-! ### Requests -/

/-- The action changes the client's session in the store with a name, and then shows it. -/
inductive Action.Updates (name : String) : Action → (SessionData → SessionData) → Prop where
  /-- Showing values changes nothing. -/
  | shows {store? : Option String} : keyOr SessionFactory.cookieName store? = name →
      Updates name (.showValues store?) id
  /-- Setting values sets them. -/
  | sets {store? : Option String} {fields : Dict Json} :
      keyOr SessionFactory.cookieName store? = name →
      fields.contains SessionData.idKey = false →
      Updates name (.setValues store? fields) (setAll fields)

/-- The jar after saving: one that failed leaves it as it was. -/
def jarAfter (jar : Cookie.Jar) : Except Error Cookie.Jar → Cookie.Jar
  | .ok jar => jar
  | .error _ => jar

variable {factory : SessionFactory} {now : Int} {name : String} {s : SessionStore}
  {action : Action} {change : SessionData → SessionData}

theorem run_onSessions {α : Type} (x : OnSessions α) (r : RequestSessions) :
    (onSessions x).run.run r = x.run.run r >>= fun (p : Except Error α × RequestSessions) =>
      match p with
      | (.ok a, r) => .done (.ok a, r)
      | (.error e, r) => .done (.error (.ofError e), r) := by
  show x.run.run r >>= _ = _
  congr 1
  funext p
  obtain ⟨a, r⟩ := p
  cases a <;> rfl

/-- An updating action loads the session and keeps what it is changed to. -/
theorem run_perform_of_updates (h : action.Updates name change) (hs : factory.store name = .ok s)
    (jar : Cookie.Jar) :
    (perform factory now action).run.run { jar := jar } =
      s.load jar sessionKey now >>= fun d =>
        let info : SessionInfo :=
          { data := change d, store := name, config := factory.defaultConfig }
        .done (.ok (valuesBody (change d)), { jar := jar, loaded := [(sessionKey, info)] }) := by
  cases h with
  | shows hname =>
      subst hname
      rw [perform, run_run_bind, run_onSessions, run_session hs, Plan.bind_assoc, Plan.bind_assoc]
      rfl
  | sets hname hreserved =>
      subst hname
      simp only [perform, hreserved]
      show ((onSessions _ >>= _ : Performing _).run.run _) = _
      rw [run_run_bind, run_onSessions, run_modifySession hs, Plan.bind_assoc, Plan.bind_assoc]
      rfl

/-- **An updating request** loads the session, changes it and saves it. -/
theorem respond_of_updates {request : Request} (haction : Action.ofRequest request = .ok action)
    (h : action.Updates name change) (hs : factory.store name = .ok s) :
    respond factory now request =
      let jar := Cookie.Jar.ofHeaders request.cookies
      s.load jar sessionKey now >>= fun d =>
        (s.save jar sessionKey now
          { data := change d, store := name, config := factory.defaultConfig }).run >>= fun saved =>
            .done (withoutBody request.method
              { reply (.ok (valuesBody (change d))) with
                cookies := (jarAfter jar saved).headers }) := by
  simp only [respond, haction, act]
  rw [run_perform_of_updates h hs, Plan.bind_assoc, Plan.bind_assoc]
  congr 1
  funext d
  simp only [done_bind]
  rw [save_single hs, Plan.bind_assoc, Plan.bind_assoc]
  congr 1
  funext saved
  cases saved <;> rfl

end WebSession.Service
