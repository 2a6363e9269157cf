import WebSession.Proofs.Encoder

/-!
# WebSession.Proofs.Encoder.RoundTrip

**What an encoder writes it reads back, within its limits and only there**
(`decode_encode_exactly`).

The text that is read is the one that was written, so it is always verified, and its timestamp is
the time of writing. What is left are the limits, in the order in which they are checked, and the
payload, which is opened and read as the session.
-/

namespace WebSession.Encoder

open Plan

/-- **Round trip.** A session is written, and what is written is read as the session exactly if it
is short enough, has a time, and is neither too young nor too old. Each limit that is overstepped
has its own error, and the first of them is told. -/
theorem decode_encode_exactly {σ : Type} {respond : Responder σ} {ok : σ → Prop}
    (hr : respond.Supplies ok) {s : σ} (hs : ok s) {e : Encoder}
    (he : e.authenticate?.isSome = true) (key : String) {d : SessionData} (hd : d.Representable)
    {made : Int} (ht : Range.isInt64 (e.clock made) = true) (read : Int) :
    ∃ text, ((e.encode key made d).run.run respond s).1 = .ok text ∧
      e.decode key read text =
        if e.maxLength ≠ 0 ∧ e.maxLength < text.utf8ByteSize then .error .maxLength
        else if e.clock made = 0 then .error .badTimestamp
        else if e.minAge ≠ 0 ∧ e.clock read - e.minAge < e.clock made then .error .newTimestamp
        else if e.maxAge ≠ 0 ∧ e.clock made < e.clock read - e.maxAge then .error .oldTimestamp
        else .ok d := by
  obtain ⟨⟨text, hrun, hwrites⟩, -⟩ := run_of_draws hr (draws_encode he key made d) hs
  refine ⟨text, hrun, ?_⟩
  rw [decode_of_writes hwrites ht, SessionData.deserialize_serialize hd]
  unfold checkAge
  split_ifs <;> rfl

/-- Half a minute later, with a cipher, a limit of a minute, and a bar in the key. -/
theorem decode_encode_after_half_a_minute :
    let e : Encoder :=
      { authenticate? := some (Sha256.authenticate [1, 2]), block? := some id, maxAge := 60 }
    let w : World := { now := 0, entropy := { octet := fun _ => 7 } }
    ∃ text, ((e.encode "a|b" 100 (SessionData.ofId "ab")).run.run World.respond w).1 = .ok text ∧
      e.decode "a|b" 130 text = .ok (SessionData.ofId "ab") := by
  intro e w
  have hd : (SessionData.ofId "ab").Representable := ⟨by decide, by decide⟩
  have hmade : Range.isInt64 (e.clock 100) = true := by decide
  obtain ⟨text, hrun, hread⟩ := decode_encode_exactly World.supplies (s := w) rfl (e := e) rfl
    "a|b" hd hmade 130
  refine ⟨text, hrun, ?_⟩
  rw [hread]
  simp [e]

end WebSession.Encoder
