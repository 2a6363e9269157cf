import WebSession.Proofs.Cookie
import WebSession.Proofs.Encoder
import WebSession.SessionId

/-!
# WebSession.Proofs.SessionId

**A fresh id is valid** (`World.isValid_freshId`), and making one calls for random octets alone
(`SessionId.quiet_generate`).
-/

namespace WebSession

open Plan

/-- The id that is made of the next random octets. -/
def World.freshId (w : World) : String :=
  Bytes.hex (List.ofFn fun i : Fin SessionId.octets =>
    w.entropy.octet (w.entropy.position + i.val))

theorem SessionId.generate_eq : SessionId.generate SessionId.octets =
    (Encoder.draw SessionId.octets >>= fun octets => pure (Bytes.hex octets.toList)) := rfl

theorem SessionId.quiet_generate :
    (SessionId.generate SessionId.octets).run.Quiet fun _ => True := by
  rw [SessionId.generate_eq, ExceptT.run_bind]
  refine (Encoder.draws_draw _).quiet.bind fun drawn _ => ?_
  cases drawn <;> exact .done trivial

theorem World.run_generate {w : World} (hw : w.entropy.broken = false) :
    (SessionId.generate SessionId.octets).run.run World.respond w =
      (.ok w.freshId,
        { w with
          entropy := { w.entropy with position := w.entropy.position + SessionId.octets } }) := by
  rw [SessionId.generate_eq, ExceptT.run_bind, Plan.run_bind, Encoder.run_draw hw]
  simp only [World.freshId, ← Vector.toList_ofFn]
  rfl

/-- The characters of octets in hexadecimal are those of session ids. -/
theorem Bytes.isDigit_of_mem_hex {b : Bytes} {c : Char} (h : c ∈ (hex b).toList) :
    SessionId.isDigit c = true := by
  have all : ∀ n ∈ List.range 16, SessionId.isDigit (hexDigit n) = true := by decide
  rw [hex, String.toList_ofList, List.mem_flatMap] at h
  obtain ⟨x, -, hc⟩ := h
  have hx : x.toNat < 256 := x.toNat_lt
  rw [hexPair, List.mem_cons, List.mem_singleton] at hc
  rcases hc with rfl | rfl
  · exact all _ (List.mem_range.mpr (by omega))
  · exact all _ (List.mem_range.mpr (by omega))

theorem Bytes.utf8ByteSize_hex (b : Bytes) : (hex b).utf8ByteSize = 2 * b.length := by
  have all : ∀ n ∈ List.range 16, (String.utf8EncodeChar (hexDigit n)).length = 1 := by decide
  rw [← length_ofText, ofText_eq_flatMap, hex, String.toList_ofList]
  induction b with
  | nil => rfl
  | cons x rest ih =>
      have hx : x.toNat < 256 := x.toNat_lt
      have hhigh := all (x.toNat / 16) (List.mem_range.mpr (by omega))
      have hlow := all (x.toNat % 16) (List.mem_range.mpr (by omega))
      rw [List.flatMap_cons, List.flatMap_append, List.length_append, ih, List.length_cons]
      simp only [hexPair, List.flatMap_cons, List.flatMap_nil, List.length_append, hhigh, hlow]
      simp only [List.length_nil]
      omega

theorem World.isValid_freshId (w : World) : SessionId.isValid w.freshId = true := by
  have hsize : w.freshId.utf8ByteSize = 32 := by
    rw [freshId, Bytes.utf8ByteSize_hex, List.length_ofFn]
    rfl
  have hdigits : w.freshId.toList.all SessionId.isDigit = true :=
    List.all_eq_true.mpr fun _ => Bytes.isDigit_of_mem_hex
  rw [SessionId.isValid, hsize, hdigits]
  rfl

end WebSession
