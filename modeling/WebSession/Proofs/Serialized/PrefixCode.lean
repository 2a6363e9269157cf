import WebSession.Proofs.Serialized

/-!
# WebSession.Proofs.Serialized.PrefixCode

**The serialized forms of sessions are a prefix code** (`SessionData.prefix_code`): the beginning of
what is read tells which session it is and where it ends, in whatever order its fields stand.

What is written is not always read. The one limit is the height, and it is exact: a session of the
greatest height is read back, and one that is a level higher never is (`nested_up_to_maxHeight`).
-/

namespace WebSession.SessionData

open MessagePack

variable {d e : SessionData} {b b' t t' : Bytes}

/-- All forms of a session are equally long. -/
theorem WrittenAs.length_eq (hb : d.WrittenAs b) (hb' : d.WrittenAs b') : b.length = b'.length := by
  obtain ⟨fields, hperm, rfl⟩ := hb
  obtain ⟨fields', hperm', rfl⟩ := hb'
  have hsame : (fields.flatMap Value.writeField).Perm (fields'.flatMap Value.writeField) :=
    (hperm.trans hperm'.symm).flatMap_right _
  rw [List.length_append, List.length_append, hsame.length_eq]

/-- **No form of a session goes on to be a form of another.** -/
theorem WrittenAs.eq_of_append_eq (hb : d.WrittenAs b) (hb' : e.WrittenAs b')
    (hd : d.Representable) (he : e.Representable) (h : b ++ t = b' ++ t') : d = e ∧ b = b' := by
  have hread := deserialize_of_writtenAs hb hd t
  rw [h, deserialize_of_writtenAs hb' he t'] at hread
  cases hread
  exact ⟨rfl, (List.append_inj h (hb.length_eq hb')).1⟩

/-- **A prefix code with a limit on the height.** A session whose lengths the format can tell has a
serialized form, in which its fields stand in the order of their keys. That form, and every other one
that has the fields in some order,

* is read as the session whatever follows it, and is no beginning of a form of another session, if
  the session is no higher than reading follows;
* is not read at all if it is higher. -/
theorem prefix_code (hbreadth : d.breadth < lengthBound) :
    d.WrittenAs d.serialize ∧ ∀ b, d.WrittenAs b →
      (d.height ≤ Value.maxHeight →
        (∀ t, deserialize (b ++ t) = .ok d) ∧
          ∀ e b' t t', e.WrittenAs b' → e.height ≤ Value.maxHeight → e.breadth < lengthBound →
            b ++ t = b' ++ t' → d = e ∧ b = b') ∧
      (Value.maxHeight < d.height → ∀ t, deserialize (b ++ t) = .error .decoding) := by
  refine ⟨d.writtenAs_serialize, fun b hb => ⟨fun hheight => ?_, fun hheight t => ?_⟩⟩
  · have hd : d.Representable := ⟨hheight, hbreadth⟩
    refine ⟨deserialize_of_writtenAs hb hd, fun e b' t t' hb' hheight' hbreadth' h => ?_⟩
    exact hb.eq_of_append_eq hb' hd ⟨hheight', hbreadth'⟩ h
  · rw [deserialize, read?_of_too_high hb hheight hbreadth]

/-- So many lists, each around the next. -/
def nested : Nat → Value
  | 0 => .nil
  | n + 1 => .list [nested n]

theorem height_nested (n : Nat) : (nested n).height = n := by
  induction n with
  | zero => rfl
  | succ n ih => simp [nested, Value.height, Value.heightOfItems, ih]

theorem breadth_nested (n : Nat) : (nested n).breadth ≤ 1 := by
  induction n with
  | zero => exact Nat.zero_le 1
  | succ n ih => simp [nested, Value.breadth, Value.breadthOfItems, ih]

/-- The session that has nested lists under one key. -/
def holding (n : Nat) : SessionData := empty.insert "x" (nested n)

theorem height_holding (n : Nat) : (holding n).height = n + 1 := by
  have hfields : Value.heightOfFields (holding n).values = (nested n).height := Nat.max_zero _
  rw [height, hfields, height_nested]

theorem breadth_holding (n : Nat) : (holding n).breadth < lengthBound := by
  have hfield : (holding n).values.toList = [("x", nested n)] := Fields.toList_cons
  refine Value.breadth_map_lt_iff.mpr ⟨?_, fun f hf => ?_⟩
  · rw [Fields.length, hfield]
    exact (by decide : 1 < lengthBound)
  · rw [hfield, List.mem_singleton] at hf
    subst hf
    have hkey : "x".utf8ByteSize < lengthBound := by decide
    exact ⟨hkey, Nat.lt_of_le_of_lt (breadth_nested n) (by decide)⟩

/-- The session itself is the first of the levels, so there is room for 1022 nested lists. -/
theorem nested_up_to_maxHeight :
    deserialize ((holding 1022).serialize ++ [0xff]) = .ok (holding 1022) ∧
      deserialize ((holding 1023).serialize ++ [0xff]) = .error .decoding := by
  have hread := prefix_code (breadth_holding 1022)
  have hrefused := prefix_code (breadth_holding 1023)
  have hheight : (holding 1022).height ≤ Value.maxHeight := by
    rw [height_holding]
    decide
  have hheight' : Value.maxHeight < (holding 1023).height := by
    rw [height_holding]
    decide
  exact ⟨((hread.2 _ hread.1).1 hheight).1 [0xff], (hrefused.2 _ hrefused.1).2 hheight' [0xff]⟩

end WebSession.SessionData
