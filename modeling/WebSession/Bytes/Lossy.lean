import WebSession.Bytes
/-!
# WebSession.Bytes.Lossy

**Texts of octets that need not be well formed.**

Design points:

* Well-formed UTF-8 is read as it is. Of any other octets the longest beginning that could
  still have become a character is replaced by one replacement character.
* The second octet of a sequence has a narrower range than the following ones. This keeps out
  overlong forms, surrogates, and numbers beyond the last character.
-/

namespace WebSession.Bytes

/-- How many octets continue a sequence with this first octet, and the range of the second
octet. -/
def continuation? (first : UInt8) : Option (Nat × UInt8 × UInt8) :=
  if first < 0x80 then some (0, 0x80, 0xbf)
  else if first < 0xc2 then none
  else if first < 0xe0 then some (1, 0x80, 0xbf)
  else if first = 0xe0 then some (2, 0xa0, 0xbf)
  else if first = 0xed then some (2, 0x80, 0x9f)
  else if first < 0xf0 then some (2, 0x80, 0xbf)
  else if first = 0xf0 then some (3, 0x90, 0xbf)
  else if first < 0xf4 then some (3, 0x80, 0xbf)
  else if first = 0xf4 then some (3, 0x80, 0x8f)
  else none

/-- How many of the octets continue a sequence that lacks `count`, the next one between `low`
and `high`. -/
def continued : Nat → UInt8 → UInt8 → Bytes → Nat
  | count + 1, low, high, b :: rest =>
    if low ≤ b ∧ b ≤ high then continued count 0x80 0xbf rest + 1 else 0
  | _, _, _, _ => 0

/-- The character that stands for unreadable octets. -/
def replacement : Char := '\ufffd'

/-- The characters of octets. -/
def lossyChars : Bytes → List Char
  | [] => []
  | first :: rest =>
    match continuation? first with
    | none => replacement :: lossyChars rest
    | some (count, low, high) =>
      let n := continued count low high rest
      let read := if n = count then (text? (first :: rest.take n)).map String.toList else none
      read.getD [replacement] ++ lossyChars (rest.drop n)
termination_by b => b.length
decreasing_by all_goals simp only [List.length_cons, List.length_drop]; omega

/-- The text of octets, with replacement characters where they are not well formed. -/
def lossyText (b : Bytes) : String := String.ofList (lossyChars b)

end WebSession.Bytes
