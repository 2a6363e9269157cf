/-!
# WebSession.Range

**The whole numbers that fit a fixed width.**

A width is named for the number of its bits. Numbers are compared with literals, so that a
statement about a range is one of plain arithmetic.
-/

namespace WebSession.Range

/-- The greatest number of sixty-four bits with a sign. -/
def maxInt64 : Int := 0x7fffffffffffffff

/-- The least number of sixty-four bits with a sign. -/
def minInt64 : Int := -0x8000000000000000

/-- Whether a number fits sixty-four bits with a sign. -/
def isInt64 (n : Int) : Bool := minInt64 ≤ n && n ≤ maxInt64

theorem isInt64_iff {n : Int} :
    isInt64 n = true ↔ -0x8000000000000000 ≤ n ∧ n < 0x8000000000000000 := by
  simp only [isInt64, Bool.and_eq_true, decide_eq_true_eq]
  simp only [minInt64, maxInt64]
  omega

/-- Whether a number fits sixty-four bits without a sign. -/
def isUInt64 (n : Nat) : Bool := n < 0x10000000000000000

/-- Whether a number fits sixteen bits without a sign. -/
def isUInt16 (n : Nat) : Bool := n < 0x10000

/-- A number in sixty-four bits, if it fits them. -/
def int64? (n : Int) : Option Int64 := if isInt64 n then some (Int64.ofInt n) else none

end WebSession.Range
