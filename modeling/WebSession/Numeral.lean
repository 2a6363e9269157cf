import WebSession.Range
/-!
# WebSession.Numeral

**Decimal numerals** of whole numbers.

A numeral is written without superfluous zeros and without a plus sign. Reading is laxer: it
takes leading zeros and either sign, but nothing else, no blanks and no other digits.
-/

namespace WebSession.Numeral

/-- A decimal digit. -/
def isDigit (c : Char) : Bool := '0' ≤ c && c ≤ '9'

/-- The number that a digit stands for. -/
def digitValue (c : Char) : Nat := c.toNat - 48

/-- The number that digits stand for. -/
def ofDigits (cs : List Char) : Nat := cs.foldl (fun n c => 10 * n + digitValue c) 0

/-- The numeral of a number. -/
def text (n : Int) : String :=
  if n < 0 then "-" ++ Nat.repr n.natAbs else Nat.repr n.natAbs

/-- The number of a numeral with an optional sign. -/
def int? (s : String) : Option Int :=
  let (negative, digits) := match s.toList with
    | '-' :: cs => (true, cs)
    | '+' :: cs => (false, cs)
    | cs => (false, cs)
  if digits.isEmpty || !digits.all isDigit then none
  else some (if negative then -(ofDigits digits : Int) else ofDigits digits)

/-- The number of a numeral, if it fits sixty-four bits with a sign. -/
def int64? (s : String) : Option Int :=
  (int? s).filter Range.isInt64

end WebSession.Numeral
