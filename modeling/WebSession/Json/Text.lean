import WebSession.Binary64.Shortest
import WebSession.Bytes
import WebSession.Json
import WebSession.Numeral
/-!
# WebSession.Json.Text

**Writing JSON texts**, without blanks.

Design points:

* Only the quote, the backslash and control characters are escaped; all other characters stand
  for themselves.
* A floating-point number is written with the fewest digits that read back, and always so that
  it is not read as an integer: with a point, or with an exponent.
* The fields of an object are written in the order of their keys.
-/

namespace WebSession.Json

/-! ### Numbers -/

/-- The greatest number of digits in front of the point. -/
def wholeDigits : Int := 16

/-- The greatest number of zeros between the point and the first other digit. -/
def leadingZeros : Int := 4

/-- So many zeros. -/
def zeros (n : Int) : List Char := List.replicate n.toNat '0'

/-- Digits with a point behind the first `n` of them. -/
def pointed (n : Nat) (digits : List Char) : List Char := digits.take n ++ '.' :: digits.drop n

/-- The text of a decimal. A number with too many digits before the point, or too many zeros
behind it, is written with one digit before the point and an exponent. -/
def decimalText (d : Binary64.Decimal) : List Char :=
  let digits := (Nat.repr d.digits).toList
  let point : Int := digits.length + d.exponent
  if 0 ≤ d.exponent ∧ point ≤ wholeDigits then digits ++ zeros d.exponent ++ ['.', '0']
  else if 0 < point ∧ point ≤ wholeDigits then pointed point.toNat digits
  else if point ≤ 0 ∧ -leadingZeros ≤ point then '0' :: '.' :: zeros (-point) ++ digits
  else
    let exponent := 'e' :: (if point - 1 < 0 then ['-'] else []) ++
      (Nat.repr (point - 1).natAbs).toList
    (if digits.length = 1 then digits else pointed 1 digits) ++ exponent

/-- The text of a finite floating-point number. -/
def floatText (x : Binary64) : String :=
  String.ofList ((if x.isNegative then ['-'] else []) ++ decimalText x.shortest)

/-! ### Texts -/

/-- The characters that stand for a character between quotes. -/
def escapedChar (c : Char) : List Char :=
  match c with
  | '"' => ['\\', '"']
  | '\\' => ['\\', '\\']
  | '\n' => ['\\', 'n']
  | '\r' => ['\\', 'r']
  | '\t' => ['\\', 't']
  | '\x08' => ['\\', 'b']
  | '\x0c' => ['\\', 'f']
  | c =>
    if c < ' ' then
      ['\\', 'u', '0', '0', Bytes.hexDigit (c.toNat / 16), Bytes.hexDigit (c.toNat % 16)]
    else [c]

/-- A text between quotes. -/
def quotedText (s : String) : String :=
  "\"" ++ String.ofList (s.toList.flatMap escapedChar) ++ "\""

/-! ### Values -/

/-- The text of a value. -/
def text : Json → String
  | .null => "null"
  | .bool b => if b then "true" else "false"
  | .int n => Numeral.text n
  | .float x _ => floatText x
  | .str s => quotedText s
  | .array items => "[" ++ ",".intercalate (items.map text) ++ "]"
  | .object fields => "\x7b" ++ ",".intercalate (fieldTexts fields) ++ "\x7d"
where
  fieldTexts {lo : Option String} : Fields Json lo → List String
    | .nil => []
    | .cons key _ j rest => (quotedText key ++ ":" ++ text j) :: fieldTexts rest

end WebSession.Json
