import WebSession.Numeral
/-!
# WebSession.Startup.Duration

**Spans of time** as they are written for people: `1h 30m`, `1.5 days`.

Design points:

* A text is a sum of spans, each a number with a unit. Blanks may stand anywhere except inside
  the name of a unit, and need not stand at all.
* A number may have a fraction that comes out even: in whole seconds of units longer than a
  minute, in whole nanoseconds of shorter ones.
* Every step of the calculation has to fit sixty-four bits.
* A month and a year are the average ones: 30.44 and 365.25 days.
* Reading is a machine that takes one character at a time.
-/

namespace WebSession.Startup

/-- A span of time. -/
structure Duration where
  seconds : Nat
  /-- The nanoseconds beside them. -/
  nanoseconds : Nat
  deriving DecidableEq

namespace Duration

/-- No time. -/
def zero : Duration := ⟨0, 0⟩

/-- A number, if it fits sixty-four bits. -/
def fits? (n : Nat) : Option Nat := if Range.isUInt64 n then some n else none

/-- The nanoseconds in a second. -/
def second : Nat := 1000000000

/-- Adds seconds and nanoseconds. -/
def add? (d : Duration) (seconds nanoseconds : Nat) : Option Duration := do
  let nanoseconds ← fits? (d.nanoseconds + nanoseconds)
  let seconds ← fits? (d.seconds + seconds + nanoseconds / second)
  pure ⟨seconds, nanoseconds % second⟩

/-! ### Units -/

/-- A unit of time. -/
inductive TimeUnit where
  /-- A nanosecond, which has no fractions. -/
  | least
  | short (nanoseconds : Nat)
  /-- So many seconds, the fraction of which is counted in nanoseconds. -/
  | medium (seconds : Nat)
  /-- So many seconds, the fraction of which is counted in seconds. -/
  | long (seconds : Nat)

/-- The unit with a name. -/
def TimeUnit.ofName? (name : String) : Option TimeUnit :=
  if ["nanos", "nsec", "ns"].contains name then some .least
  else if ["usec", "us", "µs"].contains name then some (.short 1000)
  else if ["millis", "msec", "ms"].contains name then some (.short 1000000)
  else if ["seconds", "second", "secs", "sec", "s"].contains name then some (.medium 1)
  else if ["minutes", "minute", "min", "mins", "m"].contains name then some (.medium 60)
  else if ["hours", "hour", "hrs", "hr", "h"].contains name then some (.long 3600)
  else if ["days", "day", "d"].contains name then some (.long 86400)
  else if ["weeks", "week", "wk", "wks", "w"].contains name then some (.long 604800)
  else if ["months", "month", "M"].contains name then some (.long 2630016)
  else if ["years", "year", "yr", "yrs", "y"].contains name then some (.long 31557600)
  else none

/-- Adds so many units. -/
def addWhole? (d : Duration) (n : Nat) : TimeUnit → Option Duration
  | .least => d.add? 0 n
  | .short nanoseconds => do d.add? 0 (← fits? (n * nanoseconds))
  | .medium seconds => do d.add? (← fits? (n * seconds)) 0
  | .long seconds => do d.add? (← fits? (n * seconds)) 0

/-- A quotient that leaves no remainder, of a number that fits sixty-four bits. -/
def exactly? (n denominator : Nat) : Option Nat :=
  (fits? n).bind fun n => if n % denominator = 0 then some (n / denominator) else none

/-- Adds a fraction of a unit, which has to come out even: in whole nanoseconds, or in whole
seconds for the long units. -/
def addFraction? (d : Duration) (numerator denominator : Nat) : TimeUnit → Option Duration
  | .least => none
  | .short nanoseconds => do d.add? 0 (← exactly? (numerator * nanoseconds) denominator)
  | .medium seconds => do d.add? 0 (← exactly? (numerator * (seconds * second)) denominator)
  | .long seconds => do d.add? (← exactly? (numerator * seconds) denominator) 0

/-! ### Reading -/

/-- A number in front of a unit. -/
structure Amount where
  whole : Nat
  /-- The digits behind the point as one number. -/
  numerator : Nat := 0
  /-- The power of ten that divides them. -/
  denominator : Nat := 1

/-- Where reading stands, behind spans of so much time. -/
inductive Reading where
  | start
  | between (total : Duration)
  /-- In the whole part of a number. -/
  | whole (total : Duration) (n : Nat)
  | fraction (total : Duration) (amount : Amount)
  /-- In the name of a unit, whose last character comes first. -/
  | unit (total : Duration) (amount : Amount) (name : List Char)

/-- Whether a character is a blank. -/
def isBlank (c : Char) : Bool :=
  (0x09 ≤ c.toNat && c.toNat ≤ 0x0d) || (0x2000 ≤ c.toNat && c.toNat ≤ 0x200a)
    || [0x20, 0x85, 0xa0, 0x1680, 0x2028, 0x2029, 0x202f, 0x205f, 0x3000].contains c.toNat

/-- Whether a character may stand in the name of a unit. -/
def isLetter (c : Char) : Bool :=
  ('a' ≤ c && c ≤ 'z') || ('A' ≤ c && c ≤ 'Z') || c = 'µ'

/-- Adds an amount of the unit with a name, whose last character comes first. -/
def addAmount? (total : Duration) (amount : Amount) (name : List Char) : Option Duration := do
  let unit ← TimeUnit.ofName? (String.ofList name.reverse)
  let total ← total.addWhole? amount.whole unit
  if amount.denominator = 1 then pure total
  else total.addFraction? amount.numerator amount.denominator unit

namespace Reading

/-- Takes a character. -/
def step : Reading → Char → Option Reading
  | .start, c =>
    if Numeral.isDigit c then some (.whole zero (Numeral.digitValue c))
    else if isBlank c then some .start
    else none
  | .between total, c =>
    if Numeral.isDigit c then some (.whole total (Numeral.digitValue c))
    else if isBlank c then some (.between total)
    else none
  | .whole total n, c =>
    if Numeral.isDigit c then (fits? (10 * n + Numeral.digitValue c)).map (.whole total)
    else if isBlank c then some (.whole total n)
    else if isLetter c then some (.unit total { whole := n } [c])
    else if c = '.' then some (.fraction total { whole := n })
    else none
  | .fraction total amount, c =>
    if Numeral.isDigit c then do
      let denominator ← fits? (10 * amount.denominator)
      let numerator ← fits? (10 * amount.numerator + Numeral.digitValue c)
      pure (.fraction total ⟨amount.whole, numerator, denominator⟩)
    else if isBlank c then some (.fraction total amount)
    else if isLetter c && amount.denominator ≠ 1 then some (.unit total amount [c])
    else none
  | .unit total amount name, c =>
    if Numeral.isDigit c then
      (addAmount? total amount name).map fun d => .whole d (Numeral.digitValue c)
    else if isBlank c then (addAmount? total amount name).map .between
    else if isLetter c then some (.unit total amount (c :: name))
    else none

/-- The time of all spans, if the text may end here. -/
def total? : Reading → Option Duration
  | .between total => some total
  | .unit total amount name => addAmount? total amount name
  | .start | .whole .. | .fraction .. => none

end Reading

/-- Reads a span of time. Only a lone zero needs no unit. -/
def ofText? (s : String) : Option Duration :=
  if s = "0" then some zero
  else (s.toList.foldlM Reading.step .start).bind Reading.total?

end Duration

end WebSession.Startup
