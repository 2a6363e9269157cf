import WebSession.Json.Number
/-!
# WebSession.Json.Reader

**Reading JSON texts.**

Design points:

* The text is read as octets; only texts between quotes have to be UTF-8, since nothing else
  in the grammar goes beyond ASCII.
* `Json.read?` takes one value off the front and gives back the rest; `Json.ofText?` wants
  nothing behind the value, and follows at most `maxHeight` arrays and objects inside each other.
* Of two equal keys in an object the later one wins.
* An object that begins with `embeddedKey` stands for the value of a text inside the text. What
  is wrong in there is a matter of shape, since the text around it is JSON all the same.
* Loops are bounded by the length of the whole text: each round takes at least one octet.
-/

namespace WebSession.Json

/-! ### Blanks and words -/

/-- The octets that may stand between the parts of a text. -/
def isBlank (b : UInt8) : Bool := b == 0x20 || b == 0x0a || b == 0x0d || b == 0x09

/-- Drops blanks from the front. -/
def skipBlank (b : Bytes) : Bytes := b.dropWhile isBlank

/-- Takes a word off the front. -/
def word? (w : String) (b : Bytes) : Option Bytes := (Bytes.ofText w).isPrefixOf? b

/-! ### Texts -/

/-- The value of four hexadecimal digits. -/
def hex4? (b : Bytes) : Option (Nat × Bytes) :=
  match b with
  | b0 :: b1 :: b2 :: b3 :: rest => do
    let digit (b : UInt8) := Bytes.hexValue? (Char.ofNat b.toNat)
    pure (((← digit b0) * 16 + (← digit b1)) * 256 + (← digit b2) * 16 + (← digit b3), rest)
  | _ => none

/-- The character of an escape with a code, behind its `\u`. A character beyond the first plane
takes two such escapes. -/
def escapedCode? (b : Bytes) : Option (Nat × Bytes) := do
  let (high, rest) ← hex4? b
  if 0xdc00 ≤ high ∧ high < 0xe000 then none
  else if 0xd800 ≤ high ∧ high < 0xdc00 then
    match rest with
    | 0x5c :: 0x75 :: rest => do
      let (low, rest) ← hex4? rest
      if 0xdc00 ≤ low ∧ low < 0xe000 then
        some (0x10000 + (high - 0xd800) * 0x400 + (low - 0xdc00), rest)
      else none
    | _ => none
  else some (high, rest)

/-- The octet that a one-letter escape stands for. -/
def escapedOctet? (b : UInt8) : Option UInt8 :=
  match b with
  | 0x22 => some 0x22
  | 0x5c => some 0x5c
  | 0x2f => some 0x2f
  | 0x62 => some 0x08
  | 0x66 => some 0x0c
  | 0x6e => some 0x0a
  | 0x72 => some 0x0d
  | 0x74 => some 0x09
  | _ => none

/-- Reads octets up to the closing quote, behind those in `done` (the last one first). -/
def quotedFrom? : Nat → Bytes → Bytes → Option (Bytes × Bytes)
  | 0, _, _ => none
  | _ + 1, _, [] => none
  | _ + 1, done, 0x22 :: rest => some (done.reverse, rest)
  | bound + 1, done, 0x5c :: 0x75 :: rest =>
    match escapedCode? rest with
    | some (code, rest) =>
      quotedFrom? bound ((Bytes.ofText (String.singleton (Char.ofNat code))).reverse ++ done) rest
    | none => none
  | bound + 1, done, 0x5c :: e :: rest =>
    match escapedOctet? e with
    | some o => quotedFrom? bound (o :: done) rest
    | none => none
  | bound + 1, done, o :: rest => if o < 0x20 then none else quotedFrom? bound (o :: done) rest

/-- Reads the rest of a text behind its opening quote. -/
def quoted? (bound : Nat) (b : Bytes) : Option (String × Bytes) := do
  let (octets, rest) ← quotedFrom? bound [] b
  let s ← Bytes.text? octets
  pure (s, rest)

/-! ### Faults -/

/-- Why a text cannot be read. -/
inductive Fault where
  | malformed
  /-- A value has another shape than is expected where it stands. -/
  | shape
  deriving DecidableEq

/-- Takes a value off the front of the octets. -/
abbrev Reader (α : Type) := Bytes → Except Fault (α × Bytes)

/-- What is not there is malformed. -/
def orMalformed {α : Type} : Option α → Except Fault α
  | some a => .ok a
  | none => .error .malformed

/-! ### Scalars -/

/-- Reads a value that is neither array nor object. -/
def scalar? (bound : Nat) : Bytes → Option (Json × Bytes)
  | 0x6e :: rest => (word? "ull" rest).map (Json.null, ·)
  | 0x74 :: rest => (word? "rue" rest).map (Json.bool true, ·)
  | 0x66 :: rest => (word? "alse" rest).map (Json.bool false, ·)
  | 0x22 :: rest => (quoted? bound rest).map fun p => (.str p.1, p.2)
  | rest => Number.read? rest

/-- The fault of a value that has another shape than expected, behind blanks. A number, text or
word is read to its end first, so that a malformed one is told as such. -/
def otherShape (b : Bytes) : Fault :=
  match skipBlank b with
  | 0x5b :: _ => .shape
  | 0x7b :: _ => .shape
  | rest => if (scalar? (rest.length + 1) rest).isSome then .shape else .malformed

/-- Reads a value that has to be a text, behind blanks. -/
def text? (bound : Nat) (b : Bytes) : Except Fault (String × Bytes) :=
  match skipBlank b with
  | 0x22 :: rest => orMalformed (quoted? bound rest)
  | rest => .error (otherShape rest)

/-! ### Arrays and objects -/

/-- Reads the items of an array up to its closing bracket, behind those in `done` (the last one
first). -/
def items? (value : Reader Json) : Nat → List Json → Reader (List Json)
  | 0, _, _ => .error .malformed
  | bound + 1, done, b =>
    match value b with
    | .error fault => .error fault
    | .ok (j, rest) =>
      match skipBlank rest with
      | 0x2c :: rest => items? value bound (j :: done) rest
      | 0x5d :: rest => .ok ((j :: done).reverse, rest)
      | _ => .error .malformed

/-- Reads a key with the colon behind it. -/
def key? (bound : Nat) (b : Bytes) : Option (String × Bytes) :=
  match skipBlank b with
  | 0x22 :: rest => do
    let (key, rest) ← quoted? bound rest
    match skipBlank rest with
    | 0x3a :: rest => some (key, rest)
    | _ => none
  | _ => none

/-- Reads the fields of an object up to its closing brace, behind a key with its colon and
behind the fields in `done` (the last one first). -/
def fieldsFrom? (value : Reader Json) (texts : Nat) :
    Nat → List (String × Json) → String → Reader (List (String × Json))
  | 0, _, _, _ => .error .malformed
  | bound + 1, done, key, b =>
    match value b with
    | .error fault => .error fault
    | .ok (j, rest) =>
      match skipBlank rest with
      | 0x2c :: rest =>
        match key? texts rest with
        | some (next, rest) => fieldsFrom? value texts bound ((key, j) :: done) next rest
        | none => .error .malformed
      | 0x7d :: rest => .ok (((key, j) :: done).reverse, rest)
      | _ => .error .malformed

/-- Reads the fields of an object behind its opening brace. -/
def fields? (bound : Nat) (value : Reader Json) (b : Bytes) :
    Except Fault (List (String × Json) × Bytes) :=
  match skipBlank b with
  | 0x7d :: rest => .ok ([], rest)
  | rest => do
    let (key, rest) ← orMalformed (key? bound rest)
    fieldsFrom? value bound bound [] key rest

/-! ### Embedded texts -/

/-- An object whose first key is this one is no object: it stands for the value of the JSON text
that it holds as its only field. -/
def embeddedKey : String := "$serde_json::private::RawValue"

/-- Reads the value of an embedded text, behind the key with its colon, and the closing brace. -/
def embedded? (bound : Nat) (whole? : Bytes → Option Json) (b : Bytes) :
    Except Fault (Json × Bytes) := do
  let (s, rest) ← text? bound b
  match whole? (Bytes.ofText s), skipBlank rest with
  | none, _ => .error .shape
  | some j, 0x7d :: rest => .ok (j, rest)
  | some _, _ => .error .malformed

/-- Reads an object, or the value of an embedded text, behind the opening brace. -/
def object? (bound : Nat) (whole? : Bytes → Option Json) (value : Reader Json)
    (b : Bytes) : Except Fault (Json × Bytes) :=
  match key? bound b with
  | some (key, rest) =>
    if key = embeddedKey then embedded? bound whole? rest
    else (fieldsFrom? value bound bound [] key rest).map fun p => (.ofFields p.1, p.2)
  | none => (fields? bound value b).map fun p => (.ofFields p.1, p.2)

/-! ### Values -/

/-- Reads a value behind blanks. The reader of values one level further in is missing when no
further level is followed. -/
def valueWith? (bound : Nat) (whole? : Bytes → Option Json) (inner? : Option (Reader Json))
    (b : Bytes) : Except Fault (Json × Bytes) :=
  match skipBlank b with
  | 0x5b :: rest => do
    let inner ← orMalformed inner?
    match skipBlank rest with
    | 0x5d :: rest => .ok (.array [], rest)
    | rest => (items? inner bound [] rest).map fun p => (.array p.1, p.2)
  | 0x7b :: rest => do object? bound whole? (← orMalformed inner?) rest
  | rest => orMalformed (scalar? bound rest)

/-- Reads a value of at most the given height. Embedded texts are read by `whole?`. -/
def value? (bound : Nat) (whole? : Bytes → Option Json) : Nat → Reader Json
  | 0 => valueWith? bound whole? none
  | levels + 1 => valueWith? bound whole? (some (value? bound whole? levels))

/-- How many arrays and objects inside each other reading follows. An embedded text counts anew. -/
def maxHeight : Nat := 127

/-- A bound on the rounds of every loop over the octets. -/
def roundsFor (b : Bytes) : Nat := b.length + 1

/-- Reads a text that is one value and nothing else. Texts embedded inside each other are
followed so many times. -/
def wholeWithin? : Nat → Bytes → Option Json
  | 0, _ => none
  | embeddings + 1, b =>
    match value? (roundsFor b) (wholeWithin? embeddings) maxHeight b with
    | .ok (j, rest) => if (skipBlank rest).isEmpty then some j else none
    | .error _ => none

/-- Reads a text that is one value and nothing else. An embedded text is shorter than the one
around it, so their number is no limit. -/
def ofText? (b : Bytes) : Option Json := wholeWithin? (roundsFor b) b

/-- Reads one value of at most the given height off the front. -/
def read? (levels : Nat) (b : Bytes) : Except Fault (Json × Bytes) :=
  value? (roundsFor b) (wholeWithin? (roundsFor b)) levels b

/-- Reads an object off the front that is taken as it stands: its own first key marks no
embedded text. -/
def readFields? (b : Bytes) : Except Fault (Dict Json × Bytes) :=
  match skipBlank b with
  | 0x7b :: rest =>
    let value := value? (roundsFor b) (wholeWithin? (roundsFor b)) (maxHeight - 1)
    (fields? (roundsFor b) value rest).map fun p => (Dict.ofList p.1, p.2)
  | rest => .error (otherShape rest)

/-! ### Skipping -/

/-- Skips the rest of a text behind its opening quote. Escaped codes may be any. -/
def skipQuoted? : Nat → Bytes → Option Bytes
  | 0, _ => none
  | _ + 1, [] => none
  | _ + 1, 0x22 :: rest => some rest
  | bound + 1, 0x5c :: 0x75 :: rest =>
    match hex4? rest with
    | some (_, rest) => skipQuoted? bound rest
    | none => none
  | bound + 1, 0x5c :: e :: rest =>
    if (escapedOctet? e).isSome then skipQuoted? bound rest else none
  | bound + 1, o :: rest => if o < 0x20 then none else skipQuoted? bound rest

/-- Skips a value that is neither array nor object, behind blanks. -/
def skipScalar? (bound : Nat) : Bytes → Option Bytes
  | 0x6e :: rest => word? "ull" rest
  | 0x74 :: rest => word? "rue" rest
  | 0x66 :: rest => word? "alse" rest
  | 0x22 :: rest => skipQuoted? bound rest
  | rest => (Number.literal? rest).map Prod.snd

/-- Skips a key with the colon behind it. -/
def skipKey? (bound : Nat) (b : Bytes) : Option Bytes :=
  match skipBlank b with
  | 0x22 :: rest => do
    let rest ← skipQuoted? bound rest
    match skipBlank rest with
    | 0x3a :: rest => some rest
    | _ => none
  | _ => none

/-- Where skipping stands. -/
inductive Skipping where
  | value
  | behind

/-- Skips to the end of a value, inside arrays (`false`) and objects (`true`), the innermost
first. Any height is followed, and numbers and texts are not evaluated. -/
def skipFrom? (texts : Nat) : Nat → Skipping → List Bool → Bytes → Option Bytes
  | 0, _, _, _ => none
  | bound + 1, .value, outer, b =>
    match skipBlank b with
    | 0x5b :: rest =>
      match skipBlank rest with
      | 0x5d :: rest => skipFrom? texts bound .behind outer rest
      | rest => skipFrom? texts bound .value (false :: outer) rest
    | 0x7b :: rest =>
      match skipBlank rest with
      | 0x7d :: rest => skipFrom? texts bound .behind outer rest
      | rest =>
        match skipKey? texts rest with
        | some rest => skipFrom? texts bound .value (true :: outer) rest
        | none => none
    | rest =>
      match skipScalar? texts rest with
      | some rest => skipFrom? texts bound .behind outer rest
      | none => none
  | _ + 1, .behind, [], b => some b
  | bound + 1, .behind, isObject :: outer, b =>
    match isObject, skipBlank b with
    | false, 0x2c :: rest => skipFrom? texts bound .value (false :: outer) rest
    | false, 0x5d :: rest => skipFrom? texts bound .behind outer rest
    | true, 0x2c :: rest =>
      match skipKey? texts rest with
      | some rest => skipFrom? texts bound .value (true :: outer) rest
      | none => none
    | true, 0x7d :: rest => skipFrom? texts bound .behind outer rest
    | _, _ => none

/-- Skips one value. -/
def skip? (bound : Nat) (b : Bytes) : Option Bytes := skipFrom? bound (2 * bound) .value [] b

end WebSession.Json
