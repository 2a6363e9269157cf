import WebSession.Bytes
/-!
# WebSession.MessagePack

**The heads of MessagePack items**: the marker octet of an item together with the number or
length that belongs to it.

Design points:

* What follows a head (the octets of a text, the items of a list) is left to the reader of
  the whole, so heads need no recursion.
* `Head.write` chooses the shortest form; `Head.read?` accepts every form, and reads back
  what was written (`Head.read?_write`), whatever follows it.
* Extension items are no heads: nothing in a session is written as one.
-/

namespace WebSession.MessagePack

/-- The head of an item. -/
inductive Head where
  /-- No value. -/
  | nil
  /-- A truth value. -/
  | bool (b : Bool)
  /-- A number from an unsigned form. -/
  | unsigned (n : Nat)
  /-- A number from a signed form. -/
  | signed (n : Int)
  /-- The thirty-two bits of a floating-point number. -/
  | float32 (bits : Nat)
  /-- The sixty-four bits of a floating-point number. -/
  | float64 (bits : Nat)
  /-- A text of so many octets. -/
  | str (length : Nat)
  /-- So many octets. -/
  | bin (length : Nat)
  /-- A list of so many items. -/
  | array (length : Nat)
  /-- A map of so many pairs of items. -/
  | map (length : Nat)
  deriving DecidableEq

/-- The first `n` octets and the rest, if there are so many. -/
def split? (n : Nat) (b : Bytes) : Option (Bytes × Bytes) :=
  let parts := b.splitAt n
  if parts.1.length = n then some parts else none

/-- What was put in front is split off again. -/
@[simp] theorem split?_append (a t : Bytes) : split? a.length (a ++ t) = some (a, t) := by
  simp [split?, List.splitAt_eq]

/-- The two's complement of a signed number in so many octets. -/
def signedOctets (width : Nat) (n : Int) : Bytes :=
  Bytes.bigEndian width (n.emod (Bytes.count width)).toNat

/-- The signed number whose two's complement has the given octets. -/
def signedOf (b : Bytes) : Int := Int.bmod b.toNat (Bytes.count b.length)

namespace Head

/-! ### Writing -/

/-- The shortest form of a head. -/
def write : Head → Bytes
  | .nil => [0xc0]
  | .bool b => [if b then 0xc3 else 0xc2]
  | .unsigned n =>
    if n < 0x80 then [UInt8.ofNat n]
    else if n < 0x100 then 0xcc :: Bytes.bigEndian 1 n
    else if n < 0x10000 then 0xcd :: Bytes.bigEndian 2 n
    else if n < 0x100000000 then 0xce :: Bytes.bigEndian 4 n
    else 0xcf :: Bytes.bigEndian 8 n
  | .signed n =>
    if -0x20 ≤ n then signedOctets 1 n
    else if -0x80 ≤ n then 0xd0 :: signedOctets 1 n
    else if -0x8000 ≤ n then 0xd1 :: signedOctets 2 n
    else if -0x80000000 ≤ n then 0xd2 :: signedOctets 4 n
    else 0xd3 :: signedOctets 8 n
  | .float32 bits => 0xca :: Bytes.bigEndian 4 bits
  | .float64 bits => 0xcb :: Bytes.bigEndian 8 bits
  | .str n =>
    if n < 32 then [UInt8.ofNat (0xa0 + n)]
    else if n < 0x100 then 0xd9 :: Bytes.bigEndian 1 n
    else if n < 0x10000 then 0xda :: Bytes.bigEndian 2 n
    else 0xdb :: Bytes.bigEndian 4 n
  | .bin n =>
    if n < 0x100 then 0xc4 :: Bytes.bigEndian 1 n
    else if n < 0x10000 then 0xc5 :: Bytes.bigEndian 2 n
    else 0xc6 :: Bytes.bigEndian 4 n
  | .array n =>
    if n < 16 then [UInt8.ofNat (0x90 + n)]
    else if n < 0x10000 then 0xdc :: Bytes.bigEndian 2 n
    else 0xdd :: Bytes.bigEndian 4 n
  | .map n =>
    if n < 16 then [UInt8.ofNat (0x80 + n)]
    else if n < 0x10000 then 0xde :: Bytes.bigEndian 2 n
    else 0xdf :: Bytes.bigEndian 4 n

/-- The head of a whole number; only negative numbers take a signed form. -/
def ofInt (n : Int) : Head := if n < 0 then .signed n else .unsigned n.toNat

/-! ### Reading -/

/-- The head that a number of so many octets completes. -/
def sized (width : Nat) (make : Bytes → Head) (rest : Bytes) : Option (Head × Bytes) :=
  (split? width rest).map fun parts => (make parts.1, parts.2)

/-- Reads a head of any form. -/
def read? : Bytes → Option (Head × Bytes)
  | [] => none
  | marker :: rest =>
    let m := marker.toNat
    if m < 0x80 then some (.unsigned m, rest)
    else if m < 0x90 then some (.map (m - 0x80), rest)
    else if m < 0xa0 then some (.array (m - 0x90), rest)
    else if m < 0xc0 then some (.str (m - 0xa0), rest)
    else if 0xe0 ≤ m then some (.signed (m - 0x100), rest)
    else match m with
      | 0xc0 => some (.nil, rest)
      | 0xc2 => some (.bool false, rest)
      | 0xc3 => some (.bool true, rest)
      | 0xc4 => sized 1 (.bin ·.toNat) rest
      | 0xc5 => sized 2 (.bin ·.toNat) rest
      | 0xc6 => sized 4 (.bin ·.toNat) rest
      | 0xca => sized 4 (.float32 ·.toNat) rest
      | 0xcb => sized 8 (.float64 ·.toNat) rest
      | 0xcc => sized 1 (.unsigned ·.toNat) rest
      | 0xcd => sized 2 (.unsigned ·.toNat) rest
      | 0xce => sized 4 (.unsigned ·.toNat) rest
      | 0xcf => sized 8 (.unsigned ·.toNat) rest
      | 0xd0 => sized 1 (.signed <| signedOf ·) rest
      | 0xd1 => sized 2 (.signed <| signedOf ·) rest
      | 0xd2 => sized 4 (.signed <| signedOf ·) rest
      | 0xd3 => sized 8 (.signed <| signedOf ·) rest
      | 0xd9 => sized 1 (.str ·.toNat) rest
      | 0xda => sized 2 (.str ·.toNat) rest
      | 0xdb => sized 4 (.str ·.toNat) rest
      | 0xdc => sized 2 (.array ·.toNat) rest
      | 0xdd => sized 4 (.array ·.toNat) rest
      | 0xde => sized 2 (.map ·.toNat) rest
      | 0xdf => sized 4 (.map ·.toNat) rest
      | _ => none

/-- The number of a head of either whole-number form. -/
def int? : Head → Option Int
  | .unsigned n => some n
  | .signed n => some n
  | _ => none

/-- The length of a text, which may be written as plain octets too. -/
def textLength? : Head → Option Nat
  | .str n => some n
  | .bin n => some n
  | _ => none

end Head

/-! ### Texts and repetitions -/

/-- The octets of a text behind its head. -/
def writeText (s : String) : Bytes :=
  let octets := Bytes.ofText s
  (Head.str octets.length).write ++ octets

/-- Reads the text that a head announces; its octets must be UTF-8. -/
def textAfter? (head : Head) (rest : Bytes) : Option (String × Bytes) := do
  let n ← head.textLength?
  let (octets, rest) ← split? n rest
  let s ← Bytes.text? octets
  pure (s, rest)

/-- Reads a text with its head. -/
def readText? (b : Bytes) : Option (String × Bytes) := do
  let (head, rest) ← Head.read? b
  textAfter? head rest

/-- Reads `n` items one after the other, in front of which those in `done` (the last one
first) were read already. -/
def readMany {α : Type} (item : Bytes → Option (α × Bytes)) :
    Nat → List α → Bytes → Option (List α × Bytes)
  | 0, done, b => some (done.reverse, b)
  | n + 1, done, b =>
    match item b with
    | some (x, rest) => readMany item n (x :: done) rest
    | none => none

end WebSession.MessagePack
