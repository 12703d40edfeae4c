import Mathlib.Algebra.Group.Nat.Defs
import Mathlib.Data.Nat.Notation
import Mathlib.Tactic.Common

/-! Concise Binary Object Representation (RFC 8949): data items, their preferred
serialization, and a decoder for definite-length items.  Text is kept as its
bytes; whether they are UTF-8 is a question of validity, not of framing. -/

namespace RpiDashboard.Cbor

/-- Named, so that it is the same wherever bytes are compared. -/
instance lawfulBEq_bytes : LawfulBEq (List UInt8) := inferInstance

inductive Item : Type
  | unsigned : UInt64 → Item
  | negative : UInt64 → Item
  | bytes : List UInt8 → Item
  | text : List UInt8 → Item
  | array : List Item → Item
  | map : List (Item × Item) → Item
  | tag : UInt64 → Item → Item
  | simple : UInt8 → Item
  | half : BitVec 16 → Item
  | single : BitVec 32 → Item
  | double : BitVec 64 → Item

/-- The `width` low bytes of `n`, most significant first. -/
def bigEndian : Nat → Nat → List UInt8
  | 0, _ => []
  | width + 1, n => UInt8.ofNat (n / 256 ^ width) :: bigEndian width n

def ofBigEndian (bytes : List UInt8) : Nat :=
  bytes.foldl (fun n b => n * 256 + b.toNat) 0

/-- The initial byte: major type in the upper three bits, additional information below. -/
def initial (major info : Nat) : UInt8 := UInt8.ofNat (major * 32 + info)

/-- The shortest head of major type `major` with argument `n`. -/
def head (major n : Nat) : List UInt8 :=
  if n < 24 then [initial major n]
  else if n < 256 then initial major 24 :: bigEndian 1 n
  else if n < 65536 then initial major 25 :: bigEndian 2 n
  else if n < 4294967296 then initial major 26 :: bigEndian 4 n
  else initial major 27 :: bigEndian 8 n

mutual
def Item.encode : Item → List UInt8
  | .unsigned n => head 0 n.toNat
  | .negative n => head 1 n.toNat
  | .bytes b => head 2 b.length ++ b
  | .text b => head 3 b.length ++ b
  | .array xs => head 4 xs.length ++ encodeItems xs
  | .map es => head 5 es.length ++ encodeEntries es
  | .tag n x => head 6 n.toNat ++ x.encode
  | .simple n => if n < 24 then [initial 7 n.toNat] else [initial 7 24, n]
  | .half f => initial 7 25 :: bigEndian 2 f.toNat
  | .single f => initial 7 26 :: bigEndian 4 f.toNat
  | .double f => initial 7 27 :: bigEndian 8 f.toNat

def encodeItems : List Item → List UInt8
  | [] => []
  | x :: xs => x.encode ++ encodeItems xs

def encodeEntries : List (Item × Item) → List UInt8
  | [] => []
  | (k, v) :: es => k.encode ++ v.encode ++ encodeEntries es
end

/-- A decoder consumes a prefix and returns what it leaves. -/
abbrev Decoder (α : Type) := List UInt8 → Option (α × List UInt8)

def take (n : Nat) : Decoder (List UInt8) := fun input =>
  if n ≤ input.length then some (input.take n, input.drop n) else none

def argument (info : Nat) : Decoder Nat := fun input =>
  if info < 24 then some (info, input)
  else if info = 24 then (take 1 input).map (Prod.map ofBigEndian id)
  else if info = 25 then (take 2 input).map (Prod.map ofBigEndian id)
  else if info = 26 then (take 4 input).map (Prod.map ofBigEndian id)
  else if info = 27 then (take 8 input).map (Prod.map ofBigEndian id)
  else none

def times {α : Type} (item : Decoder α) : Nat → Decoder (List α)
  | 0, input => some ([], input)
  | n + 1, input => do
    let (x, rest) ← item input
    let (xs, rest) ← times item n rest
    return (x :: xs, rest)

def entry (item : Decoder Item) : Decoder (Item × Item) := fun input => do
  let (k, rest) ← item input
  let (v, rest) ← item rest
  return ((k, v), rest)

/-- Major type 7: simple values and floating-point numbers.  A two-byte simple
value below 32 is not well-formed. -/
def decodeSimple (info n : Nat) : Option Item :=
  if info < 24 then some (.simple (UInt8.ofNat n))
  else if info = 24 then (if 32 ≤ n then some (.simple (UInt8.ofNat n)) else none)
  else if info = 25 then some (.half (BitVec.ofNat 16 n))
  else if info = 26 then some (.single (BitVec.ofNat 32 n))
  else some (.double (BitVec.ofNat 64 n))

/-- The item of major type `major` whose head carried `info` and the argument `n`;
`item` decodes the items nested in it. -/
def body (item : Decoder Item) (major info n : Nat) : Decoder Item := fun input =>
  match major with
  | 0 => some (.unsigned (UInt64.ofNat n), input)
  | 1 => some (.negative (UInt64.ofNat n), input)
  | 2 => (take n input).map (Prod.map .bytes id)
  | 3 => (take n input).map (Prod.map .text id)
  | 4 => (times item n input).map (Prod.map .array id)
  | 5 => (times (entry item) n input).map (Prod.map .map id)
  | 6 => (item input).map (Prod.map (.tag (UInt64.ofNat n)) id)
  | _ => (decodeSimple info n).map (·, input)

/-- Decodes one item nested at most `depth` deep. -/
def decode : Nat → Decoder Item
  | 0, _ => none
  | _ + 1, [] => none
  | depth + 1, b :: input => do
    let (n, rest) ← argument (b.toNat % 32) input
    body (decode depth) (b.toNat / 32) (b.toNat % 32) n rest

/-- What the encoder is faithful on: every count fits its 64-bit argument, simple
values are assigned ones, and nesting is at most `depth`. -/
def Item.Fits : Nat → Item → Prop
  | 0, _ => False
  | _ + 1, .bytes b => b.length < 2 ^ 64
  | _ + 1, .text b => b.length < 2 ^ 64
  | depth + 1, .array xs => xs.length < 2 ^ 64 ∧ ∀ x ∈ xs, x.Fits depth
  | depth + 1, .map es => es.length < 2 ^ 64 ∧ ∀ e ∈ es, e.1.Fits depth ∧ e.2.Fits depth
  | depth + 1, .tag _ x => x.Fits depth
  | _ + 1, .simple n => n < 24 ∨ 32 ≤ n
  | _ + 1, _ => True

end RpiDashboard.Cbor
