import RpiDashboard.Cbor.Item
import RpiDashboard.Numeric.Double

/-! The Qt value types that cross the wire.  Strings are Unicode text, byte arrays
are lists of bytes; a `QCborMap` keeps its entries in order, duplicates included. -/

namespace RpiDashboard.Qt

open Numeric Cbor

abbrev QString := String
abbrev QByteArray := List UInt8

def toUtf8 (s : QString) : QByteArray := s.toByteArray.data.toList

def fromUtf8? (b : QByteArray) : Option QString := String.fromUTF8? ⟨b.toArray⟩

structure QUuid where
  rfc4122 : QByteArray
  length_eq : rfc4122.length = 16
  deriving DecidableEq

namespace QUuid

def null : QUuid := ⟨List.replicate 16 0, rfl⟩

def isNull (u : QUuid) : Bool := u = null

def toRfc4122 (u : QUuid) : QByteArray := u.rfc4122

/-- A byte array of any other length gives the null UUID. -/
def fromRfc4122 (b : QByteArray) : QUuid :=
  if h : b.length = 16 then ⟨b, h⟩ else null

end QUuid

inductive QCborValue : Type
  | undefined : QCborValue
  | null : QCborValue
  | boolean : Bool → QCborValue
  | integer : Int64 → QCborValue
  | double : Double → QCborValue
  | string : QString → QCborValue
  | byteArray : QByteArray → QCborValue
  | array : List QCborValue → QCborValue
  | map : List (QCborValue × QCborValue) → QCborValue
  | simpleType : UInt8 → QCborValue
  | tag : UInt64 → QCborValue → QCborValue

abbrev QCborMap := List (QCborValue × QCborValue)

/-- The value of the first entry with this key, `undefined` if there is none. -/
def QCborMap.value : QCborMap → QString → QCborValue
  | [], _ => .undefined
  | (.string k, v) :: rest, key => if k = key then v else QCborMap.value rest key
  | _ :: rest, key => QCborMap.value rest key

/-- Replaces the value of an existing key in place, appends otherwise. -/
def QCborMap.insert : QCborMap → QString → QCborValue → QCborMap
  | [], key, v => [(.string key, v)]
  | (.string k, w) :: rest, key, v =>
    if k = key then (.string k, v) :: rest else (.string k, w) :: QCborMap.insert rest key v
  | e :: rest, key, v => e :: QCborMap.insert rest key v

mutual
/-- The data item that stands for a value on the wire. -/
def QCborValue.toItem : QCborValue → Item
  | .undefined => .simple 23
  | .null => .simple 22
  | .boolean b => .simple (if b then 21 else 20)
  | .integer i =>
    if 0 ≤ i.toInt then .unsigned (UInt64.ofNat i.toInt.toNat)
    else .negative (UInt64.ofNat (-1 - i.toInt).toNat)
  | .double d => .double d.bits
  | .string s => .text (toUtf8 s)
  | .byteArray b => .bytes b
  | .array xs => .array (toItems xs)
  | .map es => .map (toEntries es)
  | .simpleType n => .simple n
  | .tag n v => .tag n v.toItem

def toItems : List QCborValue → List Item
  | [] => []
  | x :: xs => x.toItem :: toItems xs

def toEntries : List (QCborValue × QCborValue) → List (Item × Item)
  | [] => []
  | (k, v) :: es => (k.toItem, v.toItem) :: toEntries es
end

mutual
/-- Every map of a value, at every depth, with its entries put in the order `sort` gives. -/
def QCborValue.arrange (sort : QCborMap → QCborMap) : QCborValue → QCborValue
  | .array xs => .array (arrangeItems sort xs)
  | .map es => .map (sort (arrangeEntries sort es))
  | .tag n v => .tag n (v.arrange sort)
  | v => v

def arrangeItems (sort : QCborMap → QCborMap) : List QCborValue → List QCborValue
  | [] => []
  | x :: xs => x.arrange sort :: arrangeItems sort xs

def arrangeEntries (sort : QCborMap → QCborMap) :
    List (QCborValue × QCborValue) → List (QCborValue × QCborValue)
  | [] => []
  | (k, v) :: es => (k.arrange sort, v.arrange sort) :: arrangeEntries sort es
end

/-- Untagged data of the JSON kind, nested at most `depth` deep. -/
def QCborValue.Plain : Nat → QCborValue → Prop
  | 0, _ => False
  | depth + 1, .array xs => ∀ x ∈ xs, x.Plain depth
  | depth + 1, .map es => ∀ e ∈ es, e.1.Plain depth ∧ e.2.Plain depth
  | _ + 1, .simpleType _ => False
  | _ + 1, .tag _ _ => False
  | _ + 1, _ => True

def QCborValue.encodedSize (v : QCborValue) : Nat := v.toItem.encode.length

/-- Qt's CBOR reader and writer.  `fromCbor` is `none` where the parser reports an error. -/
structure QtCbor where
  toCbor : QCborValue → QByteArray
  fromCbor : QByteArray → Option QCborValue

/-- What the program relies on: the writer emits the preferred serialization, in
some order of the entries of each map, and the reader undoes it.  The bound on
nesting is far below Qt's own and above that of every message of the protocol;
the bound on size is that of a `QByteArray`. -/
structure QtCbor.Rfc8949 (qt : QtCbor) : Prop where
  toCbor_eq : ∃ sort : QCborMap → QCborMap, (∀ m, (sort m).Perm m) ∧
    ∀ v, v.Plain 16 → qt.toCbor v = (v.arrange sort).toItem.encode
  fromCbor_encode : ∀ v, v.Plain 16 → v.encodedSize < 2 ^ 63 →
    qt.fromCbor v.toItem.encode = some v

end RpiDashboard.Qt
