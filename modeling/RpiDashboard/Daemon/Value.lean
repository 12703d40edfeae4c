import Mathlib.Data.List.Sort
import RpiDashboard.Numeric.Double
import RpiDashboard.Cbor.Item

/-! The values the daemon sends and its encoder (`daemon/src/daemon.cpp`), written
without Qt.  A `std::string` is its bytes, a `std::map` the list of its entries in
the order of their keys. -/

namespace RpiDashboard.Daemon

open Numeric

abbrev StdString := List UInt8

/-- The bytes of a string literal. -/
def lit (s : String) : StdString := s.toByteArray.data.toList

/-- What is found of the 256 values holds of every byte. -/
theorem forall_byte {P : UInt8 → Prop} (h : ∀ n < 256, P (UInt8.ofNat n)) (c : UInt8) : P c := by
  have hc := h c.toNat c.toNat_lt
  rwa [UInt8.ofNat_toNat] at hc

inductive Value : Type
  | unsigned : UInt64 → Value
  | number : Double → Value
  | text : StdString → Value
  | bytes : List UInt8 → Value
  | boolean : Bool → Value
  | array : List Value → Value
  | map : List (StdString × Value) → Value

abbrev StdMap := List (StdString × Value)

/-- `m[key] = value`. -/
def StdMap.assign : StdMap → StdString → Value → StdMap
  | [], key, value => [(key, value)]
  | (k, v) :: m, key, value =>
    if k = key then (key, value) :: m
    else if key < k then (key, value) :: (k, v) :: m
    else (k, v) :: StdMap.assign m key value

def StdMap.find : StdMap → StdString → Option Value
  | [], _ => none
  | (k, v) :: m, key => if k = key then some v else StdMap.find m key

/-- `m.erase(key)`. -/
def StdMap.erase (m : StdMap) (key : StdString) : StdMap := m.filter (·.1 ≠ key)

/-- `if (x) m[key] = *x`. -/
def StdMap.assignSome (m : StdMap) (key : String) (value : Option Value) : StdMap :=
  match value with
  | some v => m.assign (lit key) v
  | none => m

/-- `if (!m.empty()) root[key] = Value::object(m)`. -/
def addObject (root : StdMap) (key : String) (m : StdMap) : StdMap :=
  if m.isEmpty then root else root.assign (lit key) (.map m)

def addArray (root : StdMap) (key : String) (xs : List Value) : StdMap :=
  if xs.isEmpty then root else root.assign (lit key) (.array xs)

/-- The bytes of `n` from the one at `i` down to the lowest. -/
def bytesFrom (n : Nat) : Nat → List UInt8
  | 0 => [UInt8.ofNat n]
  | i + 1 => UInt8.ofNat (n >>> ((i + 1) * 8)) :: bytesFrom n i

def head (m n : Nat) : List UInt8 :=
  if n < 24 then [UInt8.ofNat ((m <<< 5) ||| n)]
  else if n < 256 then [UInt8.ofNat ((m <<< 5) ||| 24), UInt8.ofNat n]
  else if n < 65536 then
    [UInt8.ofNat ((m <<< 5) ||| 25), UInt8.ofNat (n >>> 8), UInt8.ofNat n]
  else if n < 4294967296 then UInt8.ofNat ((m <<< 5) ||| 26) :: bytesFrom n 3
  else UInt8.ofNat ((m <<< 5) ||| 27) :: bytesFrom n 7

/-- The order of the entries of a map: shorter encoded keys first, then by their bytes. -/
def precedes (a b : List UInt8) : Bool :=
  if a.length ≠ b.length then a.length < b.length else a < b

/-- `std::sort` on keys that differ. -/
def sortEntries {α : Type} (p : List (List UInt8 × α)) : List (List UInt8 × α) :=
  p.insertionSort fun a b => precedes b.1 a.1 = false

mutual
def Value.encode : Value → List UInt8
  | .unsigned n => head 0 n.toNat
  | .number d => 0xfb :: bytesFrom d.bits.toNat 7
  | .text t => head 3 t.length ++ t
  | .bytes b => head 2 b.length ++ b
  | .boolean b => [if b then 0xf5 else 0xf4]
  | .array xs => head 4 xs.length ++ encodeValues xs
  | .map m =>
    let p := sortEntries (encodeEntries m)
    head 5 p.length ++ p.flatMap fun (k, x) => k ++ x

def encodeValues : List Value → List UInt8
  | [] => []
  | x :: xs => x.encode ++ encodeValues xs

def encodeEntries : List (StdString × Value) → List (List UInt8 × List UInt8)
  | [] => []
  | (k, x) :: m => (head 3 k.length ++ k, x.encode) :: encodeEntries m
end

def cbor (v : Value) : List UInt8 := v.encode

structure Config where
  host : StdString
  port : UInt16 := 51337
  intervalSeconds : Int := 1
  displayName : StdString

abbrev Uuid := Vector UInt8 16

def envelope (type : String) (d i : Uuid) : StdMap :=
  let map := StdMap.assign [] (lit "device_id") (.bytes d.toList)
  let map := map.assign (lit "instance_id") (.bytes i.toList)
  let map := map.assign (lit "type") (.text (lit type))
  map.assign (lit "version") (.unsigned 1)

def hello (c : Config) (d i : Uuid) (info : Value) : List UInt8 :=
  let v := envelope "hello" d i
  let v := v.assign (lit "display_name") (.text c.displayName)
  let v := v.assign (lit "interval_s") (.unsigned (UInt64.ofInt c.intervalSeconds))
  let v := v.assign (lit "system_info") info
  cbor (.map v)

def snapshot (c : Config) (d i : Uuid) (seq : UInt64) (info : Value) (m : Option Value) :
    List UInt8 :=
  let v := envelope "snapshot" d i
  let v := v.assign (lit "interval_s") (.unsigned (UInt64.ofInt c.intervalSeconds))
  let v := v.assign (lit "sequence") (.unsigned seq)
  let v := v.assign (lit "system_info") info
  match m with
  | some metrics => cbor (.map (v.assign (lit "metrics") metrics))
  | none => cbor (.map v)

end RpiDashboard.Daemon
