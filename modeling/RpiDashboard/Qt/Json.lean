import RpiDashboard.Qt.Value

/-! JSON documents as Qt holds them.  The keys of an object are distinct. -/

namespace RpiDashboard.Qt

open Numeric

inductive QJsonValue : Type
  | undefined : QJsonValue
  | null : QJsonValue
  | bool : Bool → QJsonValue
  | integer : Int64 → QJsonValue
  | double : Double → QJsonValue
  | string : QString → QJsonValue
  | array : List QJsonValue → QJsonValue
  | object : List (QString × QJsonValue) → QJsonValue

abbrev QJsonObject := List (QString × QJsonValue)

def QJsonObject.value (object : QJsonObject) (key : QString) : QJsonValue :=
  match object with
  | [] => .undefined
  | (k, v) :: rest => if k = key then v else QJsonObject.value rest key

namespace QJsonValue

def isObject : QJsonValue → Bool
  | .object _ => true
  | _ => false

def isArray : QJsonValue → Bool
  | .array _ => true
  | _ => false

def isString : QJsonValue → Bool
  | .string _ => true
  | _ => false

def isBool : QJsonValue → Bool
  | .bool _ => true
  | _ => false

/-- True of every number, an integer included. -/
def isDouble : QJsonValue → Bool
  | .integer _ => true
  | .double _ => true
  | _ => false

def toObject : QJsonValue → QJsonObject
  | .object o => o
  | _ => []

def toArray : QJsonValue → List QJsonValue
  | .array xs => xs
  | _ => []

def toString : QJsonValue → QString
  | .string s => s
  | _ => ""

def toBool : QJsonValue → Bool
  | .bool b => b
  | _ => false

def toDouble : QJsonValue → Double
  | .integer i => .ofInt i.toInt
  | .double d => d
  | _ => .zero

/-- `toVariant().toDouble(&ok)`, none where `ok` is false: a text is read by `number`. -/
def toVariantDouble (number : QString → Option Double) : QJsonValue → Option Double
  | .bool b => some (if b then .one else .zero)
  | .integer i => some (.ofInt i.toInt)
  | .double d => some d
  | .string s => number s
  | _ => none

/-- The number, if it is an integer of `bits` signed bits; zero otherwise. -/
def toIntegral (bits : Nat) (value : QJsonValue) : Int :=
  let fits (n : Int) : Int := if -2 ^ (bits - 1) ≤ n ∧ n < 2 ^ (bits - 1) then n else 0
  match value with
  | .integer i => fits i.toInt
  | .double d => if d.isFinite && d.toRat.den = 1 then fits d.toRat.num else 0
  | _ => 0

def toInt (value : QJsonValue) : Int := value.toIntegral 32

def toInteger (value : QJsonValue) : Int64 := Int64.ofInt (value.toIntegral 64)

/-- `toVariant().toLongLong()`: a number that is no integer is rounded, half away from zero. -/
def toLongLong : QJsonValue → Int64
  | .integer i => i
  | .double d =>
    let q := d.toRat
    Int64.ofInt (if 0 ≤ q then (q + 1 / 2).floor else -(1 / 2 - q).floor)
  | _ => 0

end QJsonValue

end RpiDashboard.Qt
