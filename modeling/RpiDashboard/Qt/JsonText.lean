import Mathlib.Data.List.Forall2
import RpiDashboard.Qt.Text

/-! JSON documents and times that are written as text and read again. -/

namespace RpiDashboard.Qt

open Numeric

/-- What is used of Qt to write text. -/
structure QtWriter where
  /-- `QJsonDocument::toJson`. -/
  toJson : QJsonValue → QByteArray
  /-- `QDateTime::toString` with `Qt::ISODate`. -/
  toIsoDate : QDateTime → QString

/-- Without its milliseconds. -/
def QDateTime.wholeSeconds (t : QDateTime) : QDateTime :=
  { t with msecs := t.msecs.map fun msecs => msecs / 1000 * 1000 }

namespace QJsonValue

def ofInt (n : Int) : QJsonValue := .integer (Int64.ofInt n)

/-- What is written can be read: the numbers are finite, the keys distinct. -/
inductive Storable : QJsonValue → Prop
  | null : Storable .null
  | bool (b : Bool) : Storable (.bool b)
  | integer (i : Int64) : Storable (.integer i)
  | double (d : Double) : d.isFinite → Storable (.double d)
  | string (s : QString) : Storable (.string s)
  | array (xs : List QJsonValue) : (∀ x ∈ xs, Storable x) → Storable (.array xs)
  | object (o : QJsonObject) : (o.map Prod.fst).Nodup → (∀ e ∈ o, Storable e.2) →
    Storable (.object o)

/-- Two values that read alike: a whole number may be held as an integer or as a double, and
the order of the members does not matter. -/
inductive Alike : QJsonValue → QJsonValue → Prop
  | undefined : Alike .undefined .undefined
  | null : Alike .null .null
  | bool (b : Bool) : Alike (.bool b) (.bool b)
  | number {a b : QJsonValue} : a.isDouble → b.isDouble → a.toDouble = b.toDouble →
    a.toInt = b.toInt → Alike a b
  | string (s : QString) : Alike (.string s) (.string s)
  | array {xs ys : List QJsonValue} : List.Forall₂ Alike xs ys → Alike (.array xs) (.array ys)
  | object {o o' : QJsonObject} : (∀ key, Alike (o.value key) (o'.value key)) →
    o.isEmpty = o'.isEmpty → Alike (.object o) (.object o')

end QJsonValue

/-- Qt reads what it has written. -/
structure QtWriter.RoundTrips (writer : QtWriter) (qt : QtText) : Prop where
  json : ∀ document, document.Storable →
    ∃ document', qt.fromJson (writer.toJson document) = some document' ∧ document.Alike document'
  /-- UTC times are written in whole seconds. -/
  isoDate : ∀ t : QDateTime, t.isValid → t.offsetSeconds = 0 →
    qt.fromIsoDate (writer.toIsoDate t) = t.wholeSeconds
  /-- The text of an invalid time is empty. -/
  invalid : ∀ t : QDateTime, t.isValid = false → qt.fromIsoDate (writer.toIsoDate t) = {}

namespace QJsonValue.Alike

variable {a b : QJsonValue}

theorem toString (h : Alike a b) : a.toString = b.toString := by
  cases h with
  | number ha hb =>
    cases a <;> cases ha <;> cases b <;> cases hb <;> rfl
  | _ => rfl

theorem isDouble (h : Alike a b) : a.isDouble = b.isDouble := by
  cases h with
  | number ha hb => exact ha.trans hb.symm
  | _ => rfl

theorem toDouble (h : Alike a b) : a.toDouble = b.toDouble := by
  cases h with
  | number _ _ hdouble _ => exact hdouble
  | _ => rfl

theorem toInt (h : Alike a b) : a.toInt = b.toInt := by
  cases h with
  | number _ _ _ hint => exact hint
  | _ => rfl

theorem isObject (h : Alike a b) : a.isObject = b.isObject := by
  cases h with
  | number ha hb =>
    cases a <;> cases ha <;> cases b <;> cases hb <;> rfl
  | _ => rfl

theorem isArray (h : Alike a b) : a.isArray = b.isArray := by
  cases h with
  | number ha hb =>
    cases a <;> cases ha <;> cases b <;> cases hb <;> rfl
  | _ => rfl

theorem isEmpty (h : Alike a b) : a.toObject.isEmpty = b.toObject.isEmpty := by
  cases h with
  | number ha hb =>
    cases a <;> cases ha <;> cases b <;> cases hb <;> rfl
  | object _ hempty => exact hempty
  | _ => rfl

theorem member (h : Alike a b) (key : QString) :
    Alike (a.toObject.value key) (b.toObject.value key) := by
  cases h with
  | number ha hb =>
    cases a <;> cases ha <;> cases b <;> cases hb <;> exact .undefined
  | object hmember _ => exact hmember key
  | _ => exact .undefined

theorem toArray (h : Alike a b) : List.Forall₂ Alike a.toArray b.toArray := by
  cases h with
  | number ha hb =>
    cases a <;> cases ha <;> cases b <;> cases hb <;> exact .nil
  | array hitems => exact hitems
  | _ => exact .nil

/-- What is read from alike items is the same. -/
theorem mapM_eq {α : Type} {xs ys : List QJsonValue} {read : QJsonValue → Option α}
    (h : List.Forall₂ Alike xs ys) (hread : ∀ a b, Alike a b → read a = read b) :
    xs.mapM read = ys.mapM read := by
  induction h with
  | nil => rfl
  | cons hab _ ih => rw [List.mapM_cons, List.mapM_cons, hread _ _ hab, ih]

end QJsonValue.Alike

end RpiDashboard.Qt
