import Mathlib.Data.Int.Init

/-! Points in time: milliseconds since the epoch, with the offset in which they are shown. -/

namespace RpiDashboard.Qt

structure QDateTime where
  msecs : Option Int := none
  offsetSeconds : Int := 0
  deriving DecidableEq

namespace QDateTime

def isValid (t : QDateTime) : Bool := t.msecs.isSome

def toMSecsSinceEpoch (t : QDateTime) : Int := t.msecs.getD 0

def addMSecs (t : QDateTime) (msecs : Int) : QDateTime := { t with msecs := t.msecs.map (· + msecs) }

def addSecs (t : QDateTime) (seconds : Int) : QDateTime := t.addMSecs (seconds * 1000)

/-- Milliseconds on the clock it is shown on. -/
def localMSecs (t : QDateTime) : Int := t.toMSecsSinceEpoch + t.offsetSeconds * 1000

/-- The day, counted from the epoch; none for an invalid time. -/
def date (t : QDateTime) : Option Int := if t.isValid then some (t.localMSecs / 86400000) else none

def hour (t : QDateTime) : Int := if t.isValid then t.localMSecs % 86400000 / 3600000 else -1

def msecsTo (t other : QDateTime) : Int :=
  if t.isValid && other.isValid then other.toMSecsSinceEpoch - t.toMSecsSinceEpoch else 0

def secsTo (t other : QDateTime) : Int := (t.msecsTo other).tdiv 1000

def daysTo (t other : QDateTime) : Int :=
  match t.date, other.date with
  | some d, some e => e - d
  | _, _ => 0

/-- `operator==` and `operator<` compare instants. -/
def same (t other : QDateTime) : Bool := t.msecs = other.msecs

def lt (t other : QDateTime) : Bool := t.toMSecsSinceEpoch < other.toMSecsSinceEpoch

end QDateTime

end RpiDashboard.Qt
