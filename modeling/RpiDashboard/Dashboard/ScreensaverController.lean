import RpiDashboard.Data.Sessions

/-! The screensaver (`dashboard/screensaver_controller.cpp`): an event filter on the application,
and a timer that every activity starts again. -/

namespace RpiDashboard.Dashboard

/-- `QEvent::Type`; all that is no activity is `other`. -/
inductive QEventType
  | keyPress | keyRelease
  | mouseButtonPress | mouseButtonRelease | mouseButtonDblClick | mouseMove | wheel
  | touchBegin | touchUpdate | touchEnd | touchCancel
  | other : Nat → QEventType
  deriving DecidableEq

namespace QEventType

def isActivityEvent : QEventType → Bool
  | .other _ => false
  | _ => true

def isTouchEvent (type : QEventType) : Bool :=
  type = .touchBegin || type = .touchUpdate || type = .touchEnd || type = .touchCancel

end QEventType

/-- `timer` is whether the timer runs; `activeChanged` are the values of `active` with the signals
so far. -/
structure ScreensaverController where
  timer : Bool := false
  active : Bool := false
  enabled : Bool := false
  consumingTouchSequence : Bool := false
  activeChanged : List Bool := []
  deriving DecidableEq

/-- An event that is on its way to the application; the timer has run out. -/
inductive ScreensaverController.Input
  | event : QEventType → ScreensaverController.Input
  | timeout : ScreensaverController.Input
  deriving DecidableEq

namespace ScreensaverController

/-- The constructors, for a timeout in milliseconds. -/
def create (timeout : Int) : ScreensaverController :=
  if timeout > 0 then { enabled := true, timer := true } else {}

def setActive (c : ScreensaverController) (active : Bool) : ScreensaverController :=
  if c.active = active then c
  else { c with
    active := active
    timer := if active then false else c.timer
    activeChanged := c.activeChanged ++ [active] }

def startTimer (c : ScreensaverController) : ScreensaverController := { c with timer := true }

/-- Whether the event is filtered out, and what it leaves behind. -/
def eventFilter (c : ScreensaverController) (type : QEventType) : Bool × ScreensaverController :=
  if !c.enabled || !type.isActivityEvent then (false, c)
  else if c.consumingTouchSequence && type.isTouchEvent then
    let ends := type = .touchEnd || type = .touchCancel
    (true, if ends then { c with consumingTouchSequence := false } else c)
  else if c.active then
    let c := { c with consumingTouchSequence := type = QEventType.touchBegin }
    (true, (c.setActive false).startTimer)
  else (false, c.startTimer)

/-- A timer that does not run does not run out, and a single shot ends it. -/
def step (c : ScreensaverController) : Input → ScreensaverController
  | .event type => (c.eventFilter type).2
  | .timeout => if c.timer then { c with timer := false }.setActive true else c

/-- The events that reach the application. -/
def delivered (c : ScreensaverController) : Input → List QEventType
  | .event type => if (c.eventFilter type).1 then [] else [type]
  | .timeout => []

def swallowed (c : ScreensaverController) : Input → List QEventType
  | .event type => if (c.eventFilter type).1 then [type] else []
  | .timeout => []

end ScreensaverController

end RpiDashboard.Dashboard
