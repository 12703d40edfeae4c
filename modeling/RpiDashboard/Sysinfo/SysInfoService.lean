import RpiDashboard.Qt.DateTime
import RpiDashboard.Sysinfo.LinuxSysInfoCollector

/-! The information service (`sysinfo/sys_info_service.cpp`): one collection in the background
at a time, and what its result leaves behind. -/

namespace RpiDashboard.Sysinfo

open Protocol Qt

inductive State
  | idle | collecting | ready | someValues | error
  deriving DecidableEq

inductive Outcome
  | result : SysInfoCollectionResult → Outcome
  | exception : QString → Outcome
  | unknown : Outcome

structure SysInfoService where
  state : State := .idle
  currentInfo : SystemInfo := {}
  lastSuccessUtc : QDateTime := {}
  diagnostics : List QString := []

/-- `refresh` is called; the collection that runs completes. -/
inductive Event
  | refresh : Event
  | finished : Outcome → QDateTime → Event

namespace SysInfoService

def refresh (service : SysInfoService) : SysInfoService :=
  if service.state = .collecting then service else { service with state := .collecting }

def collectionFinished (service : SysInfoService) (outcome : Outcome) (now : QDateTime) :
    SysInfoService :=
  match outcome with
  | .exception what =>
    { service with
      diagnostics := ["System information collection failed: " ++ what]
      state := .error }
  | .unknown =>
    { service with
      diagnostics := ["System information collection failed with an unknown error"]
      state := .error }
  | .result result =>
    if result.info.hasAnyValue then
      { diagnostics := result.diagnostics
        currentInfo := result.info
        lastSuccessUtc := now
        state := if result.info.hasAllBaselineFields then .ready else .someValues }
    else
      { service with
        diagnostics :=
          if result.diagnostics = [] then
            ["System information collection produced no usable values"]
          else result.diagnostics
        state := .error }

def step (service : SysInfoService) : Event → SysInfoService
  | .refresh => service.refresh
  | .finished outcome now =>
    if service.state = .collecting then service.collectionFinished outcome now else service

/-- Whether `currentInfoChanged` is sent: of a result that says anything. -/
def currentInfoChanged (service : SysInfoService) : Event → Bool
  | .finished (.result result) _ => service.state = .collecting && result.info.hasAnyValue
  | _ => false

/-- The information does not change but with its signal. -/
theorem currentInfo_step {service : SysInfoService} {e : Event}
    (h : service.currentInfoChanged e = false) :
    (service.step e).currentInfo = service.currentInfo := by
  cases e with
  | refresh =>
    rw [step, refresh]
    split <;> rfl
  | finished outcome now =>
    rw [step]
    split
    case isFalse => rfl
    case isTrue hcollecting =>
      cases outcome with
      | result result =>
        have hnone : result.info.hasAnyValue = false := by
          simpa [currentInfoChanged, hcollecting] using h
        simp [collectionFinished, hnone]
      | _ => rfl

end SysInfoService

end RpiDashboard.Sysinfo
