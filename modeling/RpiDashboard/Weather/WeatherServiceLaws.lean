import RpiDashboard.Weather.WeatherService

/-! What each operation of the weather service can change. -/

namespace RpiDashboard.Weather.WeatherService

open Qt

variable {qt : QtText} (service : WeatherService) (now : QDateTime)

theorem scheduleLocalHourBoundary_frame : ∃ localHourTimer,
    service.scheduleLocalHourBoundary now = { service with localHourTimer } := by
  unfold scheduleLocalHourBoundary
  split <;> exact ⟨_, rfl⟩

theorem saveCache_frame : ∃ saved, service.saveCache = { service with saved } := by
  unfold saveCache
  split <;> exact ⟨_, rfl⟩

theorem startOperation_frame (manual : Bool) :
    ∃ authenticationStopped refreshTimer inFlight operation state stale diagnostics requests,
      service.startOperation manual = { service with
        authenticationStopped, refreshTimer, inFlight, operation
        state, stale, diagnostics, requests } := by
  unfold startOperation
  split
  · exact ⟨_, _, _, _, _, _, _, _, rfl⟩
  split
  · exact ⟨_, _, _, _, _, _, _, _, rfl⟩
  · cases manual <;> exact ⟨_, _, _, _, _, _, _, _, rfl⟩

theorem publish_frame (snapshot : Snapshot) :
    ∃ shown hourlyModel dailyModel localHourTimer solarEventTimer utc kind saved,
      service.publish qt snapshot now = { service with
        snapshot := shown, hourlyModel, dailyModel, localHourTimer, solarEventTimer
        nextSolarEventUtc := utc, nextSolarEventKind := kind, saved
        inFlight := false
        operation := .none
        stale := false
        failureCount := 0
        state := .ready
        diagnostics := ""
        refreshTimer := some (service.config.refreshIntervalSeconds * 1000) } := by
  unfold publish
  dsimp only
  let merged := { service with snapshot := mergeAirQuality qt service.snapshot snapshot }
  obtain ⟨localHourTimer, hschedule⟩ :=
    scheduleLocalHourBoundary_frame (merged.updateTodayPrecipitationProbability now) now
  rw [hschedule]
  obtain ⟨saved, hsave⟩ := saveCache_frame _
  exact ⟨_, _, _, _, _, _, _, _, hsave⟩

theorem restore_frame (cached : Snapshot) :
    ∃ shown hourlyModel dailyModel localHourTimer solarEventTimer utc kind stale,
      service.restore cached now = { service with
        snapshot := shown, hourlyModel, dailyModel, localHourTimer, solarEventTimer
        nextSolarEventUtc := utc, nextSolarEventKind := kind, stale
        state := .ready } := by
  unfold restore
  dsimp only
  let restored := { service with snapshot := cached }
  obtain ⟨localHourTimer, hschedule⟩ :=
    scheduleLocalHourBoundary_frame (restored.updateTodayPrecipitationProbability now) now
  rw [hschedule]
  exact ⟨_, _, _, _, _, _, _, _, rfl⟩

/-- The service that `initialized` starts the first operation of. -/
def restored (config : WeatherConfig) (diagnostics : QString) (cached : Option Snapshot)
    (now : QDateTime) : WeatherService :=
  match cached with
  | some cached => ({ config, diagnostics } : WeatherService).restore cached now
  | none => { config, diagnostics }

theorem initialized_cases {P : WeatherService → Prop} {config : WeatherConfig}
    {diagnostics : QString} {cached : Option Snapshot} {now : QDateTime}
    (herror : diagnostics ≠ "" →
      P { restored config diagnostics cached now with state := .error })
    (hcoordinates : config.locationMode = .coordinates →
      P ((restored config diagnostics cached now).setLocation qt
        { latitude := config.latitude, longitude := config.longitude } now))
    (hstart : P ((restored config diagnostics cached now).startOperation false)) :
    P (initialized qt config diagnostics cached now) := by
  have heq : initialized qt config diagnostics cached now =
      let service := restored config diagnostics cached now
      if diagnostics ≠ "" then { service with state := .error }
      else if config.locationMode = .coordinates then service.setLocation qt
        { latitude := config.latitude, longitude := config.longitude } now
      else service.startOperation false := by
    cases cached <;> rfl
  rw [heq]
  dsimp only
  split
  case isTrue h => exact herror h
  split
  case isTrue h => exact hcoordinates h
  case isFalse => exact hstart

end RpiDashboard.Weather.WeatherService
