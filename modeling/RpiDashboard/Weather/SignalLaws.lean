import RpiDashboard.Weather.OperationsLaws
import RpiDashboard.Weather.Signals
import RpiDashboard.Weather.SolarEventLaws

/-! Laws of the weather service's signals: what is bound to its properties shows them, but for a
local time whose clock is changed under it. -/

namespace RpiDashboard.Weather

open Numeric Qt

/-- What the properties announced by `solarEventChanged` are read from. -/
structure SolarEvent where
  utc : QDateTime
  kind : QString
  timezoneOffsetSeconds : Int

/-- The comparison by which `solarEventChanged` is sent or not. -/
def SolarEvent.Same (before after : SolarEvent) : Prop :=
  after.utc.same before.utc = true ∧ after.kind = before.kind

/-- How far the clock that the event is shown on is from UTC. -/
def SolarEvent.clock (event : SolarEvent) : Int :=
  event.utc.offsetSeconds + event.timezoneOffsetSeconds

namespace WeatherService

variable {qt : QtText} {service : WeatherService} {now : QDateTime} {α : Type*}
  {lround : Double → Int64} {shortFormat : Int → QString}

def solarEvent (service : WeatherService) : SolarEvent where
  utc := service.nextSolarEventUtc
  kind := service.nextSolarEventKind
  timezoneOffsetSeconds := service.snapshot.timezoneOffsetSeconds

section Solar

@[simp] theorem startOperation_solarEvent {manual : Bool} :
    (service.startOperation manual).solarEvent = service.solarEvent := by
  obtain ⟨_, _, _, _, _, _, _, _, heq⟩ := service.startOperation_frame manual
  rw [heq]
  rfl

@[simp] theorem scheduleLocalHourBoundary_solarEvent :
    (service.scheduleLocalHourBoundary now).solarEvent = service.solarEvent := by
  obtain ⟨localHourTimer, heq⟩ := service.scheduleLocalHourBoundary_frame now
  rw [heq]
  rfl

@[simp] theorem updateTodayPrecipitationProbability_solarEvent :
    (service.updateTodayPrecipitationProbability now).solarEvent = service.solarEvent := rfl

@[simp] theorem saveCache_solarEvent : service.saveCache.solarEvent = service.solarEvent := by
  obtain ⟨saved, heq⟩ := service.saveCache_frame
  rw [heq]
  rfl

@[simp] theorem fail_solarEvent {diagnostic : QString} {authenticationFailure : Bool} {retry : Int} :
    (service.fail qt diagnostic authenticationFailure retry).solarEvent = service.solarEvent := by
  cases authenticationFailure <;> rfl

/-- The time that is shown is a matter of the event and of the clock. -/
theorem localNextSolarEventTime_eq :
    service.localNextSolarEventTime shortFormat =
      if service.solarEvent.utc.isValid then
        shortFormat ((service.solarEvent.utc.toMSecsSinceEpoch +
          service.solarEvent.clock * 1000) % 86400000)
      else "" := by
  unfold localNextSolarEventTime
  split
  case isTrue hvalid =>
    obtain ⟨msecs, hmsecs⟩ := Option.isSome_iff_exists.mp hvalid
    simp only [solarEvent, SolarEvent.clock, timeText, QDateTime.localMSecs, QDateTime.addSecs,
      QDateTime.addMSecs, QDateTime.toMSecsSinceEpoch, QDateTime.isValid, hmsecs]
    simp only [Option.map_some, Option.getD_some, Option.isSome_some, if_true]
    congr 2
    omega
  case isFalse hinvalid => exact (if_neg hinvalid).symm

end Solar

section Sent

variable {f : SolarEvent → α} {shown : α}

/-- A value that is a matter of the event is shown after an update, if it is the one before where
the event is. -/
theorem rebind_updateNextSolarEventSent
    (h : service.solarEvent.Same (service.updateNextSolarEvent now).solarEvent →
      shown = f (service.updateNextSolarEvent now).solarEvent) :
    rebind .solarEventChanged (f ·.solarEvent) shown (service.updateNextSolarEventSent now) =
      f (service.updateNextSolarEvent now).solarEvent := by
  unfold updateNextSolarEventSent
  dsimp only
  split
  case isTrue => rfl
  case isFalse hsame =>
    refine h ?_
    simpa [SolarEvent.Same, solarEvent] using hsame

@[simp] theorem rebind_changed_updateNextSolarEventSent {read : WeatherService → α} :
    rebind .changed read shown (service.updateNextSolarEventSent now) = shown := by
  unfold updateNextSolarEventSent
  dsimp only
  split <;> rfl

@[simp] theorem rebind_solar_startOperationSent {read : WeatherService → α} {manual : Bool} :
    rebind .solarEventChanged read shown (service.startOperationSent manual) = shown := by
  unfold startOperationSent
  split
  · rfl
  split <;> rfl

/-- An operation that starts is announced. -/
theorem rebind_startOperationSent {read : WeatherService → α} {manual : Bool}
    (h : service.inFlight = false ∧ (manual ∨ service.authenticationStopped = false) ∨
      shown = read service) :
    rebind .changed read shown (service.startOperationSent manual) =
      read (service.startOperation manual) := by
  unfold startOperationSent
  split
  case isTrue hf =>
    obtain ⟨hf', -⟩ | hshown := h
    · exact absurd (hf.symm.trans hf') (by decide)
    · rw [startOperation_idle (Or.inl hf)]
      exact hshown
  split
  case isTrue ha =>
    simp only [Bool.and_eq_true, Bool.not_eq_eq_eq_not, Bool.not_true] at ha
    obtain ⟨-, hm | ha'⟩ | hshown := h
    · exact absurd (ha.1.symm.trans hm) (by decide)
    · exact absurd (ha.2.symm.trans ha') (by decide)
    · rw [startOperation_idle (Or.inr ha)]
      exact hshown
  case isFalse => rfl

end Sent

section Handlers

variable {f : SolarEvent → α} {location : Location} {snapshot : Snapshot}

theorem rebind_solar_setLocationSent
    (h : service.solarEvent.Same (service.setLocation qt location now).solarEvent →
      f service.solarEvent = f (service.setLocation qt location now).solarEvent) :
    rebind .solarEventChanged (f ·.solarEvent) (f service.solarEvent)
        (service.setLocationSent qt now location) =
      f (service.setLocation qt location now).solarEvent := by
  unfold setLocationSent setLocation at *
  dsimp only at *
  split
  case isTrue hother =>
    rw [if_pos hother, startOperation_solarEvent] at h
    rw [rebind_append, rebind_solar_startOperationSent, startOperation_solarEvent]
    exact rebind_updateNextSolarEventSent h
  case isFalse hsame =>
    rw [rebind_solar_startOperationSent, startOperation_solarEvent]
    rfl

theorem rebind_changed_setLocationSent {read : WeatherService → α} {shown : α}
    (ha : service.authenticationStopped = false) :
    rebind .changed read shown (service.setLocationSent qt now location) =
      read (service.setLocation qt location now) := by
  unfold setLocationSent setLocation
  dsimp only
  split
  case isTrue hother =>
    rw [rebind_append, rebind_changed_updateNextSolarEventSent]
    exact rebind_startOperationSent (Or.inl ⟨rfl, Or.inr ha⟩)
  case isFalse hsame => exact rebind_startOperationSent (Or.inl ⟨rfl, Or.inr ha⟩)

/-- Publishing updates the event of a service that has still the one before. -/
theorem publishSent_eq (qt : QtText) (service : WeatherService) (now : QDateTime)
    (snapshot : Snapshot) :
    ∃ prepared : WeatherService,
      service.publishSent qt now snapshot =
        prepared.updateNextSolarEventSent now ++ [(.changed, service.publish qt snapshot now)] ∧
      (service.publish qt snapshot now).solarEvent =
        (prepared.updateNextSolarEvent now).solarEvent ∧
      prepared.solarEvent.utc = service.solarEvent.utc ∧
      prepared.solarEvent.kind = service.solarEvent.kind := by
  let merged := { service with snapshot := mergeAirQuality qt service.snapshot snapshot }
  obtain ⟨localHourTimer, hschedule⟩ :=
    scheduleLocalHourBoundary_frame (merged.updateTodayPrecipitationProbability now) now
  refine ⟨_, rfl, saveCache_solarEvent, ?_, ?_⟩
  · exact (congrArg nextSolarEventUtc hschedule :)
  · exact (congrArg nextSolarEventKind hschedule :)

theorem rebind_solar_publishSent
    (h : service.solarEvent.Same (service.publish qt snapshot now).solarEvent →
      f service.solarEvent = f (service.publish qt snapshot now).solarEvent) :
    rebind .solarEventChanged (f ·.solarEvent) (f service.solarEvent)
        (service.publishSent qt now snapshot) =
      f (service.publish qt snapshot now).solarEvent := by
  obtain ⟨prepared, hsent, hafter, hutc, hkind⟩ := service.publishSent_eq qt now snapshot
  rw [hafter] at h
  rw [hsent, rebind_append, hafter]
  refine rebind_updateNextSolarEventSent fun hsame => h ?_
  rwa [SolarEvent.Same, hutc, hkind] at hsame

theorem rebind_changed_publishSent {read : WeatherService → α} {shown : α} :
    rebind .changed read shown (service.publishSent qt now snapshot) =
      read (service.publish qt snapshot now) := by
  rw [publishSent, rebind_append]
  rfl

end Handlers

end WeatherService

namespace World

variable {qt : QtText} {w : World} {α : Type*} {config : WeatherConfig} {cached : Option Snapshot}
  {now : QDateTime}

/-- An operation that goes on may go on. -/
structure Willing (w : World) : Prop where
  sound : w.Sound
  willing : w.service.inFlight → w.service.authenticationStopped = false

theorem Willing.authenticationStopped (h : w.Willing) {request : Request}
    (hr : request ∈ w.outstanding) : w.service.authenticationStopped = false := by
  have hlength : w.outstanding.length = 1 :=
    le_antisymm h.sound.single (List.length_pos_of_mem hr)
  exact h.willing (h.sound.inFlight.mpr (List.length_eq_one_iff.mp hlength))

theorem willing_startOperation {service : WeatherService} {manual : Bool}
    (h : service.inFlight → service.authenticationStopped = false) :
    (service.startOperation manual).inFlight →
      (service.startOperation manual).authenticationStopped = false := by
  by_cases hidle : service.inFlight ∨ manual = false ∧ service.authenticationStopped
  · rwa [WeatherService.startOperation_idle hidle]
  · rw [not_or, Bool.not_eq_true] at hidle
    have hwilling : manual ∨ service.authenticationStopped = false := by
      cases manual <;> simp_all
    have hc := WeatherService.startOperation_control hidle.1 hwilling
    exact fun _ => congrArg Control.authenticationStopped hc

theorem willing_handled {e : Event} {service : WeatherService} (h : w.Willing)
    (hh : w.Handled qt e service) :
    service.inFlight → service.authenticationStopped = false := by
  cases hh with
  | refresh => exact willing_startOperation h.willing
  | timeout => exact willing_startOperation h.willing
  | solarTimeout => exact h.willing
  | localHourTimeout =>
    rw [← WeatherService.control_inFlight, ← WeatherService.control_authenticationStopped,
      WeatherService.scheduleLocalHourBoundary_control]
    exact h.willing
  | resolved hr =>
    obtain ⟨placed, heq, hc⟩ := w.service.setLocation_eq qt _ _
    rw [heq]
    exact willing_startOperation fun hf =>
      absurd ((congrArg Control.inFlight hc).symm.trans hf) Bool.false_ne_true
  | @forecastReady request snapshot now =>
    intro hf
    have hc : (w.service.publish qt snapshot now).control = _ := WeatherService.publish_control
    exact absurd ((congrArg Control.inFlight hc).symm.trans hf) Bool.false_ne_true
  | @failed request diagnostic authenticationFailure retry =>
    intro hf
    have hc : (w.service.fail qt diagnostic authenticationFailure retry).control = _ :=
      w.service.fail_control diagnostic authenticationFailure retry
    exact absurd ((congrArg Control.inFlight hc).symm.trans hf) Bool.false_ne_true
  | airQualityReady =>
    rw [← WeatherService.control_inFlight, ← WeatherService.control_authenticationStopped,
      WeatherService.airQualityReady_control]
    exact h.willing
  | airQualityFailed => exact h.willing

theorem Willing.step (h : w.Willing) (e : Event) : (w.step qt e).Willing := by
  refine ⟨h.sound.step e, ?_⟩
  obtain hsame | hh := step_service qt w e
  · rw [hsame]
    exact h.willing
  · exact willing_handled h hh

theorem start_willing : (start qt config cached now).Willing := by
  refine ⟨start_sound, ?_⟩
  obtain ⟨restored, hrestored, heq⟩ := WeatherService.initialized_eq qt config cached now
  have hstopped : restored.authenticationStopped = false :=
    congrArg Control.authenticationStopped hrestored
  rw [start, call_service, heq]
  split
  case isTrue =>
    obtain ⟨placed, hplaced, hc⟩ := restored.setLocation_eq qt
      { latitude := config.latitude, longitude := config.longitude } now
    rw [hplaced]
    exact willing_startOperation fun _ =>
      (congrArg Control.authenticationStopped hc).trans hstopped
  case isFalse => exact willing_startOperation fun _ => hstopped

section Steps

variable {f : SolarEvent → α} {lround : Double → Int64} {shortFormat : Int → QString}

/-- No step changes a matter of the event without announcing it, unless it leaves the event. -/
theorem rebind_solar_step (w : World) (e : Event)
    (h : w.service.solarEvent.Same (w.step qt e).service.solarEvent →
      f w.service.solarEvent = f (w.step qt e).service.solarEvent) :
    rebind .solarEventChanged (f ·.solarEvent) (f w.service.solarEvent) (w.sent qt e) =
      f (w.step qt e).service.solarEvent := by
  cases e with
  | refresh =>
    simp [sent, World.step, WeatherService.refresh]
  | timeout =>
    simp only [sent, World.step]
    split
    · simp
      rfl
    · rfl
  | solarTimeout now =>
    simp only [sent, World.step] at h ⊢
    split
    case isTrue htimer =>
      rw [if_pos htimer] at h
      exact WeatherService.rebind_updateNextSolarEventSent h
    case isFalse => rfl
  | localHourTimeout now =>
    simp only [sent, World.step, WeatherService.localHourSent]
    split
    · split <;> simp
    · rfl
  | resolved request location now =>
    simp only [sent, World.step] at h ⊢
    split
    case isTrue hr =>
      rw [if_pos hr] at h
      exact WeatherService.rebind_solar_setLocationSent h
    case isFalse => rfl
  | forecastReady request snapshot now =>
    simp only [sent, World.step] at h ⊢
    split
    case isTrue hr =>
      rw [if_pos hr] at h
      exact WeatherService.rebind_solar_publishSent h
    case isFalse => rfl
  | failed request diagnostic authenticationFailure retry =>
    simp only [sent, World.step]
    split <;> simp
  | airQualityReady airQuality =>
    simp [sent, World.step, WeatherService.airQualityReady]
    rfl
  | airQualityFailed diagnostic => rfl

theorem conditions_localHour {service : WeatherService}
    (h : ((service.updateTodayPrecipitationProbability now).scheduleLocalHourBoundary
        now).snapshot.todayPrecipitationProbabilityPercent.toRat =
      service.snapshot.todayPrecipitationProbabilityPercent.toRat) :
    ((service.updateTodayPrecipitationProbability now).scheduleLocalHourBoundary now).conditions
      lround shortFormat = service.conditions lround shortFormat := by
  obtain ⟨localHourTimer, heq⟩ :=
    (service.updateTodayPrecipitationProbability now).scheduleLocalHourBoundary_frame now
  rw [heq] at h ⊢
  simp only [WeatherService.conditions, h]
  rfl

/-- No step changes a property that `changed` announces without announcing it. -/
theorem Willing.rebind_conditions_step (h : w.Willing) (e : Event) :
    rebind .changed (·.conditions lround shortFormat) (w.service.conditions lround shortFormat)
      (w.sent qt e) = (w.step qt e).service.conditions lround shortFormat := by
  cases e with
  | refresh => exact WeatherService.rebind_startOperationSent (Or.inr rfl)
  | timeout =>
    simp only [sent, World.step]
    split
    · exact WeatherService.rebind_startOperationSent (Or.inr rfl)
    · rfl
  | solarTimeout now =>
    simp only [sent, World.step]
    split
    · rw [WeatherService.rebind_changed_updateNextSolarEventSent]
      rfl
    · rfl
  | localHourTimeout now =>
    simp only [sent, World.step, WeatherService.localHourSent]
    split
    case isTrue =>
      split
      case isTrue => rfl
      case isFalse hsame => exact (conditions_localHour (not_not.mp hsame)).symm
    case isFalse => rfl
  | resolved request location now =>
    simp only [sent, World.step]
    split
    case isTrue hr =>
      exact WeatherService.rebind_changed_setLocationSent (h.authenticationStopped hr.1)
    case isFalse => rfl
  | forecastReady request snapshot now =>
    simp only [sent, World.step]
    split
    · exact WeatherService.rebind_changed_publishSent
    · rfl
  | failed request diagnostic authenticationFailure retry =>
    simp only [sent, World.step]
    split <;> rfl
  | airQualityReady airQuality =>
    obtain ⟨saved, heq⟩ := WeatherService.saveCache_frame { w.service with
      snapshot := { w.service.snapshot with airQuality := some airQuality } }
    simp only [sent, World.step, call_service, WeatherService.airQualityReady]
    rw [heq]
    rfl
  | airQualityFailed diagnostic => rfl

end Steps

/-- The clock of the next event is not changed under it. -/
def KeepsClock (qt : QtText) (w : World) (e : Event) : Prop :=
  w.service.solarEvent.Same (w.step qt e).service.solarEvent →
    (w.step qt e).service.solarEvent.clock = w.service.solarEvent.clock

theorem localNextSolarEventTime_step {shortFormat : Int → QString} {w : World} {e : Event}
    (hclock : w.KeepsClock qt e)
    (hsame : w.service.solarEvent.Same (w.step qt e).service.solarEvent) :
    (w.step qt e).service.localNextSolarEventTime shortFormat =
      w.service.localNextSolarEventTime shortFormat := by
  have hmsecs : (w.step qt e).service.solarEvent.utc.msecs = w.service.solarEvent.utc.msecs := by
    simpa [QDateTime.same] using hsame.1
  have hvalid : (w.step qt e).service.solarEvent.utc.isValid = w.service.solarEvent.utc.isValid :=
    congrArg Option.isSome hmsecs
  have hinstant : (w.step qt e).service.solarEvent.utc.toMSecsSinceEpoch =
      w.service.solarEvent.utc.toMSecsSinceEpoch := congrArg (·.getD 0) hmsecs
  rw [WeatherService.localNextSolarEventTime_eq, WeatherService.localNextSolarEventTime_eq, hvalid,
    hinstant, hclock hsame]

instance KeepsClock.decidable (w : World) (e : Event) : Decidable (w.KeepsClock qt e) :=
  inferInstanceAs (Decidable ((_ = true ∧ _ = _) → _ = _))

/-- What a page shows after a run that is bound to a property and starts with its value. -/
def shown (qt : QtText) (w : World) (es : List Event) (signal : Signal)
    (read : WeatherService → α) : α :=
  rebind signal read (read w.service) (emitted (World.step qt) (World.sent qt) w es)

theorem shown_solar {f : SolarEvent → α} {Q : World → Event → Prop} {es : List Event}
    (hrun : Throughout (World.step qt) Q w es)
    (h : ∀ w e, Q w e → w.service.solarEvent.Same (w.step qt e).service.solarEvent →
      f w.service.solarEvent = f (w.step qt e).service.solarEvent) :
    w.shown qt es .solarEventChanged (f ·.solarEvent) =
      f (run (World.step qt) w es).service.solarEvent :=
  shown_run World.service (I := fun _ => True) hrun trivial (fun _ _ _ => trivial)
    fun w e hq _ => rebind_solar_step w e (h w e hq)

end World

/-- Summer time begins before the next sunrise, and the page shows it an hour early. -/
example :
    let start := World.start World.sampleQt World.sampleCoordinates none World.sampleTime
    let request : Request :=
      .forecast { latitude := World.sampleCoordinates.latitude, longitude := .ofInt 24 }
    let events := [.forecastReady request sampleSnapshot World.sampleTime, .refresh,
      .forecastReady request { sampleSnapshot with timezoneOffsetSeconds := 3600 } World.sampleTime]
    let service := (run (World.step World.sampleQt) start events).service
    start.shown World.sampleQt events .solarEventChanged
        (·.localNextSolarEventTime fun msecs => toString (msecs / 60000)) ≠
      service.localNextSolarEventTime fun msecs => toString (msecs / 60000) := by
  decide +kernel

end RpiDashboard.Weather
