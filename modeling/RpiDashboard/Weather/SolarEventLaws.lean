import Mathlib.Data.List.Basic
import RpiDashboard.Data.Least
import RpiDashboard.Weather.LocationLaws

/-! The next sunrise or sunset: in every run it is the least one after the last update. -/

namespace RpiDashboard.Weather

open Qt

section Selection

/-- The sunrises and sunsets that are valid and later than the last update, if there was one. -/
def upcoming (daily : List DailyForecast) (last : Option QDateTime) : List (QDateTime × QString) :=
  (solarEvents daily).filter fun event => event.1.isValid && last.all (·.lt event.1)

/-- When an event is, in milliseconds. -/
def instant (event : QDateTime × QString) : Int := event.1.toMSecsSinceEpoch

variable {now : QDateTime} {events : List (QDateTime × QString)} {selected : QDateTime × QString}

theorem foldl_selectSolarEvent (hselected : selected.1.isValid)
    (hevents : ∀ event ∈ events, event.1.isValid && now.lt event.1) :
    events.foldl (selectSolarEvent now) selected = events.foldl (lesser instant) selected := by
  induction events generalizing selected with
  | nil => rfl
  | cons event events ih =>
    obtain ⟨hevent, hevents⟩ := List.forall_mem_cons.mp hevents
    have hvalid : event.1.isValid := (Bool.and_eq_true _ _ ▸ hevent).1
    have hstep : selectSolarEvent now selected event = lesser instant selected event := by
      rw [selectSolarEvent, hevent, hselected]
      simp only [lesser, instant, QDateTime.lt, Bool.true_and, Bool.not_true, Bool.false_or,
        decide_eq_true_eq]
      congr
    rw [List.foldl_cons, List.foldl_cons, hstep]
    refine ih ?_ hevents
    unfold lesser
    split
    · exact hvalid
    · exact hselected

/-- Only the events that are upcoming count. -/
theorem foldl_upcoming (daily : List DailyForecast) (now : QDateTime) :
    (solarEvents daily).foldl (selectSolarEvent now) selected =
      (upcoming daily (some now)).foldl (selectSolarEvent now) selected := by
  rw [upcoming, List.foldl_filter]
  refine List.foldl_ext _ _ _ fun selected event _ => ?_
  rw [Option.all_some]
  split
  case isTrue => rfl
  case isFalse h =>
    rw [selectSolarEvent, Bool.eq_false_of_not_eq_true h, Bool.false_and, if_neg Bool.false_ne_true]

theorem forall_mem_upcoming {daily : List DailyForecast} :
    ∀ event ∈ upcoming daily (some now), event.1.isValid && now.lt event.1 :=
  fun _ hevent => (List.mem_filter.mp hevent).2

/-- What is selected: the least of the upcoming events, and nothing just if there is none. -/
theorem selected_eq (daily : List DailyForecast) (now : QDateTime) :
    ((solarEvents daily).foldl (selectSolarEvent now) ({}, "") = ({}, "") ∧
        upcoming daily (some now) = []) ∨
      Least instant (upcoming daily (some now))
        ((solarEvents daily).foldl (selectSolarEvent now) ({}, "")) := by
  rw [foldl_upcoming]
  have hevents : ∀ event ∈ upcoming daily (some now), _ := forall_mem_upcoming
  cases hu : upcoming daily (some now) with
  | nil => exact Or.inl ⟨rfl, rfl⟩
  | cons event events =>
    rw [hu] at hevents
    obtain ⟨hevent, hevents⟩ := List.forall_mem_cons.mp hevents
    have hfirst : selectSolarEvent now ({}, "") event = event := by
      rw [selectSolarEvent, hevent]
      rfl
    have hvalid : event.1.isValid := (Bool.and_eq_true _ _ ▸ hevent).1
    rw [List.foldl_cons, hfirst, foldl_selectSolarEvent hvalid hevents]
    exact Or.inr (least_foldl _ _ _)

end Selection

/-- The event that is shown is the least of those after the last update, if there are any, and
its timer expires when it is over. -/
structure ShowsNext (last : Option QDateTime) (service : WeatherService) : Prop where
  absent : service.nextSolarEventUtc.isValid = false ↔ upcoming service.snapshot.daily last = []
  least : service.nextSolarEventUtc.isValid → Least instant (upcoming service.snapshot.daily last)
    (service.nextSolarEventUtc, service.nextSolarEventKind)
  timer : service.nextSolarEventUtc.isValid → ∃ now ∈ last, ∃ delay,
    service.solarEventTimer = some delay ∧
      (now.toMSecsSinceEpoch + delay = service.nextSolarEventUtc.toMSecsSinceEpoch + 1 ∨
        delay = maximumDelay ∧
          now.toMSecsSinceEpoch + delay ≤ service.nextSolarEventUtc.toMSecsSinceEpoch)
  stopped : service.nextSolarEventUtc.isValid = false → service.solarEventTimer = none
  updated : last = none → service.snapshot.daily = []

namespace WeatherService

variable {qt : QtText} {service : WeatherService} {now : QDateTime}

theorem updateNextSolarEvent_shows (service : WeatherService) (hnow : now.isValid) :
    ShowsNext (some now) (service.updateNextSolarEvent now) := by
  have hselected := selected_eq service.snapshot.daily now
  unfold updateNextSolarEvent
  generalize (solarEvents service.snapshot.daily).foldl (selectSolarEvent now) ({}, "") = selected
    at hselected
  rcases hselected with ⟨rfl, hnone⟩ | hleast
  · exact ⟨iff_of_true rfl hnone, nofun, nofun, fun _ => rfl, nofun⟩
  · have hupcoming := forall_mem_upcoming selected hleast.1
    rw [Bool.and_eq_true] at hupcoming
    obtain ⟨hvalid, hlater⟩ := hupcoming
    have hne : upcoming service.snapshot.daily (some now) ≠ [] := List.ne_nil_of_mem hleast.1
    dsimp only
    simp only [hvalid, if_true]
    refine ⟨iff_of_false (by simp [hvalid]) hne, fun _ => hleast, fun _ => ⟨now, rfl, _, rfl, ?_⟩,
      fun h => absurd (h.symm.trans hvalid) (by decide), nofun⟩
    have hmsecs : now.msecsTo selected.1 =
        selected.1.toMSecsSinceEpoch - now.toMSecsSinceEpoch := by
      rw [QDateTime.msecsTo, hnow, hvalid]
      rfl
    rw [QDateTime.lt, decide_eq_true_eq] at hlater
    rw [hmsecs]
    unfold maximumDelay
    dsimp only
    omega

/-- What is shown of the next event, and what it is taken from. -/
def solarView (service : WeatherService) :
    List DailyForecast × QDateTime × QString × Option Int :=
  (service.snapshot.daily, service.nextSolarEventUtc, service.nextSolarEventKind,
    service.solarEventTimer)

theorem startOperation_solarView (manual : Bool) :
    (service.startOperation manual).solarView = service.solarView := by
  obtain ⟨_, _, _, _, _, _, _, _, heq⟩ := service.startOperation_frame manual
  rw [heq]
  rfl

theorem scheduleLocalHourBoundary_solarView :
    (service.scheduleLocalHourBoundary now).solarView = service.solarView := by
  obtain ⟨localHourTimer, heq⟩ := service.scheduleLocalHourBoundary_frame now
  rw [heq]
  rfl

theorem saveCache_solarView : service.saveCache.solarView = service.solarView := by
  obtain ⟨saved, heq⟩ := service.saveCache_frame
  rw [heq]
  rfl

theorem fail_solarView (diagnostic : QString) (authenticationFailure : Bool) (retry : Int) :
    (service.fail qt diagnostic authenticationFailure retry).solarView = service.solarView := by
  cases authenticationFailure <;> rfl

/-- The snapshot is of another place. -/
def dropsFor (qt : QtText) (service : WeatherService) (location : Location) : Bool :=
  service.snapshot.fetchedUtc.isValid &&
    service.snapshot.location.cacheKey qt != location.cacheKey qt

end WeatherService

theorem ShowsNext.same {last : Option QDateTime} {service service' : WeatherService}
    (h : ShowsNext last service) (heq : service'.solarView = service.solarView) :
    ShowsNext last service' := by
  simp only [WeatherService.solarView, Prod.mk.injEq] at heq
  obtain ⟨hdaily, hutc, hkind, htimer⟩ := heq
  constructor
  · rw [hutc, hdaily]
    exact h.absent
  · rw [hutc, hdaily, hkind]
    exact h.least
  · rw [hutc, htimer]
    exact h.timer
  · rw [hutc, htimer]
    exact h.stopped
  · rw [hdaily]
    exact h.updated

namespace WeatherService

variable {qt : QtText} {service : WeatherService} {now : QDateTime} {last : Option QDateTime}

theorem publish_shows (snapshot : Snapshot) (hnow : now.isValid) :
    ShowsNext (some now) (service.publish qt snapshot now) :=
  (updateNextSolarEvent_shows _ hnow).same (saveCache_solarView.trans rfl)

theorem restore_shows (cached : Snapshot) (hnow : now.isValid) :
    ShowsNext (some now) (service.restore cached now) :=
  (updateNextSolarEvent_shows _ hnow).same rfl

theorem setLocation_shows (location : Location) (hnow : now.isValid)
    (hdrops : service.dropsFor qt location) :
    ShowsNext (some now) (service.setLocation qt location now) := by
  refine ShowsNext.same ?_ (startOperation_solarView false)
  change ShowsNext (some now) (if service.dropsFor qt location then _ else _)
  rw [if_pos hdrops]
  exact updateNextSolarEvent_shows _ hnow

theorem setLocation_solarView (location : Location)
    (hkeeps : ¬ service.dropsFor qt location) :
    (service.setLocation qt location now).solarView = service.solarView := by
  refine (startOperation_solarView false).trans ?_
  change (if service.dropsFor qt location then _ else _ : WeatherService).solarView = _
  rw [if_neg hkeeps]
  rfl

theorem initialized_shows (config : WeatherConfig) (diagnostics : QString)
    (cached : Option Snapshot) (hnow : now.isValid) :
    ShowsNext (cached.map fun _ => now) (initialized qt config diagnostics cached now) := by
  have hrestored : ShowsNext (cached.map fun _ => now)
      (restored config diagnostics cached now) := by
    cases cached with
    | none => exact ⟨iff_of_true rfl rfl, nofun, nofun, fun _ => rfl, fun _ => rfl⟩
    | some cached => exact restore_shows cached hnow
  refine initialized_cases ?_ ?_ ?_
  · exact fun _ => hrestored.same rfl
  · intro _
    by_cases hdrops : (restored config diagnostics cached now).dropsFor qt
        { latitude := config.latitude, longitude := config.longitude }
    case pos =>
      cases cached with
      | none => cases hdrops
      | some cached => exact setLocation_shows _ hnow hdrops
    case neg => exact hrestored.same (setLocation_solarView _ hdrops)
  · exact hrestored.same (startOperation_solarView false)

end WeatherService

section Runs

variable {qt : QtText} {config : WeatherConfig}

/-- The reading of the clock in the handler of an event. -/
def Event.clock : Event → Option QDateTime
  | .solarTimeout now => some now
  | .localHourTimeout now => some now
  | .resolved _ _ now => some now
  | .forecastReady _ _ now => some now
  | _ => none

/-- The time at which the handler of an event calls `updateNextSolarEvent`, if it does. -/
def solarCall (qt : QtText) (w : World) : Event → Option QDateTime
  | .solarTimeout now => if w.service.solarEventTimer.isSome then some now else none
  | .resolved request location now =>
    if (request ∈ w.outstanding ∧ !request.isForecast) ∧ w.service.dropsFor qt location then
      some now
    else none
  | .forecastReady request _ now =>
    if request ∈ w.outstanding ∧ request.isForecast then some now else none
  | _ => none

/-- The world, and the time of the last call beside it. -/
def solarStep (qt : QtText) (timed : World × Option QDateTime) (e : Event) :
    World × Option QDateTime :=
  (timed.1.step qt e, (solarCall qt timed.1 e).or timed.2)

/-- A handler that changes the daily rows makes the call. -/
def UpdatesWhenChanged (qt : QtText) (timed : World × Option QDateTime) (e : Event) : Prop :=
  (timed.1.step qt e).service.snapshot.daily ≠ timed.1.service.snapshot.daily →
    (solarCall qt timed.1 e).isSome

variable {w : World} {e : Event} {t : QDateTime}

/-- A handler that does not make the call changes nothing of it. -/
theorem step_solarView (h : solarCall qt w e = none) :
    (w.step qt e).service.solarView = w.service.solarView := by
  rcases w.step_service qt e with heq | hhandled
  · rw [heq]
  generalize (w.step qt e).service = service at hhandled
  cases hhandled with
  | refresh => exact WeatherService.startOperation_solarView true
  | timeout => exact WeatherService.startOperation_solarView false
  | solarTimeout hactive =>
    rw [solarCall, if_pos hactive] at h
    cases h
  | localHourTimeout => exact WeatherService.scheduleLocalHourBoundary_solarView
  | @resolved request location now hr =>
    rw [solarCall, ite_eq_right_iff] at h
    exact WeatherService.setLocation_solarView location fun hdrops =>
      Option.some_ne_none now (h ⟨hr, hdrops⟩)
  | forecastReady hr =>
    rw [solarCall, if_pos hr] at h
    cases h
  | failed => exact WeatherService.fail_solarView _ _ _
  | airQualityReady => exact WeatherService.saveCache_solarView
  | airQualityFailed => rfl

/-- One that does shows the event after it. -/
theorem step_shows (h : solarCall qt w e = some t) (he : ∀ now ∈ e.clock, now.isValid) :
    ShowsNext (some t) (w.step qt e).service := by
  cases e with
  | solarTimeout now =>
    rw [solarCall, Option.ite_none_right_eq_some, Option.some_inj] at h
    obtain ⟨hactive, rfl⟩ := h
    rw [World.step, if_pos hactive]
    exact WeatherService.updateNextSolarEvent_shows _ (he now rfl)
  | resolved request location now =>
    rw [solarCall, Option.ite_none_right_eq_some, Option.some_inj] at h
    obtain ⟨⟨hr, hdrops⟩, rfl⟩ := h
    rw [World.step, if_pos hr]
    exact WeatherService.setLocation_shows location (he now rfl) hdrops
  | forecastReady request snapshot now =>
    rw [solarCall, Option.ite_none_right_eq_some, Option.some_inj] at h
    obtain ⟨hr, rfl⟩ := h
    rw [World.step, if_pos hr]
    exact WeatherService.publish_shows snapshot (he now rfl)
  | refresh | timeout | localHourTimeout _ | failed _ _ _ _ | airQualityReady _
  | airQualityFailed _ => cases h

theorem ShowsNext.step {timed : World × Option QDateTime} (h : ShowsNext timed.2 timed.1.service)
    (he : ∀ now ∈ e.clock, now.isValid) :
    ShowsNext (solarStep qt timed e).2 (solarStep qt timed e).1.service := by
  unfold solarStep
  cases hcall : solarCall qt timed.1 e with
  | none => exact h.same (step_solarView hcall)
  | some t => exact step_shows hcall he

theorem updatesWhenChanged (timed : World × Option QDateTime) (e : Event) :
    UpdatesWhenChanged qt timed e := by
  intro hchanged
  by_contra hcall
  exact hchanged (congrArg Prod.fst (step_solarView (Option.not_isSome_iff_eq_none.mp hcall)))

/-- In every run the event shown is the next one after the last call, which every handler makes that
changes the rows of the days. -/
theorem next_event_shown (qt : QtText) (config : WeatherConfig) (diagnostics : QString)
    (cached : Option Snapshot) {now : QDateTime} (hnow : now.isValid) {es : List Event}
    (hes : ∀ e ∈ es, ∀ t ∈ e.clock, t.isValid) :
    let opened := (World.opened qt config diagnostics cached now, cached.map fun _ => now)
    let timed := run (solarStep qt) opened es
    ShowsNext timed.2 timed.1.service ∧
      Throughout (solarStep qt) (UpdatesWhenChanged qt) opened es := by
  intro opened timed
  let shown (timed : World × Option QDateTime) : Prop := ShowsNext timed.2 timed.1.service
  have hopened : shown opened := WeatherService.initialized_shows config diagnostics cached hnow
  have hkeeps : ∀ timed, ∀ e ∈ es, shown timed → shown (solarStep qt timed e) :=
    fun timed e he h => ShowsNext.step h (hes e he)
  have htimed : shown timed := run_invariant hopened hkeeps
  constructor
  · exact htimed
  · exact throughout_of_forall fun timed e _ => updatesWhenChanged timed e

/-- A day of which the sunrise is an hour and the sunset two hours after the sample's time. -/
def sampleDay : DailyForecast where
  timestampUtc := World.sampleTime
  sunriseUtc := World.sampleTime.addSecs 3600
  sunsetUtc := World.sampleTime.addSecs 7200
  iconCode := "01d"
  minimumCelsius := .zero
  maximumCelsius := .zero
  precipitationProbabilityPercent := .zero

def sampleSnapshot : Snapshot where
  fetchedUtc := World.sampleTime
  daily := [sampleDay]

/-- The forecast arrives, and the sunrise passes. -/
def sampleEvents : List Event :=
  [.forecastReady
      (.forecast { latitude := World.sampleCoordinates.latitude, longitude := .ofInt 24 })
      sampleSnapshot World.sampleTime,
    .solarTimeout (World.sampleTime.addMSecs 3600001)]

theorem next_event_sunset :
    let opened := (World.opened World.sampleQt World.sampleCoordinates "" none World.sampleTime,
      none)
    let timed := run (solarStep World.sampleQt) opened sampleEvents
    timed.1.service.nextSolarEventUtc = World.sampleTime.addSecs 7200 ∧
      timed.1.service.nextSolarEventKind = "sunset" ∧
      ShowsNext (some (World.sampleTime.addMSecs 3600001)) timed.1.service := by
  have hclock : ∀ e ∈ sampleEvents, ∀ t ∈ e.clock, t.isValid := by
    simp only [sampleEvents, List.forall_mem_cons, Event.clock, Option.mem_some_iff, forall_eq',
      List.not_mem_nil, false_implies, implies_true, and_true]
    exact ⟨rfl, rfl⟩
  have hnow : World.sampleTime.isValid := rfl
  intro opened timed
  have hlast : timed.2 = some (World.sampleTime.addMSecs 3600001) := by decide +kernel
  refine ⟨by decide +kernel, by decide +kernel, ?_⟩
  rw [← hlast]
  exact (next_event_shown World.sampleQt World.sampleCoordinates "" none hnow hclock).1

end Runs

end RpiDashboard.Weather
