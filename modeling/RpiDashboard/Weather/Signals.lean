import RpiDashboard.Data.Bindings
import RpiDashboard.Weather.Operations
import RpiDashboard.Weather.WindDirectionLaws

/-! The signals of the weather service, each with the service as it is when it is sent, and the
properties that are read again then (`weather/weather_service.h`). -/

namespace RpiDashboard.Weather

open Numeric Qt

inductive Signal
  | changed | solarEventChanged
  deriving DecidableEq

abbrev Message := Signal × WeatherService

/-- The text of the time of day that a clock shows. -/
def timeText (shortFormat : Int → QString) (t : QDateTime) : QString :=
  shortFormat (t.localMSecs % 86400000)

/-- The properties that `changed` announces; the probability is the number it stands for. -/
structure Conditions where
  state : ServiceState
  stale : Bool
  lastSuccessUtc : QDateTime
  diagnostics : QString
  city : QString
  country : QString
  condition : QString
  iconCode : QString
  temperatureCelsius : Double
  feelsLikeCelsius : Double
  highCelsius : Double
  lowCelsius : Double
  humidityPercent : Double
  windSpeedKmh : Double
  windDirection : Option QString
  airQualityIndex : Int
  airQualityCategory : QString
  localSunset : QString
  todayPrecipitationKind : QString
  todayPrecipitationProbabilityPercent : ℚ

namespace WeatherService

section Properties

variable (lround : Double → Int64) (shortFormat : Int → QString)

def conditions (service : WeatherService) : Conditions :=
  let snapshot := service.snapshot
  let current := snapshot.current
  { state := service.state
    stale := service.stale
    lastSuccessUtc := snapshot.fetchedUtc
    diagnostics := service.diagnostics
    city := snapshot.location.city
    country := snapshot.location.country
    condition := current.condition
    iconCode := current.iconCode
    temperatureCelsius := current.temperatureCelsius
    feelsLikeCelsius := current.feelsLikeCelsius
    highCelsius := current.highCelsius
    lowCelsius := current.lowCelsius
    humidityPercent := current.humidityPercent
    windSpeedKmh := current.windSpeedKmh
    windDirection := service.windDirection lround
    airQualityIndex := (snapshot.airQuality.map AirQuality.index).getD 0
    airQualityCategory := (snapshot.airQuality.map AirQuality.category).getD ""
    localSunset :=
      if snapshot.sunsetUtc.isValid then
        timeText shortFormat (snapshot.sunsetUtc.addSecs snapshot.timezoneOffsetSeconds)
      else ""
    todayPrecipitationKind := snapshot.todayPrecipitationKind
    todayPrecipitationProbabilityPercent := snapshot.todayPrecipitationProbabilityPercent.toRat }

def localNextSolarEventTime (service : WeatherService) : QString :=
  if service.nextSolarEventUtc.isValid then
    timeText shortFormat (service.nextSolarEventUtc.addSecs service.snapshot.timezoneOffsetSeconds)
  else ""

end Properties

section Handlers

variable (qt : QtText) (service : WeatherService) (now : QDateTime)

def updateNextSolarEventSent : List Message :=
  let after := service.updateNextSolarEvent now
  if !after.nextSolarEventUtc.same service.nextSolarEventUtc ||
      after.nextSolarEventKind ≠ service.nextSolarEventKind then [(.solarEventChanged, after)]
  else []

def startOperationSent (manual : Bool) : List Message :=
  if service.inFlight then []
  else if !manual && service.authenticationStopped then []
  else [(.changed, service.startOperation manual)]

def setLocationSent (location : Location) : List Message :=
  let service := { service with
    inFlight := false, operation := .none, location, locationResolved := true }
  if service.snapshot.fetchedUtc.isValid &&
      service.snapshot.location.cacheKey qt != location.cacheKey qt then
    { service with
      snapshot := {}
      hourlyModel := service.hourlyModel.replace [] 0
      dailyModel := .replace [] 0
      stale := false }.updateNextSolarEventSent now ++
        (service.dropSnapshot now).startOperationSent false
  else service.startOperationSent false

def publishSent (snapshot : Snapshot) : List Message :=
  let merged := { service with snapshot := mergeAirQuality qt service.snapshot snapshot }
  let merged := merged.updateTodayPrecipitationProbability now
  let merged := merged.scheduleLocalHourBoundary now
  let merged := { merged with
    hourlyModel :=
      merged.hourlyModel.replace merged.snapshot.hourly merged.snapshot.timezoneOffsetSeconds
    dailyModel := .replace merged.snapshot.daily merged.snapshot.timezoneOffsetSeconds }
  merged.updateNextSolarEventSent now ++ [(.changed, service.publish qt snapshot now)]

/-- A change of the value is announced, of whatever else is recomputed nothing. -/
def localHourSent : List Message :=
  let after := (service.updateTodayPrecipitationProbability now).scheduleLocalHourBoundary now
  if after.snapshot.todayPrecipitationProbabilityPercent.toRat ≠
      service.snapshot.todayPrecipitationProbabilityPercent.toRat then [(.changed, after)]
  else []

end Handlers

end WeatherService

namespace World

variable (qt : QtText)

/-- The signals of the handler that an event calls, in order. -/
def sent (w : World) : Event → List Message
  | .refresh => w.service.startOperationSent true
  | .timeout =>
    if w.service.refreshTimer.isSome then
      { w.service with refreshTimer := none }.startOperationSent false
    else []
  | .solarTimeout now =>
    if w.service.solarEventTimer.isSome then w.service.updateNextSolarEventSent now else []
  | .localHourTimeout now =>
    if w.service.localHourTimer.isSome then w.service.localHourSent now else []
  | .resolved request location now =>
    if request ∈ w.outstanding ∧ !request.isForecast then
      w.service.setLocationSent qt now location
    else []
  | .forecastReady request snapshot now =>
    if request ∈ w.outstanding ∧ request.isForecast then w.service.publishSent qt now snapshot
    else []
  | .failed request diagnostic authenticationFailure retryAfterSeconds =>
    if request ∈ w.outstanding then
      [(.changed, w.service.fail qt diagnostic authenticationFailure retryAfterSeconds)]
    else []
  | .airQualityReady airQuality =>
    [(.changed, { w.service with
      snapshot := { w.service.snapshot with airQuality := some airQuality } })]
  | .airQualityFailed diagnostic => [(.changed, w.service.airQualityFailed qt diagnostic)]

end World

end RpiDashboard.Weather
