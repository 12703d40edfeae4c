import RpiDashboard.Weather.WeatherService

/-! The weather service among its timers and providers.  Every location or forecast request
ends in one terminal signal: `resolved`, `forecastReady` or `failed`. -/

namespace RpiDashboard.Weather

open Qt

inductive Event
  | refresh : Event
  | timeout : Event
  | solarTimeout : QDateTime → Event
  | localHourTimeout : QDateTime → Event
  | resolved : Request → Location → QDateTime → Event
  | forecastReady : Request → Snapshot → QDateTime → Event
  | failed : Request → QString → Bool → Int → Event
  | airQualityReady : AirQuality → Event
  | airQualityFailed : QString → Event

/-- The service, and the requests that still have to end. -/
structure World where
  service : WeatherService
  outstanding : List Request := []

namespace World

/-- The service moves on; what it has requested meanwhile is outstanding. -/
def call (w : World) (service : WeatherService) : World :=
  { service, outstanding := w.outstanding ++ service.requests.drop w.service.requests.length }

def answered (w : World) (request : Request) : World :=
  { w with outstanding := w.outstanding.erase request }

/-- A timer that is not active does not expire, and nothing answers a request twice: such
events change nothing. -/
def step (qt : QtText) (w : World) : Event → World
  | .refresh => w.call w.service.refresh
  | .timeout =>
    if w.service.refreshTimer.isSome then
      w.call ({ w.service with refreshTimer := none }.startOperation false)
    else w
  | .solarTimeout now =>
    if w.service.solarEventTimer.isSome then w.call (w.service.updateNextSolarEvent now) else w
  | .localHourTimeout now =>
    if w.service.localHourTimer.isSome then
      w.call ((w.service.updateTodayPrecipitationProbability now).scheduleLocalHourBoundary now)
    else w
  | .resolved request location now =>
    if request ∈ w.outstanding ∧ !request.isForecast then
      (w.answered request).call (w.service.setLocation qt location now)
    else w
  | .forecastReady request snapshot now =>
    if request ∈ w.outstanding ∧ request.isForecast then
      (w.answered request).call (w.service.publish qt snapshot now)
    else w
  | .failed request diagnostic authenticationFailure retryAfterSeconds =>
    if request ∈ w.outstanding then
      (w.answered request).call
        (w.service.fail qt diagnostic authenticationFailure retryAfterSeconds)
    else w
  | .airQualityReady airQuality => w.call (w.service.airQualityReady airQuality)
  | .airQualityFailed diagnostic => w.call (w.service.airQualityFailed qt diagnostic)

/-- A configured service that lacks no credential. -/
def start (qt : QtText) (config : WeatherConfig) (cached : Option Snapshot) (now : QDateTime) :
    World :=
  { service := { config } : World }.call (.initialized qt config "" cached now)

/-- The requests that a run issues. -/
def issued (qt : QtText) (w : World) (es : List Event) : List Request :=
  (run (step qt) w es).service.requests.drop w.service.requests.length

end World

end RpiDashboard.Weather
