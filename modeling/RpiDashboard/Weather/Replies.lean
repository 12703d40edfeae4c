import RpiDashboard.Weather.OneCall
import RpiDashboard.Weather.RetryLaws

/-! The providers (`weather/weather_provider.cpp`): every reply of the network, when it has
finished, is one signal to the service. -/

namespace RpiDashboard.Weather

open Numeric Qt

/-- What a handler of `finished` finds: whether more than 1 MiB have come, the error and the status
(0 if there is none), the header `Retry-After` and the body. -/
structure Reply where
  exceededLimit : Bool := false
  failed : Bool := false
  status : Int := 200
  retryAfter : QByteArray := []
  body : QByteArray := []

def replyDiagnostic (status : Int) (operation : QString) : QString :=
  if status = 401 ∨ status = 403 then operation ++ " authentication failed"
  else if status = 429 then operation ++ " rate limit reached"
  else operation ++ " request failed"

def aqiCategory (index : Int) : QString :=
  let categories := ["Good", "Fair", "Moderate", "Poor", "Very poor"]
  if 1 ≤ index ∧ index ≤ categories.length then categories.getD (index - 1).toNat ""
  else "Unavailable"

def parseAirQuality (document : QJsonValue) : Except QString AirQuality :=
  let entry := firstObject (document.toObject.value "list")
  let index := ((entry.value "main").toObject.value "aqi").toInt
  if index < 1 ∨ 5 < index then .error "invalid aqi"
  else .ok
    { index
      category := aqiCategory index
      pm25MicrogramsPerCubicMetre :=
        some ((entry.value "components").toObject.value "pm2_5").toDouble }

section Finished

variable (qt : QtText) (number : QString → Option Double) (toInt : QString → Option Int32)

/-- A body that has come whole. -/
def Reply.content (reply : Reply) : Option QJsonValue :=
  if reply.exceededLimit || reply.failed then none else some (replyDocument qt reply.body)

/-- What a handler of `finished` makes of its reply. -/
def Reply.finished {α : Type} (reply : Reply) (parse : QJsonValue → Except QString α)
    (exceeded failure invalid : Event) (ready : α → Event) : Event :=
  if reply.exceededLimit then exceeded
  else if reply.failed then failure
  else
    match parse (replyDocument qt reply.body) with
    | .ok a => ready a
    | .error _ => invalid

def forecastFinished (location : Location) (reply : Reply) (now : QDateTime) : Event :=
  let request : Request := .forecast location
  reply.finished qt (fun document => parseOneCall document location now)
    (.failed request "Weather response exceeded 1 MiB" false 0)
    (handleNetworkFailure toInt request (replyDiagnostic reply.status "Weather") reply.status
      reply.retryAfter false)
    (.failed request "Weather response was invalid" false 0)
    fun snapshot => .forecastReady request snapshot now

def airQualityFinished (location : Location) (reply : Reply) : Event :=
  reply.finished qt parseAirQuality
    (.airQualityFailed "Air quality response exceeded 1 MiB")
    (handleNetworkFailure toInt (.forecast location) (replyDiagnostic reply.status "Air quality")
      reply.status reply.retryAfter true)
    (.airQualityFailed "Air quality response was invalid")
    .airQualityReady

def geocodingFinished (city : QString) (reply : Reply) (now : QDateTime) : Event :=
  let request : Request := .geocode city
  reply.finished qt parseGeocoding
    (.failed request "Geocoding response exceeded 1 MiB" false 0)
    (.failed request (replyDiagnostic reply.status "Geocoding")
      (reply.status = 401 || reply.status = 403) 0)
    (.failed request "Geocoding response was invalid" false 0)
    fun location => .resolved request location now

def locationFinished (reply : Reply) (now : QDateTime) : Event :=
  reply.finished qt (parseLocation number)
    (.failed .locate "Automatic location response exceeded 1 MiB" false 0)
    (.failed .locate "Automatic location request failed"
      (reply.status = 401 || reply.status = 403) 0)
    (.failed .locate "Automatic location response was invalid" false 0)
    fun location => .resolved .locate location now

end Finished

/-- The service with its providers on the network: a forecast is requested together with the air
quality of its place. -/
structure Client where
  world : World
  /-- The places whose air quality is still to come. -/
  airs : List Location := []

/-- What happens to the service: a timer, the user, or a reply. -/
inductive Arrival
  | refresh : Arrival
  | timeout : Arrival
  | solarTimeout : QDateTime → Arrival
  | localHourTimeout : QDateTime → Arrival
  | forecast : Location → Reply → QDateTime → Arrival
  | airQuality : Location → Reply → Arrival
  | geocoding : QString → Reply → QDateTime → Arrival
  | located : Reply → QDateTime → Arrival

section Arrivals

variable (qt : QtText) (number : QString → Option Double) (toInt : QString → Option Int32)

def Arrival.event : Arrival → Event
  | .refresh => .refresh
  | .timeout => .timeout
  | .solarTimeout now => .solarTimeout now
  | .localHourTimeout now => .localHourTimeout now
  | .forecast location reply now => forecastFinished qt toInt location reply now
  | .airQuality location reply => airQualityFinished qt toInt location reply
  | .geocoding city reply now => geocodingFinished qt city reply now
  | .located reply now => locationFinished qt number reply now

/-- A reply that is too long, that has failed, or that cannot be read. -/
def Arrival.Unreadable : Arrival → Prop
  | .forecast location reply now =>
    ∀ document ∈ reply.content qt, ∀ snapshot, parseOneCall document location now ≠ .ok snapshot
  | .airQuality _ reply =>
    ∀ document ∈ reply.content qt, ∀ airQuality, parseAirQuality document ≠ .ok airQuality
  | .geocoding _ reply _ =>
    ∀ document ∈ reply.content qt, ∀ location, parseGeocoding document ≠ .ok location
  | .located reply _ =>
    ∀ document ∈ reply.content qt, ∀ location, parseLocation number document ≠ .ok location
  | _ => False

def Request.place : Request → Option Location
  | .forecast location => some location
  | _ => none

namespace Client

/-- With every forecast that the service has requested meanwhile, its air quality is requested. -/
def next (c : Client) (world : World) : Client where
  world := world
  airs := c.airs ++
    (world.service.requests.drop c.world.service.requests.length).filterMap Request.place

/-- Nothing answers a request twice. -/
def step (c : Client) (arrival : Arrival) : Client :=
  let world := c.world.step qt (arrival.event qt number toInt)
  match arrival with
  | .airQuality location _ =>
    if location ∈ c.airs then { c with airs := c.airs.erase location }.next world else c
  | _ => c.next world

def start (config : WeatherConfig) (cached : Option Snapshot) (now : QDateTime) : Client :=
  let world := World.start qt config cached now
  { world, airs := world.service.requests.filterMap Request.place }

end Client

end Arrivals

end RpiDashboard.Weather
