import Mathlib.Tactic.NormNum
import RpiDashboard.Numeric.DoubleLaws
import RpiDashboard.Weather.OperationsLaws
import RpiDashboard.Weather.WeatherProvider
import RpiDashboard.Weather.WeatherServiceLaws

/-! Where a forecast is requested for: the configured coordinates, or what a location
provider replied. -/

namespace RpiDashboard.Weather

open Numeric Qt

structure Location.Valid (location : Location) : Prop where
  latitude : location.latitude.Within 90
  longitude : location.longitude.Within 180

section Parsing

variable {latitude longitude : Double} {toml : Toml} {config rest : WeatherConfig}
  {contents : QByteArray} {node : toml.Node} {number : QString → Option Double}
  {document : QJsonValue} {location : Location}

theorem outOfRange_eq_false_iff : outOfRange latitude longitude = false ↔
    (latitude.isNaN ∨ latitude.Within 90) ∧ (longitude.isNaN ∨ longitude.Within 180) := by
  have hbound {bound : ℚ} (h : bound < 2 ^ 8) : bound < 2 ^ 1024 :=
    h.trans (pow_lt_pow_right₀ one_lt_two (by decide))
  have hlatitude : latitude.less (.ofInt (-90)) = false ∧
      (Double.ofInt 90).less latitude = false ↔ latitude.isNaN ∨ latitude.Within 90 :=
    Double.not_rejected_iff (by decide +kernel) (by decide +kernel) (by decide +kernel)
      (by decide +kernel) (hbound (by norm_num))
  have hlongitude : longitude.less (.ofInt (-180)) = false ∧
      (Double.ofInt 180).less longitude = false ↔ longitude.isNaN ∨ longitude.Within 180 :=
    Double.not_rejected_iff (by decide +kernel) (by decide +kernel) (by decide +kernel)
      (by decide +kernel) (hbound (by norm_num))
  rw [← hlatitude, ← hlongitude]
  simp [outOfRange, and_assoc]

/-- Coordinates that are not rejected are valid unless one is a NaN. -/
theorem valid_iff_of_not_outOfRange (h : outOfRange location.latitude location.longitude = false) :
    location.Valid ↔ location.latitude.isNaN = false ∧ location.longitude.isNaN = false := by
  obtain ⟨hlatitude, hlongitude⟩ := outOfRange_eq_false_iff.mp h
  constructor
  · exact fun hv => ⟨Double.not_isNaN_of_isFinite hv.latitude.isFinite,
      Double.not_isNaN_of_isFinite hv.longitude.isFinite⟩
  · rintro ⟨hla, hlo⟩
    exact ⟨hlatitude.resolve_left (by simp [hla]), hlongitude.resolve_left (by simp [hlo])⟩

theorem bind_eq_ok {ε α β : Type} {x : Except ε α} {f : α → Except ε β} {b : β} :
    x >>= f = .ok b ↔ ∃ a, x = .ok a ∧ f a = .ok b := by
  cases x with
  | error e => exact ⟨nofun, nofun⟩
  | ok a => exact ⟨fun h => ⟨a, rfl, h⟩, fun ⟨_, rfl, h⟩ => h⟩

theorem require_eq_ok {c : Prop} [Decidable c] {text : QString} {u : Unit} :
    require c text = .ok u ↔ c := by
  unfold require
  split <;> simp [*]

theorem required_eq_ok {α : Type} {value : Option α} {text : QString} {a : α} :
    required value text = .ok a ↔ value = some a := by
  cases value <;> simp [required]

/-- The table `[weather.location]` of a configuration. -/
def Toml.locationTable (toml : Toml) (contents : QByteArray) : Option toml.Node := do
  let document ← (toml.parse contents).toOption
  let weather ← toml.tableAt document "weather"
  toml.tableAt weather "location"

/-- A coordinate of the configuration. -/
def Toml.coordinate (toml : Toml) (contents : QByteArray) (key : QString) : Option Double :=
  (toml.locationTable contents).bind fun location => toml.doubleAt location key

theorem parseLocationTable_coordinates (h : parseLocationTable toml rest node = .ok config)
    (hm : config.locationMode = .coordinates) :
    toml.doubleAt node "latitude" = some config.latitude ∧
      toml.doubleAt node "longitude" = some config.longitude ∧
      outOfRange config.latitude config.longitude = false := by
  unfold parseLocationTable at h
  dsimp only at h
  split at h
  case h_1 latitude longitude hlatitude hlongitude =>
    simp only [bind_eq_ok, require_eq_ok] at h
    obtain ⟨-, -, -, hrange, h⟩ := h
    obtain rfl := Except.ok.inj h
    exact ⟨hlatitude, hlongitude, by simpa using hrange⟩
  case h_2 =>
    split at h
    · obtain rfl := Except.ok.inj h
      cases hm
    · simp only [bind_eq_ok] at h
      obtain ⟨-, -, h⟩ := h
      obtain rfl := Except.ok.inj h
      cases hm
  case h_3 => cases h

theorem parseWeatherConfig_coordinates (h : parseWeatherConfig toml contents = .ok config)
    (hm : config.locationMode = .coordinates) :
    toml.coordinate contents "latitude" = some config.latitude ∧
      toml.coordinate contents "longitude" = some config.longitude ∧
      outOfRange config.latitude config.longitude = false := by
  simp only [parseWeatherConfig, bind_eq_ok, require_eq_ok, required_eq_ok] at h
  obtain ⟨document, hdocument, weather, hweather, -, -, -, -, node, hnode, h⟩ := h
  have hparse : toml.parse contents = .ok document := by
    cases hp : toml.parse contents with
    | error e => simp [hp, Except.mapError] at hdocument
    | ok d => simpa [hp, Except.mapError] using hdocument
  have htable : toml.locationTable contents = some node := by
    simp [Toml.locationTable, hparse, Except.toOption, hweather, hnode]
  simpa [Toml.coordinate, htable] using parseLocationTable_coordinates h hm

theorem requiredNumber_eq_ok {object : QJsonObject} {name : QString} {d : Double} :
    requiredNumber object name = .ok d ↔
      (object.value name).isDouble ∧ (object.value name).toDouble = d := by
  unfold requiredNumber
  dsimp only
  split <;> simp [*]

/-- The first entry of a geocoding reply. -/
def geocodedEntry (document : QJsonValue) : QJsonObject :=
  (document.toArray.headD .undefined).toObject

/-- A place is taken from a geocoding reply as it stands. -/
theorem parseGeocoding_valid_iff (h : parseGeocoding document = .ok location) :
    location.Valid ↔ ((geocodedEntry document).value "lat").toDouble.Within 90 ∧
      ((geocodedEntry document).value "lon").toDouble.Within 180 := by
  have hcopied : location.latitude = ((geocodedEntry document).value "lat").toDouble ∧
      location.longitude = ((geocodedEntry document).value "lon").toDouble := by
    unfold parseGeocoding at h
    split at h
    · cases h
    case h_2 first others heq =>
      simp only [bind_eq_ok, requiredNumber_eq_ok] at h
      obtain ⟨-, ⟨-, rfl⟩, -, ⟨-, rfl⟩, h⟩ := h
      obtain rfl := Except.ok.inj h
      simp [geocodedEntry, heq]
  rw [← hcopied.1, ← hcopied.2]
  exact ⟨fun h => ⟨h.latitude, h.longitude⟩, fun h => ⟨h.1, h.2⟩⟩

/-- A coordinate of an IP geolocation reply. -/
def locatedCoordinate (number : QString → Option Double) (document : QJsonValue) (key : QString) :
    Option Double :=
  (document.toObject.value key).toVariantDouble number

theorem parseLocation_coordinates (h : parseLocation number document = .ok location) :
    locatedCoordinate number document "latitude" = some location.latitude ∧
      locatedCoordinate number document "longitude" = some location.longitude ∧
      outOfRange location.latitude location.longitude = false := by
  unfold parseLocation at h
  dsimp only at h
  split at h
  case h_1 latitude longitude hlatitude hlongitude =>
    split at h
    case isTrue => cases h
    case isFalse hrange =>
      obtain rfl := Except.ok.inj h
      exact ⟨hlatitude, hlongitude, by simpa using hrange⟩
  case h_2 => cases h

end Parsing

section Placement

variable {qt : QtText} {P : Location → Prop} {service service' : WeatherService} {now : QDateTime}

/-- The place and the requests, of which only `setLocation` and `startOperation` change any. -/
def WeatherService.placement (service : WeatherService) : Location × Bool × List Request :=
  (service.location, service.locationResolved, service.requests)

/-- The resolved place, and every place a forecast has been requested for, is `P`. -/
structure Placed (P : Location → Prop) (service : WeatherService) : Prop where
  location : service.locationResolved → P service.location
  requested : ∀ place, .forecast place ∈ service.requests → P place

theorem Placed.same (h : Placed P service) (heq : service'.placement = service.placement) :
    Placed P service' := by
  simp only [WeatherService.placement, Prod.mk.injEq] at heq
  obtain ⟨hlocation, hresolved, hrequests⟩ := heq
  constructor
  · rw [hresolved, hlocation]
    exact h.location
  · rw [hrequests]
    exact h.requested

theorem scheduleLocalHourBoundary_placement :
    (service.scheduleLocalHourBoundary now).placement = service.placement := by
  obtain ⟨localHourTimer, heq⟩ := service.scheduleLocalHourBoundary_frame now
  rw [heq]
  rfl

theorem saveCache_placement : service.saveCache.placement = service.placement := by
  obtain ⟨saved, heq⟩ := service.saveCache_frame
  rw [heq]
  rfl

theorem publish_placement {snapshot : Snapshot} :
    (service.publish qt snapshot now).placement = service.placement := by
  obtain ⟨_, _, _, _, _, _, _, _, heq⟩ := service.publish_frame now snapshot
  rw [heq]
  rfl

theorem restore_placement {cached : Snapshot} :
    (service.restore cached now).placement = service.placement := by
  obtain ⟨_, _, _, _, _, _, _, _, heq⟩ := service.restore_frame now cached
  rw [heq]
  rfl

theorem fail_placement (diagnostic : QString) (authenticationFailure : Bool) (retry : Int) :
    (service.fail qt diagnostic authenticationFailure retry).placement = service.placement := by
  cases authenticationFailure <;> rfl

theorem Placed.startOperation (h : Placed P service) (manual : Bool) :
    Placed P (service.startOperation manual) := by
  unfold WeatherService.startOperation
  split
  · exact h
  split
  · exact h
  · have hrequested : ∀ place, .forecast place ∈ service.requests ++ [service.nextRequest] →
        P place := by
      intro place hplace
      rcases List.mem_append.mp hplace with hplace | hplace
      · exact h.requested place hplace
      · have heq : Request.forecast place = service.nextRequest := List.mem_singleton.mp hplace
        unfold WeatherService.nextRequest at heq
        split at heq
        case isTrue hresolved =>
          obtain rfl := Request.forecast.inj heq
          exact h.location hresolved
        case isFalse => split at heq <;> cases heq
    cases manual with
    | false => exact ⟨h.location, hrequested⟩
    | true => exact ⟨h.location, hrequested⟩

theorem Placed.setLocation (h : Placed P service) {location : Location} (hl : P location) :
    Placed P (service.setLocation qt location now) := by
  unfold WeatherService.setLocation
  refine Placed.startOperation ?_ false
  split <;> exact ⟨fun _ => hl, h.requested⟩

theorem Placed.initialized (config : WeatherConfig) (diagnostics : QString)
    (cached : Option Snapshot)
    (h : config.locationMode = .coordinates →
      P { latitude := config.latitude, longitude := config.longitude }) :
    Placed P (.initialized qt config diagnostics cached now) := by
  have hnew : Placed P { config, diagnostics } := ⟨nofun, nofun⟩
  have hrestored : Placed P (WeatherService.restored config diagnostics cached now) := by
    cases cached with
    | none => exact hnew
    | some cached => exact hnew.same restore_placement
  refine WeatherService.initialized_cases ?_ ?_ ?_
  · exact fun _ => ⟨hrestored.location, hrestored.requested⟩
  · exact fun hm => hrestored.setLocation (h hm)
  · exact hrestored.startOperation false

/-- What holds of every place that resolves holds of every place requested. -/
theorem Placed.step {w : World} (h : Placed P w.service) {e : Event}
    (he : ∀ request location now, e = .resolved request location now → request ∈ w.outstanding →
      P location) : Placed P (w.step qt e).service := by
  rcases w.step_service qt e with heq | hhandled
  · rw [heq]
    exact h
  generalize (w.step qt e).service = service at hhandled
  cases hhandled with
  | refresh => exact h.startOperation true
  | timeout =>
    have hstopped : Placed P { w.service with refreshTimer := none } := h.same rfl
    exact hstopped.startOperation false
  | solarTimeout => exact h.same rfl
  | localHourTimeout => exact h.same scheduleLocalHourBoundary_placement
  | resolved hr => exact h.setLocation (he _ _ _ rfl hr.1)
  | forecastReady => exact h.same publish_placement
  | failed => exact h.same (fail_placement _ _ _)
  | airQualityReady => exact h.same saveCache_placement
  | airQualityFailed => exact h.same rfl

end Placement

section Replies

def Event.isResolved : Event → Bool
  | .resolved .. => true
  | _ => false

/-- What reaches the service: a body from a location provider, or any other event. -/
inductive Incoming
  | geocoded : QByteArray → QDateTime → Incoming
  | located : QByteArray → QDateTime → Incoming
  | other : (e : Event) → e.isResolved = false → Incoming

variable (qt : QtText) (number : QString → Option Double) (config : WeatherConfig)

namespace Incoming

def event : Incoming → Event
  | .geocoded body now =>
    match parseGeocoding (replyDocument qt body) with
    | .ok location => .resolved (.geocode config.city) location now
    | .error _ => .failed (.geocode config.city) "Geocoding response was invalid" false 0
  | .located body now =>
    match parseLocation number (replyDocument qt body) with
    | .ok location => .resolved .locate location now
    | .error _ => .failed .locate "Automatic location response was invalid" false 0
  | .other e _ => e

/-- If it is the reply that is waited for, its coordinates are in range, or no NaN where
they are checked. -/
def InRange (w : World) : Incoming → Prop
  | .geocoded body _ => .geocode config.city ∈ w.outstanding →
    ((geocodedEntry (replyDocument qt body)).value "lat").toDouble.Within 90 ∧
      ((geocodedEntry (replyDocument qt body)).value "lon").toDouble.Within 180
  | .located body _ => .locate ∈ w.outstanding →
    ∀ key ∈ ["latitude", "longitude"], ∀ d,
      locatedCoordinate number (replyDocument qt body) key = some d → d.isNaN = false
  | .other _ _ => True

end Incoming

namespace World

/-- The service as it is constructed; `diagnostics` is what the credentials lack. -/
def opened (diagnostics : QString) (cached : Option Snapshot) (now : QDateTime) : World :=
  { service := { config } : World }.call (.initialized qt config diagnostics cached now)

def receive (w : World) (incoming : Incoming) : World :=
  w.step qt (incoming.event qt number config)

variable {qt number config} {toml : Toml} {contents : QByteArray} {diagnostics : QString}
  {cached : Option Snapshot} {now : QDateTime} {incomings : List Incoming}

theorem placed_receive {w : World} {incoming : Incoming} (h : Placed Location.Valid w.service)
    (hin : incoming.InRange qt number config w) :
    Placed Location.Valid (w.receive qt number config incoming).service := by
  refine h.step fun request location now he hr => ?_
  cases incoming with
  | geocoded body now =>
    simp only [Incoming.event] at he
    split at he
    case h_1 place hplace =>
      obtain ⟨rfl, rfl, -⟩ := Event.resolved.inj he
      exact (parseGeocoding_valid_iff hplace).mpr (hin hr)
    case h_2 => cases he
  | located body now =>
    simp only [Incoming.event] at he
    split at he
    case h_1 place hplace =>
      obtain ⟨rfl, rfl, -⟩ := Event.resolved.inj he
      obtain ⟨hlatitude, hlongitude, hrange⟩ := parseLocation_coordinates hplace
      exact (valid_iff_of_not_outOfRange hrange).mpr
        ⟨hin hr "latitude" (by simp) _ hlatitude, hin hr "longitude" (by simp) _ hlongitude⟩
    case h_2 => cases he
  | other e hother =>
    simp only [Incoming.event] at he
    simp [he, Event.isResolved] at hother

/-- A forecast is requested for valid coordinates only, if the configuration has no NaN for
one, nor a geolocation reply, and if those of a geocoding reply are in range. -/
theorem requested_valid (h : parseWeatherConfig toml contents = .ok config)
    (hconfig : ∀ key ∈ ["latitude", "longitude"], ∀ d,
      toml.coordinate contents key = some d → d.isNaN = false)
    (hreplies : Throughout (receive qt number config) (Incoming.InRange qt number config)
      (opened qt config diagnostics cached now) incomings) :
    ∀ place, .forecast place ∈ (run (receive qt number config)
      (opened qt config diagnostics cached now) incomings).service.requests → place.Valid := by
  have hopened : Placed Location.Valid (opened qt config diagnostics cached now).service := by
    refine Placed.initialized config diagnostics cached fun hm => ?_
    obtain ⟨hlatitude, hlongitude, hrange⟩ := parseWeatherConfig_coordinates h hm
    let place : Location := { latitude := config.latitude, longitude := config.longitude }
    have hplace : outOfRange place.latitude place.longitude = false := hrange
    exact (valid_iff_of_not_outOfRange hplace).mpr
      ⟨hconfig "latitude" (by simp) _ hlatitude, hconfig "longitude" (by simp) _ hlongitude⟩
  have hrun : Placed Location.Valid (run (receive qt number config)
      (opened qt config diagnostics cached now) incomings).service :=
    hreplies.invariant hopened fun w incoming hin hw => placed_receive hw hin
  exact hrun.requested

section Sample

/-- A parsed document as a tree of nodes. -/
def sampleToml (document : QJsonValue) : Toml where
  Node := QJsonValue
  parse _ := .ok document
  child node key :=
    match node.toObject.value key with
    | .undefined => none
    | child => some child
  isTable := QJsonValue.isObject
  string
    | .string text => some text
    | _ => none
  integer
    | .integer i => some i
    | _ => none
  double
    | .double d => some d
    | _ => none

def sampleDocument (latitude longitude : Double) : QJsonValue :=
  .object [("weather", .object [
    ("provider", .string "openweather"), ("refresh_interval_seconds", .integer 600),
    ("location", .object [("latitude", .double latitude), ("longitude", .double longitude)])])]

def sampleContents (latitude longitude : QString) : QByteArray :=
  toUtf8 ("[weather]\nprovider='openweather'\nrefresh_interval_seconds=600\n" ++
    "[weather.location]\nlatitude=" ++ latitude ++ "\nlongitude=" ++ longitude ++ "\n")

def sampleQt : QtText where
  fromJson _ := none
  fromIsoDate _ := {}
  fixed := fixedText
  urlText url := url.text
  toLower text := text
  sameLetters a b := a = b
  toLongLong _ := none
  withoutQueries text := text

def sampleTime : QDateTime := { msecs := some 1750000000000 }

/-- 49.5 degrees north, 24 degrees east. -/
def sampleCoordinates : WeatherConfig where
  locationMode := .coordinates
  latitude := ⟨0x4048c00000000000⟩
  longitude := .ofInt 24

theorem requested_valid_sample :
    ({ latitude := sampleCoordinates.latitude, longitude := .ofInt 24 } : Location).Valid := by
  have hparse : parseWeatherConfig
      (sampleToml (sampleDocument sampleCoordinates.latitude (.ofInt 24)))
      (sampleContents "49.5" "24.0") = .ok sampleCoordinates := rfl
  have hrequested : Request.forecast
      { latitude := sampleCoordinates.latitude, longitude := .ofInt 24 } ∈
        (run (receive sampleQt (fun _ => none) sampleCoordinates)
          (opened sampleQt sampleCoordinates "" none sampleTime)
          [.other .timeout rfl]).service.requests := by
    decide +kernel
  have hthroughout : Throughout (receive sampleQt (fun _ => none) sampleCoordinates)
      (Incoming.InRange sampleQt (fun _ => none) sampleCoordinates)
      (opened sampleQt sampleCoordinates "" none sampleTime) [.other .timeout rfl] :=
    ⟨trivial, trivial⟩
  refine requested_valid hparse ?_ hthroughout _ hrequested
  simp only [List.forall_mem_cons, List.not_mem_nil, false_implies, implies_true, and_true]
  constructor
  · rintro d ⟨⟩
    decide +kernel
  · rintro d ⟨⟩
    decide +kernel

/-- A quiet NaN. -/
def nan : Double := ⟨0x7ff8000000000000⟩

def nanCoordinates : WeatherConfig where
  locationMode := .coordinates
  latitude := nan
  longitude := .ofInt 24

/-- A latitude `nan` is accepted, and a forecast is requested for it. -/
theorem nan_requested :
    parseWeatherConfig (sampleToml (sampleDocument nan (.ofInt 24))) (sampleContents "nan" "24.0") =
      .ok nanCoordinates ∧
    .forecast { latitude := nan, longitude := .ofInt 24 } ∈
      (opened sampleQt nanCoordinates "" none sampleTime).service.requests ∧
    ¬ ({ latitude := nan, longitude := .ofInt 24 } : Location).Valid := by
  refine ⟨rfl, by decide +kernel, fun h => ?_⟩
  have hfinite : nan.isFinite = true := h.latitude.isFinite
  exact absurd hfinite (by decide +kernel)

end Sample

end World

end Replies

end RpiDashboard.Weather
