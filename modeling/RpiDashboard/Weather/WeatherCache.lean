import RpiDashboard.Qt.JsonText
import RpiDashboard.Weather.WeatherService

/-! The cache file of the weather service: `saveCache` and `loadCache` in
`weather/weather_service.cpp`. -/

namespace RpiDashboard.Weather

open Numeric Qt

section Save

variable (writer : QtWriter)

def locationJson (location : Location) : QJsonObject :=
  [("city", .string location.city),
    ("country", .string location.country),
    ("latitude", .double location.latitude),
    ("longitude", .double location.longitude)]

def currentJson (current : CurrentConditions) : QJsonObject :=
  [("condition", .string current.condition),
    ("icon", .string current.iconCode),
    ("temperature", .double current.temperatureCelsius),
    ("feelsLike", .double current.feelsLikeCelsius),
    ("high", .double current.highCelsius),
    ("low", .double current.lowCelsius),
    ("humidity", .double current.humidityPercent),
    ("windSpeed", .double current.windSpeedKmh),
    ("windDegrees", .double current.windDegrees)]

def hourlyJson (row : HourlyForecast) : QJsonObject :=
  [("timestamp", .string (writer.toIsoDate row.timestampUtc)),
    ("icon", .string row.iconCode),
    ("temperature", .double row.temperatureCelsius),
    ("precipitation", .double row.precipitationProbabilityPercent)]

def optionalJson : Option Double → QJsonValue
  | some d => .double d
  | none => .null

def dailyJson (row : DailyForecast) : QJsonObject :=
  [("timestamp", .string (writer.toIsoDate row.timestampUtc)),
    ("sunrise", .string (writer.toIsoDate row.sunriseUtc)),
    ("sunset", .string (writer.toIsoDate row.sunsetUtc)),
    ("icon", .string row.iconCode),
    ("minimum", .double row.minimumCelsius),
    ("maximum", .double row.maximumCelsius),
    ("precipitation", .double row.precipitationProbabilityPercent),
    ("average", optionalJson row.averageCelsius),
    ("rain", optionalJson row.rainMillimetres),
    ("snow", optionalJson row.snowMillimetres)]

def airQualityJson (airQuality : AirQuality) : QJsonObject :=
  [("index", .ofInt airQuality.index), ("category", .string airQuality.category)]

def cacheJson (snapshot : Snapshot) : QJsonObject :=
  [("schemaVersion", .ofInt 1),
    ("provider", .string snapshot.provider),
    ("location", .object (locationJson snapshot.location)),
    ("timezoneOffset", .ofInt snapshot.timezoneOffsetSeconds),
    ("fetched", .string (writer.toIsoDate snapshot.fetchedUtc)),
    ("sunset", .string (writer.toIsoDate snapshot.sunsetUtc)),
    ("precipitationKind", .string snapshot.todayPrecipitationKind),
    ("current", .object (currentJson snapshot.current)),
    ("hourly", .array (snapshot.hourly.map fun row => .object (hourlyJson writer row))),
    ("daily", .array ((snapshot.daily.take 5).map fun row => .object (dailyJson writer row)))] ++
  match snapshot.airQuality with
  | some airQuality => [("airQuality", .object (airQualityJson airQuality))]
  | none => []

/-- What `saveCache` writes, if anything. -/
def cacheContents (snapshot : Snapshot) : Option QByteArray :=
  if snapshot.fetchedUtc.isValid then some (writer.toJson (.object (cacheJson writer snapshot)))
  else none

end Save

section Load

variable (qt : QtText)

def jsonLocation (object : QJsonObject) : Location where
  city := (object.value "city").toString
  country := (object.value "country").toString
  latitude := (object.value "latitude").toDouble
  longitude := (object.value "longitude").toDouble

def validNumber (object : QJsonObject) (key : QString) : Bool :=
  (object.value key).isDouble && (object.value key).toDouble.isFinite

/-- The number of a field, if it is one. -/
def optionalNumber (object : QJsonObject) (key : QString) : Option Double :=
  if (object.value key).isDouble then some (object.value key).toDouble else none

def outside (d low high : Double) : Bool := d.less low || high.less d

/-- The version and the shape; `toInt(-1)` is 1 where `toInt` is. -/
def hasShape (root : QJsonObject) : Bool :=
  (root.value "schemaVersion").toInt = 1 && (root.value "location").isObject &&
    (root.value "current").isObject && (root.value "hourly").isArray &&
    (root.value "daily").isArray && (root.value "hourly").toArray.length ≤ 64 &&
    (root.value "daily").toArray.length ≤ 16

def Location.inRange (location : Location) : Bool :=
  location.latitude.isFinite && !outside location.latitude (.ofInt (-90)) (.ofInt 90) &&
    location.longitude.isFinite && !outside location.longitude (.ofInt (-180)) (.ofInt 180)

/-- `city.section(',', 0, 0)`. -/
def firstSection (city : QString) : QString := String.ofList (city.toList.takeWhile (· ≠ ','))

/-- The place is the one that is configured, if one is. -/
def WeatherConfig.places (config : WeatherConfig) (location : Location) : Bool :=
  (config.locationMode ≠ .coordinates ||
    location.cacheKey qt = ({ latitude := config.latitude, longitude := config.longitude } :
      Location).cacheKey qt) &&
  (config.locationMode ≠ .city || qt.sameLetters location.city (firstSection config.city))

def currentNumbers : List QString :=
  ["temperature", "feelsLike", "high", "low", "humidity", "windSpeed", "windDegrees"]

def validCurrent (current : QJsonObject) : Bool :=
  currentNumbers.all (validNumber current) &&
    !outside (current.value "humidity").toDouble .zero (.ofInt 100) &&
    !(current.value "windSpeed").toDouble.less .zero

def readCurrent (current : QJsonObject) : CurrentConditions where
  condition := (current.value "condition").toString
  iconCode := (current.value "icon").toString
  temperatureCelsius := (current.value "temperature").toDouble
  feelsLikeCelsius := (current.value "feelsLike").toDouble
  highCelsius := (current.value "high").toDouble
  lowCelsius := (current.value "low").toDouble
  humidityPercent := (current.value "humidity").toDouble
  windSpeedKmh := (current.value "windSpeed").toDouble
  windDegrees := (current.value "windDegrees").toDouble

/-- A time in a field; invalid if there is none. -/
def timeAt (object : QJsonObject) (key : QString) : QDateTime :=
  qt.fromIsoDate (object.value key).toString

def validHourly (value : QJsonValue) : Bool :=
  let row := value.toObject
  value.isObject && (timeAt qt row "timestamp").isValid && validNumber row "temperature" &&
    validNumber row "precipitation" &&
    !outside (row.value "precipitation").toDouble .zero (.ofInt 100)

def readHourly (value : QJsonValue) : Option HourlyForecast :=
  let row := value.toObject
  if validHourly qt value then
    some {
      timestampUtc := timeAt qt row "timestamp"
      iconCode := (row.value "icon").toString
      temperatureCelsius := (row.value "temperature").toDouble
      precipitationProbabilityPercent := (row.value "precipitation").toDouble }
  else none

def validDaily (value : QJsonValue) : Bool :=
  let row := value.toObject
  value.isObject && (timeAt qt row "timestamp").isValid && validNumber row "minimum" &&
    validNumber row "maximum" && validNumber row "precipitation" &&
    !outside (row.value "precipitation").toDouble .zero (.ofInt 100)

def readDaily (value : QJsonValue) : Option DailyForecast :=
  let row := value.toObject
  if validDaily qt value then
    some {
      timestampUtc := timeAt qt row "timestamp"
      sunriseUtc := timeAt qt row "sunrise"
      sunsetUtc := timeAt qt row "sunset"
      iconCode := (row.value "icon").toString
      minimumCelsius := (row.value "minimum").toDouble
      maximumCelsius := (row.value "maximum").toDouble
      averageCelsius := optionalNumber row "average"
      precipitationProbabilityPercent := (row.value "precipitation").toDouble
      rainMillimetres := optionalNumber row "rain"
      snowMillimetres := optionalNumber row "snow" }
  else none

def readAirQuality (air : QJsonObject) : Option AirQuality :=
  if air.isEmpty then none
  else some { index := (air.value "index").toInt, category := (air.value "category").toString }

/-- The checks before the rows are read. -/
def validHead (config : WeatherConfig) (root : QJsonObject) : Bool :=
  let location := jsonLocation (root.value "location").toObject
  hasShape root && (root.value "provider").toString = config.provider &&
    (timeAt qt root "fetched").isValid && location.inRange && config.places qt location &&
    validCurrent (root.value "current").toObject

/-- The snapshot of a cache that passes every check; at the first that fails nothing is read. -/
def readCache (config : WeatherConfig) (root : QJsonObject) : Option Snapshot :=
  if validHead qt config root then do
    let hourly ← (root.value "hourly").toArray.mapM (readHourly qt)
    let daily ← (root.value "daily").toArray.mapM (readDaily qt)
    let kind := (root.value "precipitationKind").toString
    return {
      provider := config.provider
      location := jsonLocation (root.value "location").toObject
      timezoneOffsetSeconds := (root.value "timezoneOffset").toInt
      fetchedUtc := timeAt qt root "fetched"
      current := readCurrent (root.value "current").toObject
      hourly, daily
      sunsetUtc := timeAt qt root "sunset"
      todayPrecipitationKind := if kind = "" then "none" else kind
      airQuality := readAirQuality (root.value "airQuality").toObject }
  else none

/-- Reads the file's contents, if there is one. -/
def WeatherService.loadCache (service : WeatherService) (contents : Option QByteArray)
    (now : QDateTime) : WeatherService :=
  match contents.bind qt.fromJson with
  | some (.object root) =>
    match readCache qt service.config root with
    | some cached => service.restore cached now
    | none => service
  | _ => service

end Load

end RpiDashboard.Weather
