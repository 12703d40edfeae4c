import RpiDashboard.Numeric.Arithmetic
import RpiDashboard.Weather.WeatherCache
import RpiDashboard.Weather.WeatherProvider

/-! Reading a forecast (`OpenWeatherProvider::parseOneCall` in `weather/weather_provider.cpp`). -/

namespace RpiDashboard.Weather

open Numeric Qt

/-- Seconds since the epoch, none of which is valid beyond the range of milliseconds. -/
def timestamp (seconds : Double) : QDateTime :=
  let msecs := seconds.truncate * 1000
  if -2 ^ 63 ≤ msecs ∧ msecs < 2 ^ 63 then { msecs := some msecs } else {}

/-- The average of the parts of the day that there are. -/
def daypartAverage (temperatures : QJsonObject) : Option Double :=
  match ["morn", "day", "eve", "night"].filterMap (optionalNumber temperatures) with
  | [] => none
  | parts => some ((parts.foldl Double.add .zero).div (.ofInt parts.length))

def precipitationKind (day : QJsonObject) (dailyProbability : Double) : QString :=
  let rain := Double.zero.less ((optionalNumber day "rain").getD .zero)
  let snow := Double.zero.less ((optionalNumber day "snow").getD .zero)
  if rain && snow then "mixed"
  else if rain then "rain"
  else if snow then "snow"
  else if Double.zero.less dailyProbability then "other"
  else "none"

/-- `toArray().at(0).toObject()`. -/
def firstObject (value : QJsonValue) : QJsonObject := (value.toArray.headD .undefined).toObject

/-- 3.6, the kilometres per hour in a metre per second. -/
def kmhPerMetreASecond : Double := ⟨0x400ccccccccccccd⟩

def percent (object : QJsonObject) : Double := (object.value "pop").toDouble.mul (.ofInt 100)

def parseCurrent (current today : QJsonObject) : Except QString CurrentConditions := do
  let weather := firstObject (current.value "weather")
  let temperatures := (today.value "temp").toObject
  let dt ← requiredNumber current "dt"
  let temperatureCelsius ← requiredNumber current "temp"
  let feelsLikeCelsius ← requiredNumber current "feels_like"
  let humidityPercent ← requiredNumber current "humidity"
  let pressureHpa ← requiredNumber current "pressure"
  let windSpeed ← requiredNumber current "wind_speed"
  let windDegrees ← requiredNumber current "wind_deg"
  return {
    observedUtc := timestamp dt
    condition := (weather.value "description").toString
    iconCode := (weather.value "icon").toString
    temperatureCelsius, feelsLikeCelsius
    highCelsius := (temperatures.value "max").toDouble
    lowCelsius := (temperatures.value "min").toDouble
    humidityPercent, pressureHpa
    windSpeedKmh := windSpeed.mul kmhPerMetreASecond
    windDegrees }

def parseHourly (value : QJsonValue) : Except QString HourlyForecast := do
  let object := value.toObject
  let weather := firstObject (object.value "weather")
  let dt ← requiredNumber object "dt"
  let temperatureCelsius ← requiredNumber object "temp"
  return {
    timestampUtc := timestamp dt
    iconCode := (weather.value "icon").toString
    temperatureCelsius
    precipitationProbabilityPercent := percent object }

def parseDaily (value : QJsonValue) : Except QString DailyForecast := do
  let object := value.toObject
  let temperatures := (object.value "temp").toObject
  let weather := firstObject (object.value "weather")
  let dt ← requiredNumber object "dt"
  let sunrise ← requiredNumber object "sunrise"
  let sunset ← requiredNumber object "sunset"
  let minimumCelsius ← requiredNumber temperatures "min"
  let maximumCelsius ← requiredNumber temperatures "max"
  return {
    timestampUtc := timestamp dt
    sunriseUtc := timestamp sunrise
    sunsetUtc := timestamp sunset
    iconCode := (weather.value "icon").toString
    minimumCelsius, maximumCelsius
    averageCelsius := daypartAverage temperatures
    precipitationProbabilityPercent := percent object
    rainMillimetres := optionalNumber object "rain"
    snowMillimetres := optionalNumber object "snow" }

/-- The snapshot of a reply, received now; an exception where a number is missing. -/
def parseOneCall (document : QJsonValue) (location : Location) (now : QDateTime) :
    Except QString Snapshot := do
  let root := document.toObject
  let today := firstObject (root.value "daily")
  let current ← parseCurrent (root.value "current").toObject today
  let hourly ← (root.value "hourly").toArray.mapM parseHourly
  let daily ← (root.value "daily").toArray.mapM parseDaily
  return {
    provider := "openweather"
    location
    timezone := (root.value "timezone").toString
    timezoneOffsetSeconds := (root.value "timezone_offset").toInt
    fetchedUtc := now
    current, hourly, daily
    sunsetUtc := timestamp (today.value "sunset").toDouble
    todayRainProbabilityPercent := percent today
    todayPrecipitationKind := precipitationKind today (percent today) }

end RpiDashboard.Weather
