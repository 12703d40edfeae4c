import RpiDashboard.Qt.Text

/-! Places, forecasts and air quality (`weather/weather_types.h`). -/

namespace RpiDashboard.Weather

open Numeric Qt

structure Location where
  city : QString := ""
  country : QString := ""
  latitude : Double := .zero
  longitude : Double := .zero
  deriving DecidableEq

/-- Two places are the same if their coordinates agree to four decimals. -/
def Location.cacheKey (qt : QtText) (location : Location) : QString :=
  qt.fixed location.latitude 4 ++ "," ++ qt.fixed location.longitude 4

structure CurrentConditions where
  observedUtc : QDateTime := {}
  condition : QString := ""
  iconCode : QString := ""
  temperatureCelsius : Double := .zero
  feelsLikeCelsius : Double := .zero
  highCelsius : Double := .zero
  lowCelsius : Double := .zero
  humidityPercent : Double := .zero
  pressureHpa : Double := .zero
  windSpeedKmh : Double := .zero
  windDegrees : Double := .zero
  rainMillimetres : Option Double := none
  deriving DecidableEq

structure HourlyForecast where
  timestampUtc : QDateTime
  iconCode : QString
  temperatureCelsius : Double
  precipitationProbabilityPercent : Double
  rainMillimetres : Option Double := none
  deriving DecidableEq

structure DailyForecast where
  timestampUtc : QDateTime
  sunriseUtc : QDateTime
  sunsetUtc : QDateTime
  iconCode : QString
  minimumCelsius : Double
  maximumCelsius : Double
  averageCelsius : Option Double := none
  precipitationProbabilityPercent : Double
  rainMillimetres : Option Double := none
  snowMillimetres : Option Double := none
  deriving DecidableEq

structure AirQuality where
  index : Int
  category : QString
  pm25MicrogramsPerCubicMetre : Option Double := none
  deriving DecidableEq

structure Snapshot where
  provider : QString := ""
  location : Location := {}
  timezone : QString := ""
  timezoneOffsetSeconds : Int := 0
  fetchedUtc : QDateTime := {}
  current : CurrentConditions := {}
  hourly : List HourlyForecast := []
  daily : List DailyForecast := []
  airQuality : Option AirQuality := none
  sunsetUtc : QDateTime := {}
  todayRainProbabilityPercent : Double := .zero
  todayPrecipitationKind : QString := "none"
  todayPrecipitationProbabilityPercent : Double := .zero
  deriving DecidableEq

end RpiDashboard.Weather
