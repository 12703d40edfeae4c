import RpiDashboard.Dashboard.DeviceModel
import RpiDashboard.Weather.WeatherService

/-! What the forecast models give their views (`weather/weather_models.cpp`). -/

namespace RpiDashboard.Weather

open Numeric Qt
open Dashboard (QVariant)

inductive HourlyRole
  | timestampRole | localHourRole | iconCodeRole | temperatureRole | precipitationRole
  | trendPositionRole | previousTrendPositionRole
  deriving DecidableEq

inductive DailyRole
  | timestampRole | weekdayRole | iconCodeRole | minimumRole | maximumRole | averageRole
  | precipitationRole
  deriving DecidableEq

def localTime (utc : QDateTime) (offset : Int) : QDateTime := utc.addSecs offset

/-- `QString::arg` of a number, with zeros up to two digits. -/
def twoDigits (n : Int) : QString :=
  if (toString n).length < 2 then "0" ++ toString n else toString n

/-- `QDate::dayOfWeek`, from Monday on; zero for an invalid date. -/
def dayOfWeek (t : QDateTime) : Int :=
  match t.date with
  | some day => (day + 3) % 7 + 1
  | none => 0

/-- `operator==` of doubles. -/
def sameNumber (a b : Double) : Bool := !a.isNaN && !b.isNaN && a.toRat = b.toRat

namespace HourlyForecastModel

variable (model : HourlyForecastModel)

def trendPosition (temperature : Double) : Double :=
  if sameNumber model.maximumTemperature model.minimumTemperature then .ofRat (1 / 2)
  else (temperature.sub model.minimumTemperature).div
    (model.maximumTemperature.sub model.minimumTemperature)

def roleValue (row : Nat) (forecast : HourlyForecast) : HourlyRole → QVariant
  | .timestampRole => .dateTime forecast.timestampUtc
  | .localHourRole =>
    .string (twoDigits (localTime forecast.timestampUtc model.timezoneOffsetSeconds).hour)
  | .iconCodeRole => .string forecast.iconCode
  | .temperatureRole => .double forecast.temperatureCelsius
  | .precipitationRole => .double forecast.precipitationProbabilityPercent
  | .trendPositionRole => .double (model.trendPosition forecast.temperatureCelsius)
  | .previousTrendPositionRole =>
    match row, model.rows[row - 1]? with
    | 0, _ => .double (.ofRat (1 / 2))
    | _, some previous => .double (model.trendPosition previous.temperatureCelsius)
    | _, none => .invalid

def data (row : Nat) (role : HourlyRole) : QVariant :=
  match model.rows[row]? with
  | some forecast => model.roleValue row forecast role
  | none => .invalid

end HourlyForecastModel

namespace DailyForecastModel

variable (dayName : Int → QString) (model : DailyForecastModel)

/-- `dayName` is that of the locale, in its short format. -/
def roleValue (forecast : DailyForecast) : DailyRole → QVariant
  | .timestampRole => .dateTime forecast.timestampUtc
  | .weekdayRole =>
    .string (dayName (dayOfWeek (localTime forecast.timestampUtc model.timezoneOffsetSeconds)))
  | .iconCodeRole => .string forecast.iconCode
  | .minimumRole => .double forecast.minimumCelsius
  | .maximumRole => .double forecast.maximumCelsius
  | .averageRole => Dashboard.value .double forecast.averageCelsius
  | .precipitationRole => .double forecast.precipitationProbabilityPercent

def data (row : Nat) (role : DailyRole) : QVariant :=
  match model.rows[row]? with
  | some forecast => model.roleValue dayName forecast role
  | none => .invalid

end DailyForecastModel

end RpiDashboard.Weather
