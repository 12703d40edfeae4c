import RpiDashboard.Weather.WeatherConfig

/-! Reading the replies of the location providers (`weather/weather_provider.cpp`). -/

namespace RpiDashboard.Weather

open Numeric Qt

def requiredNumber (object : QJsonObject) (name : QString) : Except QString Double :=
  let value := object.value name
  if value.isDouble then .ok value.toDouble
  else .error "weather response is missing a numeric field"

/-- `OpenWeatherGeocodingProvider::parseGeocoding`. -/
def parseGeocoding (document : QJsonValue) : Except QString Location :=
  match document.toArray with
  | [] => .error "location not found"
  | first :: _ => do
    let object := first.toObject
    let latitude ← requiredNumber object "lat"
    let longitude ← requiredNumber object "lon"
    return { city := (object.value "name").toString
             country := (object.value "country").toString
             latitude, longitude }

/-- `IpGeolocationProvider::parseLocation`; `number` reads a text as a number. -/
def parseLocation (number : QString → Option Double) (document : QJsonValue) :
    Except QString Location :=
  let object := document.toObject
  match (object.value "latitude").toVariantDouble number,
      (object.value "longitude").toVariantDouble number with
  | some latitude, some longitude =>
    if outOfRange latitude longitude then .error "invalid automatic location"
    else .ok
      { city := (object.value "city").toString
        country := (object.value "country_code2").toString
        latitude, longitude }
  | _, _ => .error "invalid automatic location"

/-- `QJsonDocument::fromJson`, of which a malformed text makes an empty document. -/
def replyDocument (qt : QtText) (body : QByteArray) : QJsonValue :=
  (qt.fromJson body).getD .undefined

end RpiDashboard.Weather
