import RpiDashboard.Weather.WeatherService

/-! Reading the weather configuration (`weather/weather_config.cpp`). -/

namespace RpiDashboard.Weather

open Numeric Qt

/-- What is used of toml++: documents, and the views of their nodes. -/
structure Toml where
  Node : Type
  /-- `toml::parse`, with the description of the error. -/
  parse : QByteArray → Except QString Node
  /-- `operator[]`. -/
  child : Node → QString → Option Node
  isTable : Node → Bool
  /-- `value<std::string>`, `value<int64_t>` and `value<double>`. -/
  string : Node → Option QString
  integer : Node → Option Int64
  double : Node → Option Double

namespace Toml

variable (toml : Toml)

def stringOr (node : toml.Node) (key default : QString) : QString :=
  ((toml.child node key).bind toml.string).getD default

def integerAt (node : toml.Node) (key : QString) : Option Int64 :=
  (toml.child node key).bind toml.integer

def doubleAt (node : toml.Node) (key : QString) : Option Double :=
  (toml.child node key).bind toml.double

def tableAt (node : toml.Node) (key : QString) : Option toml.Node :=
  (toml.child node key).filter toml.isTable

end Toml

def validationError (text : QString) : QString := "Invalid weather configuration: " ++ text

def require (c : Prop) [Decidable c] (text : QString) : Except QString Unit :=
  if c then .ok () else .error (validationError text)

def required {α : Type} (value : Option α) (text : QString) : Except QString α :=
  match value with
  | some value => .ok value
  | none => .error (validationError text)

/-- The rejection of coordinates, comparison by comparison. -/
def outOfRange (latitude longitude : Double) : Bool :=
  latitude.less (.ofInt (-90)) || (Double.ofInt 90).less latitude ||
    longitude.less (.ofInt (-180)) || (Double.ofInt 180).less longitude

/-- `[weather.location]`, on top of what the rest of the configuration says. -/
def parseLocationTable (toml : Toml) (config : WeatherConfig) (location : toml.Node) :
    Except QString WeatherConfig :=
  let city := trimmed (toml.stringOr location "city" "")
  match toml.doubleAt location "latitude", toml.doubleAt location "longitude" with
  | some latitude, some longitude => do
    require (city = "") "city conflicts with coordinates"
    require (!outOfRange latitude longitude) "coordinates are out of range"
    return { config with locationMode := .coordinates, latitude, longitude }
  | none, none =>
    if city ≠ "" then return { config with locationMode := .city, city }
    else do
      let automaticProvider :=
        trimmed (toml.stringOr location "automatic_provider" "ipgeolocation")
      require (automaticProvider = "ipgeolocation") "unknown automatic location provider"
      return { config with locationMode := .automatic, automaticProvider }
  | _, _ => .error (validationError "latitude and longitude must be specified together")

def parseWeatherConfig (toml : Toml) (contents : QByteArray) : Except QString WeatherConfig := do
  let document ← (toml.parse contents).mapError validationError
  let weather ← required (toml.tableAt document "weather") "missing [weather] table"
  let provider := trimmed (toml.stringOr weather "provider" "")
  require (provider = "openweather") "unknown weather provider"
  let interval := ((toml.integerAt weather "refresh_interval_seconds").map Int64.toInt).getD 0
  require (60 ≤ interval ∧ interval ≤ 86400)
    "refresh interval must be between 60 and 86400 seconds"
  let location ← required (toml.tableAt weather "location") "missing [weather.location] table"
  parseLocationTable toml { provider, refreshIntervalSeconds := interval } location

end RpiDashboard.Weather
