import RpiDashboard.Dashboard.ScreensaverController
import RpiDashboard.Qt.Bytes
import RpiDashboard.Qt.Network
import RpiDashboard.Weather.WeatherConfig

/-! The start of the dashboard (`dashboard/main.cpp`): the configuration file
(`dashboard/dashboard_config.cpp`), what the arguments and the environment put in its place, and
what the services are made with. -/

namespace RpiDashboard.Dashboard

open Qt Weather

structure DashboardConfig where
  windowed : Bool := false
  windowWidth : Int32 := 1480
  windowHeight : Int32 := 320
  screensaverTimeoutSeconds : Int32 := 600
  githubOwner : QString := "lebedenko"
  telemetryBindAddress : QString := "0.0.0.0"
  telemetryPort : Int32 := 51337
  githubTokenFile : QByteArray := []
  openWeatherApiKeyFile : QByteArray := []
  ipGeolocationApiKeyFile : QByteArray := []
  weather : Option WeatherConfig := none

/-- `protocol()` is `IPv4Protocol`. -/
def isIPv4 : QHostAddress → Bool
  | .ipv4 _ => true
  | _ => false

/-- What is used of toml++ here. -/
structure DashboardToml extends Toml where
  /-- `value<bool>`. -/
  boolean : Node → Option Bool

section Parsing

variable (toml : DashboardToml) (address : QString → QHostAddress)

def invalid (message : QString) : QString := "Invalid dashboard configuration: " ++ message

def refuse (c : Prop) [Decidable c] (message : QString) : Except QString Unit :=
  if c then .error (invalid message) else .ok ()

def textValue (node : toml.Node) (key fallback : QString) : QString :=
  trimmed (toml.stringOr node key fallback)

def pathValue (node : toml.Node) (key : QString) : QByteArray :=
  QByteArray.trimmed (toUtf8 (toml.stringOr node key ""))

def parseDisplay (config : DashboardConfig) (display : toml.Node) :
    Except QString DashboardConfig := do
  let windowed := ((toml.child display "windowed").bind toml.boolean).getD false
  let windowWidth := ((toml.integerAt display "width").getD 1480).toInt32
  let windowHeight := ((toml.integerAt display "height").getD 320).toInt32
  let timeout := (toml.integerAt display "screensaver_timeout_seconds").getD 600
  refuse (windowWidth ≤ 0 ∨ windowHeight ≤ 0) "display dimensions must be positive"
  refuse (timeout < 0 ∨ 2147483647 < timeout) "screensaver timeout must be non-negative"
  return { config with
    windowed, windowWidth, windowHeight, screensaverTimeoutSeconds := timeout.toInt32 }

def parseProjects (config : DashboardConfig) (projects : toml.Node) :
    Except QString DashboardConfig := do
  let githubOwner := textValue toml projects "github_owner" config.githubOwner
  refuse (githubOwner = "") "GitHub owner must not be empty"
  return { config with githubOwner }

def parseTelemetry (config : DashboardConfig) (telemetry : toml.Node) :
    Except QString DashboardConfig := do
  let bindAddress := textValue toml telemetry "bind_address" config.telemetryBindAddress
  let port := (toml.integerAt telemetry "port").getD 51337
  refuse (port < 1 ∨ 65535 < port ∨ !isIPv4 (address bindAddress))
    "telemetry listener must use a valid IPv4 address and port"
  return { config with telemetryBindAddress := bindAddress, telemetryPort := port.toInt32 }

def parseCredentials (config : DashboardConfig) (credentials : toml.Node) :
    Except QString DashboardConfig :=
  return { config with
    githubTokenFile := pathValue toml credentials "github_token_file"
    openWeatherApiKeyFile := pathValue toml credentials "openweather_api_key_file"
    ipGeolocationApiKeyFile := pathValue toml credentials "ipgeolocation_api_key_file" }

/-- A table of the document that may be missing. -/
def inTable (document : toml.Node) (key : QString)
    (read : DashboardConfig → toml.Node → Except QString DashboardConfig)
    (config : DashboardConfig) : Except QString DashboardConfig :=
  match toml.tableAt document key with
  | some table => read config table
  | none => .ok config

def parseWeather (contents : QByteArray) (document : toml.Node) (config : DashboardConfig) :
    Except QString DashboardConfig :=
  if (toml.child document "weather").isSome then do
    let weather ← parseWeatherConfig toml.toToml contents
    return { config with weather := some weather }
  else .ok config

def parseDashboardConfig (contents : QByteArray) : Except QString DashboardConfig := do
  let document ← (toml.parse contents).mapError invalid
  let config ← inTable toml document "display" (parseDisplay toml) {}
  let config ← inTable toml document "projects" (parseProjects toml) config
  let config ← inTable toml document "telemetry" (parseTelemetry toml address) config
  let config ← inTable toml document "credentials" (parseCredentials toml) config
  parseWeather toml contents document config

end Parsing

/-- What the dashboard is started in: the configuration files that may be there, the files that can
be read, and the environment. -/
structure Surroundings where
  candidates : List QString
  fileExists : QString → Bool
  read : QString → Option QByteArray
  decodeName : QByteArray → QString
  environment : QString → Option QByteArray

structure DashboardConfigResult where
  config : DashboardConfig := {}
  path : QString := ""
  diagnostic : QString := ""
  fatal : Bool := false

structure Credential where
  value : QByteArray := []
  diagnostic : QString := ""

/-- The options of the command line with their values. -/
structure Arguments where
  windowed : Bool := false
  config : Option QString := none
  width : Option QString := none
  height : Option QString := none
  githubOwner : Option QString := none
  telemetryBindAddress : Option QString := none
  telemetryPort : Option QString := none

def Arguments.explicitPath (arguments : Arguments) : QString := arguments.config.getD ""

/-- What the services and the window are made with. -/
structure Settings where
  windowed : Bool
  windowWidth : Int32
  windowHeight : Int32
  telemetryAddress : QHostAddress
  telemetryPort : UInt16
  githubOwner : QString
  githubToken : QByteArray
  weather : Option WeatherConfig
  openWeatherKey : QByteArray
  ipGeolocationKey : QByteArray
  screensaver : ScreensaverController
  warnings : List QString

namespace Surroundings

variable (s : Surroundings) (toml : DashboardToml) (address : QString → QHostAddress)
  (toInt : QString → Option Int32)

def loadDashboardConfig (explicitPath : QString) : DashboardConfigResult :=
  let found := if explicitPath ≠ "" then some explicitPath else s.candidates.find? s.fileExists
  match found with
  | none => {}
  | some path =>
    match s.read path with
    | none =>
      { path, diagnostic := "Dashboard configuration could not be read"
        fatal := explicitPath ≠ "" }
    | some contents =>
      match parseDashboardConfig toml address contents with
      | .ok config => { config, path }
      | .error diagnostic => { path, diagnostic, fatal := explicitPath ≠ "" }

def loadCredential (filePath fallback : QByteArray) (label : QString) : Credential :=
  if filePath = [] then { value := QByteArray.trimmed fallback }
  else
    match s.read (s.decodeName filePath) with
    | none => { diagnostic := label ++ " credential file could not be read" }
    | some contents =>
      let value := QByteArray.trimmed contents
      if value = [] then { diagnostic := label ++ " credential file is empty" } else { value }

def loadGitHubCredential (tokenFilePath environmentToken : QByteArray) : Credential :=
  if tokenFilePath = [] then { value := environmentToken }
  else
    match s.read (s.decodeName tokenFilePath) with
    | none =>
      { diagnostic := "GitHub credential file could not be read; using anonymous access" }
    | some contents =>
      let token := (contents.reverse.dropWhile fun c => c = 0x0a || c = 0x0d).reverse
      if token = [] then
        { diagnostic := "GitHub credential file is empty; using anonymous access" }
      else { value := token }

/-- Nothing for a variable that is not set. -/
def qgetenv (name : QString) : QByteArray := (s.environment name).getD []

def settings (config : DashboardConfig) (arguments : Arguments) (windowWidth windowHeight : Int32)
    (telemetryAddress : QHostAddress) (telemetryPort : Int32) (warnings : List QString) :
    Settings :=
  let github := s.loadGitHubCredential
    ((s.environment "GITHUB_TOKEN_FILE").getD config.githubTokenFile) (s.qgetenv "GITHUB_TOKEN")
  let openWeather := s.loadCredential
    ((s.environment "OPENWEATHER_API_KEY_FILE").getD config.openWeatherApiKeyFile)
    (s.qgetenv "OPENWEATHER_API_KEY") "OpenWeather"
  let ipGeolocation := s.loadCredential
    ((s.environment "IPGEOLOCATION_API_KEY_FILE").getD config.ipGeolocationApiKeyFile)
    (s.qgetenv "IPGEOLOCATION_API_KEY") "IP geolocation"
  let automatic := config.weather.any fun weather => weather.locationMode = .automatic
  let reported : List (Bool × QString) :=
    [(true, github.diagnostic), (config.weather.isSome, openWeather.diagnostic),
      (automatic, ipGeolocation.diagnostic)]
  { windowed := arguments.windowed || config.windowed
    windowWidth, windowHeight, telemetryAddress
    telemetryPort := UInt16.ofNat telemetryPort.toInt.toNat
    githubOwner := arguments.githubOwner.getD config.githubOwner
    githubToken := github.value
    weather := config.weather
    openWeatherKey := openWeather.value
    ipGeolocationKey := ipGeolocation.value
    screensaver := .create (config.screensaverTimeoutSeconds.toInt * 1000)
    warnings := warnings ++
      (reported.filter fun (used, diagnostic) => used && diagnostic ≠ "").map Prod.snd }

/-- An argument's number, or the configured one. -/
def number (argument : Option QString) (configured : Int32) : Option Int32 :=
  argument.elim (some configured) toInt

/-- `main` up to its services; an error is the exit with a failure. -/
def start (arguments : Arguments) : Except (List QString) Settings :=
  let result := s.loadDashboardConfig toml address arguments.explicitPath
  let warnings := if result.diagnostic ≠ "" then [result.diagnostic] else []
  let config := result.config
  let windowWidth := number toInt arguments.width config.windowWidth
  let windowHeight := number toInt arguments.height config.windowHeight
  let telemetryPort := number toInt arguments.telemetryPort config.telemetryPort
  let telemetryAddress :=
    address (arguments.telemetryBindAddress.getD config.telemetryBindAddress)
  if result.fatal then .error warnings
  else
    match windowWidth.filter (0 < ·), windowHeight.filter (0 < ·),
      telemetryPort.filter (fun port => 1 ≤ port ∧ port ≤ 65535), isIPv4 telemetryAddress with
    | some windowWidth, some windowHeight, some telemetryPort, true =>
      .ok (s.settings config arguments windowWidth windowHeight telemetryAddress telemetryPort
        warnings)
    | _, _, _, _ => .error warnings

end Surroundings

end RpiDashboard.Dashboard
