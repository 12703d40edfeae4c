import RpiDashboard.Dashboard.Startup
import RpiDashboard.Weather.RetryLaws

/-! Only what was asked for explicitly keeps the dashboard from starting, and what has started has
valid settings. -/

namespace RpiDashboard.Dashboard

open Qt Weather

section WeatherSettings

/-- A place to show the weather of, or a way to find one. -/
def HasPlace (config : WeatherConfig) : Prop :=
  match config.locationMode with
  | .automatic => config.automaticProvider = "ipgeolocation"
  | .city => config.city ≠ ""
  | .coordinates => outOfRange config.latitude config.longitude = false

structure WeatherSettings (config : WeatherConfig) : Prop where
  provider : config.provider = "openweather"
  interval : 60 ≤ config.refreshIntervalSeconds ∧ config.refreshIntervalSeconds ≤ 86400
  place : HasPlace config

variable {toml : Toml} {config rest : WeatherConfig} {contents : QByteArray} {node : toml.Node}

theorem parseLocationTable_place (h : parseLocationTable toml rest node = .ok config) :
    config.provider = rest.provider ∧ HasPlace config := by
  unfold parseLocationTable at h
  dsimp only at h
  split at h
  case h_1 =>
    simp only [bind_eq_ok, require_eq_ok] at h
    obtain ⟨-, -, -, hrange, h⟩ := h
    obtain rfl := Except.ok.inj h
    exact ⟨rfl, by simpa [HasPlace] using hrange⟩
  case h_2 =>
    split at h
    case isTrue hcity =>
      obtain rfl := Except.ok.inj h
      exact ⟨rfl, hcity⟩
    case isFalse =>
      simp only [bind_eq_ok, require_eq_ok] at h
      obtain ⟨-, hprovider, h⟩ := h
      obtain rfl := Except.ok.inj h
      exact ⟨rfl, hprovider⟩
  case h_3 => cases h

theorem parseWeatherConfig_settings (h : parseWeatherConfig toml contents = .ok config) :
    WeatherSettings config := by
  have hinterval : 60 ≤ config.refreshIntervalSeconds ∧ config.refreshIntervalSeconds ≤ 86400 :=
    parseWeatherConfig_interval h
  simp only [parseWeatherConfig, bind_eq_ok, require_eq_ok, required_eq_ok] at h
  obtain ⟨-, -, weather, -, -, hprovider, -, -, node, -, h⟩ := h
  obtain ⟨hsame, hplace⟩ := parseLocationTable_place h
  exact ⟨hsame.trans hprovider, hinterval, hplace⟩

end WeatherSettings

section Parsing

structure DashboardConfig.Valid (address : QString → QHostAddress) (config : DashboardConfig) :
    Prop where
  windowWidth : 0 < config.windowWidth
  windowHeight : 0 < config.windowHeight
  screensaverTimeout : 0 ≤ config.screensaverTimeoutSeconds
  githubOwner : config.githubOwner ≠ ""
  telemetryBindAddress : isIPv4 (address config.telemetryBindAddress)
  telemetryPort : 1 ≤ config.telemetryPort ∧ config.telemetryPort ≤ 65535
  weather : ∀ weather ∈ config.weather, WeatherSettings weather

variable {toml : DashboardToml} {address : QString → QHostAddress} {config rest : DashboardConfig}
  {contents : QByteArray} {document node : toml.Node}

theorem refuse_eq_ok {c : Prop} [Decidable c] {message : QString} {u : Unit} :
    refuse c message = .ok u ↔ ¬ c := by
  unfold refuse
  split <;> simp [*]

theorem toInt32_toInt {n : Int64} (h : 0 ≤ n.toInt ∧ n.toInt ≤ 2147483647) :
    n.toInt32.toInt = n.toInt := by
  rw [Int64.toInt_toInt32]
  exact Int.bmod_eq_of_le_mul_two (by omega) (by omega)

theorem default_valid (h : isIPv4 (address "0.0.0.0")) : ({} : DashboardConfig).Valid address where
  windowWidth := by decide
  windowHeight := by decide
  screensaverTimeout := by decide
  githubOwner := by decide
  telemetryBindAddress := h
  telemetryPort := by decide
  weather := nofun

theorem parseDisplay_valid (hr : rest.Valid address)
    (h : parseDisplay toml rest node = .ok config) : config.Valid address := by
  simp only [parseDisplay, bind_eq_ok, refuse_eq_ok, not_or] at h
  obtain ⟨-, ⟨hwidth, hheight⟩, -, ⟨hlow, hhigh⟩, h⟩ := h
  obtain rfl := Except.ok.inj h
  have hlow : 0 ≤ ((toml.integerAt node "screensaver_timeout_seconds").getD 600).toInt :=
    Int64.le_iff_toInt_le.mp (Int64.not_lt.mp hlow)
  have hhigh : ((toml.integerAt node "screensaver_timeout_seconds").getD 600).toInt ≤ 2147483647 :=
    Int64.le_iff_toInt_le.mp (Int64.not_lt.mp hhigh)
  exact
    { hr with
      windowWidth := Int32.not_le.mp hwidth
      windowHeight := Int32.not_le.mp hheight
      screensaverTimeout := Int32.le_iff_toInt_le.mpr (toInt32_toInt ⟨hlow, hhigh⟩ ▸ hlow) }

theorem parseProjects_valid (hr : rest.Valid address)
    (h : parseProjects toml rest node = .ok config) : config.Valid address := by
  simp only [parseProjects, bind_eq_ok, refuse_eq_ok] at h
  obtain ⟨-, howner, h⟩ := h
  obtain rfl := Except.ok.inj h
  exact { hr with githubOwner := howner }

theorem parseTelemetry_valid (hr : rest.Valid address)
    (h : parseTelemetry toml address rest node = .ok config) : config.Valid address := by
  simp only [parseTelemetry, bind_eq_ok, refuse_eq_ok, not_or] at h
  obtain ⟨-, ⟨hlow, hhigh, haddress⟩, h⟩ := h
  obtain rfl := Except.ok.inj h
  have hlow : 1 ≤ ((toml.integerAt node "port").getD 51337).toInt :=
    Int64.le_iff_toInt_le.mp (Int64.not_lt.mp hlow)
  have hhigh : ((toml.integerAt node "port").getD 51337).toInt ≤ 65535 :=
    Int64.le_iff_toInt_le.mp (Int64.not_lt.mp hhigh)
  have hport : ((toml.integerAt node "port").getD 51337).toInt32.toInt = _ :=
    toInt32_toInt ⟨by omega, by omega⟩
  refine { hr with telemetryBindAddress := by simpa using haddress, telemetryPort := ⟨?_, ?_⟩ }
  · exact Int32.le_iff_toInt_le.mpr (hport ▸ hlow)
  · exact Int32.le_iff_toInt_le.mpr (hport ▸ hhigh)

theorem parseCredentials_valid (hr : rest.Valid address)
    (h : parseCredentials toml rest node = .ok config) : config.Valid address := by
  obtain rfl := Except.ok.inj h
  exact { hr with }

theorem inTable_valid {key : QString}
    {read : DashboardConfig → toml.Node → Except QString DashboardConfig}
    (hread : ∀ {rest config table}, rest.Valid address → read rest table = .ok config →
      config.Valid address)
    (hr : rest.Valid address) (h : inTable toml document key read rest = .ok config) :
    config.Valid address := by
  unfold inTable at h
  split at h
  · exact hread hr h
  · obtain rfl := Except.ok.inj h
    exact hr

theorem parseWeather_valid (hr : rest.Valid address)
    (h : parseWeather toml contents document rest = .ok config) : config.Valid address := by
  unfold parseWeather at h
  split at h
  case isTrue =>
    simp only [bind_eq_ok] at h
    obtain ⟨weather, hparse, h⟩ := h
    obtain rfl := Except.ok.inj h
    refine { hr with weather := fun _ hm => ?_ }
    obtain rfl := Option.some.inj hm
    exact parseWeatherConfig_settings hparse
  case isFalse =>
    obtain rfl := Except.ok.inj h
    exact hr

/-- A configuration that is accepted is valid. -/
theorem parseDashboardConfig_valid (hdefault : isIPv4 (address "0.0.0.0"))
    (h : parseDashboardConfig toml address contents = .ok config) : config.Valid address := by
  simp only [parseDashboardConfig, bind_eq_ok] at h
  obtain ⟨document, -, display, hdisplay, projects, hprojects, telemetry, htelemetry, credentials,
    hcredentials, h⟩ := h
  have hdisplay : display.Valid address :=
    inTable_valid parseDisplay_valid (default_valid hdefault) hdisplay
  have hprojects : projects.Valid address := inTable_valid parseProjects_valid hdisplay hprojects
  have htelemetry : telemetry.Valid address :=
    inTable_valid parseTelemetry_valid hprojects htelemetry
  have hcredentials : credentials.Valid address :=
    inTable_valid parseCredentials_valid htelemetry hcredentials
  exact parseWeather_valid hcredentials h

end Parsing

section Reporting

/-- A refusal says something. -/
def Reports {α : Type} (x : Except QString α) : Prop := ∀ message, x = .error message → message ≠ ""

variable {α β : Type} {toml : DashboardToml} {address : QString → QHostAddress}
  {config : DashboardConfig} {contents : QByteArray} {document node : toml.Node}

theorem Reports.ok {a : α} : Reports (.ok a) := nofun

theorem Reports.bind {x : Except QString α} {f : α → Except QString β} (hx : Reports x)
    (hf : ∀ a, Reports (f a)) : Reports (x >>= f) := by
  intro message h
  cases x with
  | error e => exact hx message (congrArg Except.error (Except.error.inj h))
  | ok a => exact hf a message h

theorem append_ne_empty {text message : QString} (h : text ≠ "") : text ++ message ≠ "" := by
  intro happend
  have hlists : text.toList ++ message.toList = [] := by
    rw [← String.toList_append, happend]
    rfl
  exact h (String.toList_eq_nil_iff.mp (List.append_eq_nil_iff.mp hlists).1)

theorem Reports.refuse {c : Prop} [Decidable c] {message : QString} :
    Reports (refuse c message) := by
  unfold Dashboard.refuse
  split
  · rintro _ ⟨⟩
    exact append_ne_empty (by decide)
  · exact .ok

theorem Reports.require {c : Prop} [Decidable c] {message : QString} :
    Reports (require c message) := by
  unfold Weather.require
  split
  · exact .ok
  · rintro _ ⟨⟩
    exact append_ne_empty (by decide)

theorem Reports.required {value : Option α} {message : QString} :
    Reports (required value message) := by
  cases value with
  | some _ => exact .ok
  | none =>
    rintro _ ⟨⟩
    exact append_ne_empty (by decide)

theorem Reports.mapError {x : Except QString α} {f : QString → QString} (hf : ∀ e, f e ≠ "") :
    Reports (x.mapError f) := by
  intro message h
  cases x with
  | error e =>
    obtain rfl := Except.error.inj h
    exact hf e
  | ok _ => cases h

theorem parseWeatherConfig_reports {toml : Toml} :
    Reports (parseWeatherConfig toml contents) := by
  refine .bind (.mapError fun _ => append_ne_empty (by decide)) fun document => ?_
  refine .bind .required fun weather => .bind .require fun _ => .bind .require fun _ => ?_
  refine .bind .required fun location => ?_
  unfold parseLocationTable
  dsimp only
  split
  · exact .bind .require fun _ => .bind .require fun _ => .ok
  · split
    · exact .ok
    · exact .bind .require fun _ => .ok
  · rintro _ ⟨⟩
    exact append_ne_empty (by decide)

theorem inTable_reports {key : QString}
    {read : DashboardConfig → toml.Node → Except QString DashboardConfig}
    (hread : ∀ config table, Reports (read config table)) :
    Reports (inTable toml document key read config) := by
  unfold inTable
  split
  · exact hread _ _
  · exact .ok

theorem parseDashboardConfig_reports : Reports (parseDashboardConfig toml address contents) := by
  refine .bind (.mapError fun _ => append_ne_empty (by decide)) fun document => ?_
  refine .bind (inTable_reports fun _ _ => .bind .refuse fun _ => .bind .refuse fun _ => .ok)
    fun _ => ?_
  refine .bind (inTable_reports fun _ _ => .bind .refuse fun _ => .ok) fun _ => ?_
  refine .bind (inTable_reports fun _ _ => .bind .refuse fun _ => .ok) fun _ => ?_
  refine .bind (inTable_reports fun _ _ => .ok) fun _ => ?_
  unfold parseWeather
  split
  · exact .bind parseWeatherConfig_reports fun _ => .ok
  · exact .ok

end Reporting

/-- An argument that is given is in its range. -/
structure Arguments.Acceptable (address : QString → QHostAddress) (toInt : QString → Option Int32)
    (arguments : Arguments) : Prop where
  width : ∀ text ∈ arguments.width, ∃ n, toInt text = some n ∧ 0 < n
  height : ∀ text ∈ arguments.height, ∃ n, toInt text = some n ∧ 0 < n
  telemetryPort : ∀ text ∈ arguments.telemetryPort,
    ∃ n, toInt text = some n ∧ 1 ≤ n ∧ n ≤ 65535
  telemetryBindAddress : ∀ text ∈ arguments.telemetryBindAddress, isIPv4 (address text)

structure Settings.Valid (settings : Settings) : Prop where
  windowWidth : 0 < settings.windowWidth
  windowHeight : 0 < settings.windowHeight
  telemetryAddress : isIPv4 settings.telemetryAddress
  telemetryPort : settings.telemetryPort ≠ 0
  weather : ∀ weather ∈ settings.weather, WeatherSettings weather

namespace Surroundings

variable {s : Surroundings} {toml : DashboardToml} {address : QString → QHostAddress}
  {toInt : QString → Option Int32} {arguments : Arguments} {explicitPath path : QString}
  {settings : Settings}

/-- The file can be read, and it is a valid configuration. -/
def Accepts (s : Surroundings) (toml : DashboardToml) (address : QString → QHostAddress)
    (path : QString) : Prop :=
  ∃ contents config, s.read path = some contents ∧
    parseDashboardConfig toml address contents = .ok config

/-- The file that is used. -/
def found (s : Surroundings) (explicitPath : QString) : Option QString :=
  if explicitPath ≠ "" then some explicitPath else s.candidates.find? s.fileExists

theorem load_none (h : s.found explicitPath = none) :
    s.loadDashboardConfig toml address explicitPath = {} := by
  unfold found at h
  simp only [loadDashboardConfig, h]

theorem load_accepted (hfound : s.found explicitPath = some path)
    (h : s.Accepts toml address path) :
    ∃ contents config, parseDashboardConfig toml address contents = .ok config ∧
      s.loadDashboardConfig toml address explicitPath = { config, path } := by
  obtain ⟨contents, config, hread, hparse⟩ := h
  unfold found at hfound
  exact ⟨contents, config, hparse, by simp only [loadDashboardConfig, hfound, hread, hparse]⟩

/-- A file that is refused leaves the defaults, and it is fatal if it was named. -/
theorem load_refused (hfound : s.found explicitPath = some path)
    (h : ¬ s.Accepts toml address path) :
    ∃ diagnostic, diagnostic ≠ "" ∧ s.loadDashboardConfig toml address explicitPath =
      { path, diagnostic, fatal := explicitPath ≠ "" } := by
  unfold found at hfound
  cases hread : s.read path with
  | none =>
    exact ⟨"Dashboard configuration could not be read", by decide,
      by simp only [loadDashboardConfig, hfound, hread]⟩
  | some contents =>
    cases hparse : parseDashboardConfig toml address contents with
    | ok config => exact absurd ⟨contents, config, hread, hparse⟩ h
    | error diagnostic =>
      refine ⟨diagnostic, parseDashboardConfig_reports diagnostic hparse, ?_⟩
      simp only [loadDashboardConfig, hfound, hread, hparse]

theorem load_valid (hdefault : isIPv4 (address "0.0.0.0")) :
    (s.loadDashboardConfig toml address explicitPath).config.Valid address := by
  cases hfound : s.found explicitPath with
  | none =>
    rw [load_none hfound]
    exact default_valid hdefault
  | some path =>
    by_cases haccepts : s.Accepts toml address path
    case pos =>
      obtain ⟨contents, config, hparse, hload⟩ := load_accepted hfound haccepts
      rw [hload]
      exact parseDashboardConfig_valid hdefault hparse
    case neg =>
      obtain ⟨diagnostic, -, hload⟩ := load_refused hfound haccepts
      rw [hload]
      exact default_valid hdefault

theorem fatal_eq_false_iff : (s.loadDashboardConfig toml address explicitPath).fatal = false ↔
    explicitPath = "" ∨ s.Accepts toml address explicitPath := by
  by_cases hexplicit : explicitPath = ""
  case pos =>
    refine ⟨fun _ => .inl hexplicit, fun _ => ?_⟩
    cases hfound : s.found explicitPath with
    | none => rw [load_none hfound]
    | some path =>
      by_cases haccepts : s.Accepts toml address path
      case pos =>
        obtain ⟨_, _, -, hload⟩ := load_accepted hfound haccepts
        rw [hload]
      case neg =>
        obtain ⟨_, -, hload⟩ := load_refused hfound haccepts
        rw [hload]
        simp [hexplicit]
  case neg =>
    have hfound : s.found explicitPath = some explicitPath := if_pos hexplicit
    rw [or_iff_right hexplicit]
    by_cases haccepts : s.Accepts toml address explicitPath
    case pos =>
      obtain ⟨_, _, -, hload⟩ := load_accepted hfound haccepts
      simp [hload, haccepts]
    case neg =>
      obtain ⟨_, -, hload⟩ := load_refused hfound haccepts
      simp [hload, haccepts, hexplicit]

/-- The configured number is in its range, so only an argument can be outside. -/
theorem exists_number_iff {argument : Option QString} {configured : Int32} {p : Int32 → Prop}
    [DecidablePred p] (hp : p configured) :
    (∃ n, (number toInt argument configured).filter (fun n => p n) = some n) ↔
      ∀ text ∈ argument, ∃ n, toInt text = some n ∧ p n := by
  cases argument with
  | none => simp [number, hp]
  | some text => simp [number, Option.filter_eq_some_iff]

theorem isIPv4_iff {argument : Option QString} {configured : QString}
    (h : isIPv4 (address configured)) :
    isIPv4 (address (argument.getD configured)) ↔ ∀ text ∈ argument, isIPv4 (address text) := by
  cases argument with
  | none => simp [h]
  | some text => simp

/-- What it takes to start. -/
theorem start_eq_ok_iff : s.start toml address toInt arguments = .ok settings ↔
    let result := s.loadDashboardConfig toml address arguments.explicitPath
    let config := result.config
    let telemetryAddress :=
      address (arguments.telemetryBindAddress.getD config.telemetryBindAddress)
    result.fatal = false ∧ isIPv4 telemetryAddress ∧ ∃ windowWidth windowHeight telemetryPort,
      (number toInt arguments.width config.windowWidth).filter (0 < ·) = some windowWidth ∧
      (number toInt arguments.height config.windowHeight).filter (0 < ·) = some windowHeight ∧
      (number toInt arguments.telemetryPort config.telemetryPort).filter
        (fun port => 1 ≤ port ∧ port ≤ 65535) = some telemetryPort ∧
      s.settings config arguments windowWidth windowHeight telemetryAddress telemetryPort
        (if result.diagnostic ≠ "" then [result.diagnostic] else []) = settings := by
  dsimp only [start]
  split
  case isTrue hfatal => simp [hfatal]
  case isFalse hfatal =>
    split
    case h_1 windowWidth windowHeight telemetryPort hwidth hheight hport haddress =>
      constructor
      · exact fun h => ⟨Bool.eq_false_of_not_eq_true hfatal, haddress, windowWidth, windowHeight,
          telemetryPort, hwidth, hheight, hport, Except.ok.inj h⟩
      · rintro ⟨-, -, width, height, port, hwidth', hheight', hport', rfl⟩
        obtain rfl := Option.some.inj (hwidth.symm.trans hwidth')
        obtain rfl := Option.some.inj (hheight.symm.trans hheight')
        obtain rfl := Option.some.inj (hport.symm.trans hport')
        rfl
    case h_2 hnone =>
      refine ⟨nofun, ?_⟩
      rintro ⟨-, haddress, windowWidth, windowHeight, telemetryPort, hwidth, hheight, hport, -⟩
      exact absurd haddress (hnone windowWidth windowHeight telemetryPort hwidth hheight hport)

theorem exists_start_iff (hdefault : isIPv4 (address "0.0.0.0")) :
    (∃ settings, s.start toml address toInt arguments = .ok settings) ↔
      (arguments.explicitPath = "" ∨ s.Accepts toml address arguments.explicitPath) ∧
        arguments.Acceptable address toInt := by
  have hconfig : (s.loadDashboardConfig toml address arguments.explicitPath).config.Valid address :=
    load_valid hdefault
  constructor
  · rintro ⟨settings, h⟩
    obtain ⟨hfatal, haddress, windowWidth, windowHeight, telemetryPort, hwidth, hheight, hport,
      -⟩ := start_eq_ok_iff.mp h
    exact ⟨fatal_eq_false_iff.mp hfatal,
      (exists_number_iff hconfig.windowWidth).mp ⟨windowWidth, hwidth⟩,
      (exists_number_iff hconfig.windowHeight).mp ⟨windowHeight, hheight⟩,
      (exists_number_iff hconfig.telemetryPort).mp ⟨telemetryPort, hport⟩,
      (isIPv4_iff hconfig.telemetryBindAddress).mp haddress⟩
  · rintro ⟨hfile, hacceptable⟩
    obtain ⟨windowWidth, hwidth⟩ := (exists_number_iff hconfig.windowWidth).mpr hacceptable.width
    obtain ⟨windowHeight, hheight⟩ :=
      (exists_number_iff hconfig.windowHeight).mpr hacceptable.height
    obtain ⟨telemetryPort, hport⟩ :=
      (exists_number_iff hconfig.telemetryPort).mpr hacceptable.telemetryPort
    exact ⟨_, start_eq_ok_iff.mpr ⟨fatal_eq_false_iff.mpr hfile,
      (isIPv4_iff hconfig.telemetryBindAddress).mpr hacceptable.telemetryBindAddress,
      windowWidth, windowHeight, telemetryPort, hwidth, hheight, hport, rfl⟩⟩

theorem start_valid (hdefault : isIPv4 (address "0.0.0.0"))
    (h : s.start toml address toInt arguments = .ok settings) : settings.Valid := by
  obtain ⟨-, haddress, windowWidth, windowHeight, telemetryPort, hwidth, hheight, hport, rfl⟩ :=
    start_eq_ok_iff.mp h
  have hport : 1 ≤ telemetryPort ∧ telemetryPort ≤ 65535 :=
    of_decide_eq_true (Option.filter_eq_some_iff.mp hport).2
  have hlow : 1 ≤ telemetryPort.toInt := Int32.le_iff_toInt_le.mp hport.1
  have hhigh : telemetryPort.toInt ≤ 65535 := Int32.le_iff_toInt_le.mp hport.2
  refine ⟨of_decide_eq_true (Option.filter_eq_some_iff.mp hwidth).2,
    of_decide_eq_true (Option.filter_eq_some_iff.mp hheight).2, haddress, fun hzero => ?_,
    (load_valid hdefault).weather⟩
  have hsmall : telemetryPort.toInt.toNat < 65536 := by omega
  have htoNat : (UInt16.ofNat telemetryPort.toInt.toNat).toNat = telemetryPort.toInt.toNat :=
    UInt16.toNat_ofNat_of_lt' hsmall
  have hport : telemetryPort.toInt.toNat = 0 := htoNat.symm.trans (congrArg UInt16.toNat hzero)
  omega

theorem start_refused (hfound : s.found arguments.explicitPath = some path)
    (hrefused : ¬ s.Accepts toml address path)
    (h : s.start toml address toInt arguments = .ok settings) :
    settings.warnings ≠ [] ∧ settings.weather = none := by
  obtain ⟨diagnostic, hdiagnostic, hload⟩ := load_refused hfound hrefused
  have hsaid : (s.loadDashboardConfig toml address arguments.explicitPath).diagnostic ≠ "" := by
    rw [hload]
    exact hdiagnostic
  have hweather :
      (s.loadDashboardConfig toml address arguments.explicitPath).config.weather = none := by
    rw [hload]
  obtain ⟨-, -, _, _, _, -, -, -, rfl⟩ := start_eq_ok_iff.mp h
  refine ⟨List.append_ne_nil_of_left_ne_nil ?_ _, hweather⟩
  rw [if_pos hsaid]
  exact List.cons_ne_nil _ _

/-- Only a configuration file that was named and an argument out of its range keep the dashboard
from starting.  What has started has valid settings; and a configuration file that was found but is
refused is reported, and the weather is not configured. -/
theorem starts (s : Surroundings) (toml : DashboardToml) (address : QString → QHostAddress)
    (toInt : QString → Option Int32) (arguments : Arguments)
    (hdefault : isIPv4 (address "0.0.0.0")) :
    ((∃ settings, s.start toml address toInt arguments = .ok settings) ↔
      (arguments.explicitPath = "" ∨ s.Accepts toml address arguments.explicitPath) ∧
        arguments.Acceptable address toInt) ∧
    ∀ settings, s.start toml address toInt arguments = .ok settings → settings.Valid ∧
      ∀ path, s.found arguments.explicitPath = some path → ¬ s.Accepts toml address path →
        settings.warnings ≠ [] ∧ settings.weather = none :=
  ⟨exists_start_iff hdefault, fun _ h =>
    ⟨start_valid hdefault h, fun _ hfound hrefused => start_refused hfound hrefused h⟩⟩

section Sample

/-- A configuration file that cannot be read. -/
def sampleSurroundings : Surroundings where
  candidates := ["/etc/xdg/rpi-dashboard/config.toml"]
  fileExists _ := true
  read _ := none
  decodeName := fromLatin1
  environment _ := none

def sampleToml : DashboardToml where
  toToml := World.sampleToml .null
  boolean _ := none

def sampleAddress (text : QString) : QHostAddress := if text = "0.0.0.0" then .ipv4 0 else .null

def sampleNumber (text : QString) : Option Int32 := if text = "800" then some 800 else none

def sampleArguments : Arguments where
  width := some "800"

theorem starts_sample : ∃ settings,
    sampleSurroundings.start sampleToml sampleAddress sampleNumber sampleArguments =
      .ok settings ∧ settings.Valid ∧ settings.warnings ≠ [] := by
  obtain ⟨hstarts, hsettings⟩ := starts sampleSurroundings sampleToml sampleAddress sampleNumber
    sampleArguments (by decide)
  have hacceptable : sampleArguments.Acceptable sampleAddress sampleNumber := by
    refine ⟨?_, nofun, nofun, nofun⟩
    rintro _ ⟨⟩
    exact ⟨800, by decide, by decide⟩
  obtain ⟨settings, h⟩ := hstarts.mpr ⟨.inl rfl, hacceptable⟩
  obtain ⟨hvalid, hrefused⟩ := hsettings settings h
  exact ⟨settings, h, hvalid, (hrefused _ rfl nofun).1⟩

end Sample

end Surroundings

end RpiDashboard.Dashboard
