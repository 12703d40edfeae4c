import RpiDashboard.Qt.JsonReference
import RpiDashboard.Weather.AirQualityLaws
import RpiDashboard.Weather.WeatherCache

/-! A snapshot that is saved is loaded again. -/

namespace RpiDashboard.Weather

open Numeric Qt

section Stored

def CurrentConditions.stored (current : CurrentConditions) : CurrentConditions where
  condition := current.condition
  iconCode := current.iconCode
  temperatureCelsius := current.temperatureCelsius
  feelsLikeCelsius := current.feelsLikeCelsius
  highCelsius := current.highCelsius
  lowCelsius := current.lowCelsius
  humidityPercent := current.humidityPercent
  windSpeedKmh := current.windSpeedKmh
  windDegrees := current.windDegrees

def HourlyForecast.stored (row : HourlyForecast) : HourlyForecast where
  timestampUtc := row.timestampUtc.wholeSeconds
  iconCode := row.iconCode
  temperatureCelsius := row.temperatureCelsius
  precipitationProbabilityPercent := row.precipitationProbabilityPercent

/-- An invalid time has nothing but that. -/
def storedTime (t : QDateTime) : QDateTime := if t.isValid then t.wholeSeconds else {}

def DailyForecast.stored (row : DailyForecast) : DailyForecast where
  timestampUtc := row.timestampUtc.wholeSeconds
  sunriseUtc := storedTime row.sunriseUtc
  sunsetUtc := storedTime row.sunsetUtc
  iconCode := row.iconCode
  minimumCelsius := row.minimumCelsius
  maximumCelsius := row.maximumCelsius
  averageCelsius := row.averageCelsius
  precipitationProbabilityPercent := row.precipitationProbabilityPercent
  rainMillimetres := row.rainMillimetres
  snowMillimetres := row.snowMillimetres

/-- What the cache keeps of a snapshot. -/
def Snapshot.stored (snapshot : Snapshot) : Snapshot where
  provider := snapshot.provider
  location := snapshot.location
  timezoneOffsetSeconds := snapshot.timezoneOffsetSeconds
  fetchedUtc := snapshot.fetchedUtc.wholeSeconds
  current := snapshot.current.stored
  hourly := snapshot.hourly.map HourlyForecast.stored
  daily := (snapshot.daily.take 5).map DailyForecast.stored
  airQuality := snapshot.airQuality.map fun airQuality =>
    { index := airQuality.index, category := airQuality.category }
  sunsetUtc := storedTime snapshot.sunsetUtc
  todayPrecipitationKind :=
    if snapshot.todayPrecipitationKind = "" then "none" else snapshot.todayPrecipitationKind

end Stored

section Cacheable

/-- An `int`. -/
def IsInt (n : Int) : Prop := -2 ^ 31 ≤ n ∧ n < 2 ^ 31

def Utc (t : QDateTime) : Prop := t.isValid → t.offsetSeconds = 0

def IsPercentage (d : Double) : Prop := d.isFinite ∧ outside d .zero (.ofInt 100) = false

structure CurrentConditions.Cacheable (current : CurrentConditions) : Prop where
  temperature : current.temperatureCelsius.isFinite
  feelsLike : current.feelsLikeCelsius.isFinite
  high : current.highCelsius.isFinite
  low : current.lowCelsius.isFinite
  humidity : IsPercentage current.humidityPercent
  windSpeed : current.windSpeedKmh.isFinite ∧ current.windSpeedKmh.less .zero = false
  windDegrees : current.windDegrees.isFinite

structure HourlyForecast.Cacheable (row : HourlyForecast) : Prop where
  timestamp : row.timestampUtc.isValid ∧ Utc row.timestampUtc
  temperature : row.temperatureCelsius.isFinite
  precipitation : IsPercentage row.precipitationProbabilityPercent

structure DailyForecast.Cacheable (row : DailyForecast) : Prop where
  timestamp : row.timestampUtc.isValid ∧ Utc row.timestampUtc
  sunrise : Utc row.sunriseUtc
  sunset : Utc row.sunsetUtc
  minimum : row.minimumCelsius.isFinite
  maximum : row.maximumCelsius.isFinite
  precipitation : IsPercentage row.precipitationProbabilityPercent
  average : ∀ d ∈ row.averageCelsius, d.isFinite
  rain : ∀ d ∈ row.rainMillimetres, d.isFinite
  snow : ∀ d ∈ row.snowMillimetres, d.isFinite

structure Snapshot.Cacheable (qt : QtText) (config : WeatherConfig) (snapshot : Snapshot) :
    Prop where
  provider : snapshot.provider = config.provider
  location : snapshot.location.inRange ∧ config.places qt snapshot.location
  timezoneOffset : IsInt snapshot.timezoneOffsetSeconds
  fetched : snapshot.fetchedUtc.isValid ∧ Utc snapshot.fetchedUtc
  sunset : Utc snapshot.sunsetUtc
  current : snapshot.current.Cacheable
  hourly : snapshot.hourly.length ≤ 64 ∧ ∀ row ∈ snapshot.hourly, row.Cacheable
  daily : ∀ row ∈ snapshot.daily.take 5, row.Cacheable
  airQuality : ∀ airQuality ∈ snapshot.airQuality, IsInt airQuality.index

end Cacheable

section Reading

variable {qt : QtText} {a b : QJsonValue}

theorem validNumber_eq (h : a.Alike b) (key : QString) :
    validNumber a.toObject key = validNumber b.toObject key := by
  rw [validNumber, (h.member key).isDouble, (h.member key).toDouble, validNumber]

theorem optionalNumber_eq (h : a.Alike b) (key : QString) :
    optionalNumber a.toObject key = optionalNumber b.toObject key := by
  rw [optionalNumber, (h.member key).isDouble, (h.member key).toDouble, optionalNumber]

theorem timeAt_eq (h : a.Alike b) (key : QString) :
    timeAt qt a.toObject key = timeAt qt b.toObject key := by
  rw [timeAt, (h.member key).toString, timeAt]

theorem validHourly_eq (h : a.Alike b) : validHourly qt a = validHourly qt b := by
  simp only [validHourly, h.isObject, timeAt_eq h, validNumber_eq h,
    (h.member "precipitation").toDouble]

theorem readHourly_eq (h : a.Alike b) : readHourly qt a = readHourly qt b := by
  simp only [readHourly, validHourly_eq h, timeAt_eq h, (h.member "precipitation").toDouble,
    (h.member "icon").toString, (h.member "temperature").toDouble]

theorem validDaily_eq (h : a.Alike b) : validDaily qt a = validDaily qt b := by
  simp only [validDaily, h.isObject, timeAt_eq h, validNumber_eq h,
    (h.member "precipitation").toDouble]

theorem readDaily_eq (h : a.Alike b) : readDaily qt a = readDaily qt b := by
  simp only [readDaily, validDaily_eq h, timeAt_eq h, optionalNumber_eq h,
    (h.member "precipitation").toDouble, (h.member "icon").toString,
    (h.member "minimum").toDouble, (h.member "maximum").toDouble]

theorem jsonLocation_eq (h : a.Alike b) : jsonLocation a.toObject = jsonLocation b.toObject := by
  simp only [jsonLocation, (h.member "city").toString, (h.member "country").toString,
    (h.member "latitude").toDouble, (h.member "longitude").toDouble]

theorem readCurrent_eq (h : a.Alike b) : readCurrent a.toObject = readCurrent b.toObject := by
  simp only [readCurrent, (h.member "condition").toString, (h.member "icon").toString,
    (h.member "temperature").toDouble, (h.member "feelsLike").toDouble,
    (h.member "high").toDouble, (h.member "low").toDouble, (h.member "humidity").toDouble,
    (h.member "windSpeed").toDouble, (h.member "windDegrees").toDouble]

theorem validCurrent_eq (h : a.Alike b) : validCurrent a.toObject = validCurrent b.toObject := by
  simp only [validCurrent, (h.member "humidity").toDouble,
    (h.member "windSpeed").toDouble, funext (validNumber_eq h)]

theorem readAirQuality_eq (h : a.Alike b) :
    readAirQuality a.toObject = readAirQuality b.toObject := by
  simp only [readAirQuality, h.isEmpty, (h.member "index").toInt, (h.member "category").toString]

theorem hasShape_eq (h : a.Alike b) : hasShape a.toObject = hasShape b.toObject := by
  simp only [hasShape, (h.member "schemaVersion").toInt, (h.member "location").isObject,
    (h.member "current").isObject, (h.member "hourly").isArray, (h.member "daily").isArray,
    (h.member "hourly").toArray.length_eq, (h.member "daily").toArray.length_eq]

theorem validHead_eq (h : a.Alike b) (config : WeatherConfig) :
    validHead qt config a.toObject = validHead qt config b.toObject := by
  simp only [validHead, hasShape_eq h, (h.member "provider").toString, timeAt_eq h,
    jsonLocation_eq (h.member "location"), validCurrent_eq (h.member "current")]

/-- Alike documents give the same snapshot. -/
theorem readCache_eq (h : a.Alike b) (config : WeatherConfig) :
    readCache qt config a.toObject = readCache qt config b.toObject := by
  simp only [readCache, validHead_eq h, timeAt_eq h, jsonLocation_eq (h.member "location"),
    readCurrent_eq (h.member "current"), (h.member "timezoneOffset").toInt,
    (h.member "precipitationKind").toString, readAirQuality_eq (h.member "airQuality"),
    QJsonValue.Alike.mapM_eq (h.member "hourly").toArray fun _ _ => readHourly_eq,
    QJsonValue.Alike.mapM_eq (h.member "daily").toArray fun _ _ => readDaily_eq]

end Reading

section Writing

variable {writer : QtWriter} {qt : QtText}

theorem toInt_ofInt {n : Int} (h : IsInt n) : (QJsonValue.ofInt n).toInt = n := by
  have hn : (Int64.ofInt n).toInt = n :=
    Int64.toInt_ofInt_of_le (by have := h.1; omega) (by have := h.2; omega)
  rw [QJsonValue.ofInt, QJsonValue.toInt, QJsonValue.toIntegral, hn]
  exact if_pos h

theorem fromIsoDate_stored (hw : writer.RoundTrips qt) {t : QDateTime} (h : Utc t) :
    qt.fromIsoDate (writer.toIsoDate t) = storedTime t := by
  unfold storedTime
  split
  case isTrue hvalid => exact hw.isoDate t hvalid (h hvalid)
  case isFalse hinvalid => exact hw.invalid t (eq_false_of_ne_true hinvalid)

theorem fromIsoDate_valid (hw : writer.RoundTrips qt) {t : QDateTime} (h : t.isValid ∧ Utc t) :
    qt.fromIsoDate (writer.toIsoDate t) = t.wholeSeconds :=
  hw.isoDate t h.1 (h.2 h.1)

theorem isValid_wholeSeconds {t : QDateTime} (h : t.isValid) : t.wholeSeconds.isValid := by
  simpa [QDateTime.wholeSeconds, QDateTime.isValid] using h

theorem readHourly_hourlyJson (hw : writer.RoundTrips qt) {row : HourlyForecast}
    (h : row.Cacheable) : readHourly qt (.object (hourlyJson writer row)) = some row.stored := by
  simp [readHourly, validHourly, hourlyJson, QJsonValue.toObject, QJsonObject.value, timeAt,
    validNumber, QJsonValue.isObject, QJsonValue.toString, QJsonValue.isDouble,
    QJsonValue.toDouble, fromIsoDate_valid hw h.timestamp, isValid_wholeSeconds h.timestamp.1,
    h.temperature, h.precipitation.1, h.precipitation.2, HourlyForecast.stored]

theorem optionalNumber_optionalJson {object : QJsonObject} {key : QString} {d : Option Double}
    (h : object.value key = optionalJson d) : optionalNumber object key = d := by
  rw [optionalNumber, h]
  cases d <;> rfl

theorem readDaily_dailyJson (hw : writer.RoundTrips qt) {row : DailyForecast}
    (h : row.Cacheable) : readDaily qt (.object (dailyJson writer row)) = some row.stored := by
  have haverage : optionalNumber (dailyJson writer row) "average" = row.averageCelsius :=
    optionalNumber_optionalJson (by simp [dailyJson, QJsonObject.value])
  have hrain : optionalNumber (dailyJson writer row) "rain" = row.rainMillimetres :=
    optionalNumber_optionalJson (by simp [dailyJson, QJsonObject.value])
  have hsnow : optionalNumber (dailyJson writer row) "snow" = row.snowMillimetres :=
    optionalNumber_optionalJson (by simp [dailyJson, QJsonObject.value])
  simp only [readDaily, validDaily, QJsonValue.toObject, haverage, hrain, hsnow]
  simp [dailyJson, QJsonObject.value, timeAt, validNumber, QJsonValue.isObject,
    QJsonValue.toString, QJsonValue.isDouble, QJsonValue.toDouble,
    fromIsoDate_valid hw h.timestamp, isValid_wholeSeconds h.timestamp.1,
    fromIsoDate_stored hw h.sunrise, fromIsoDate_stored hw h.sunset, h.minimum, h.maximum,
    h.precipitation.1, h.precipitation.2, DailyForecast.stored]

theorem jsonLocation_locationJson (location : Location) :
    jsonLocation (locationJson location) = location := by
  simp [jsonLocation, locationJson, QJsonObject.value, QJsonValue.toString, QJsonValue.toDouble]

theorem readCurrent_currentJson (current : CurrentConditions) :
    readCurrent (currentJson current) = current.stored := by
  simp [readCurrent, currentJson, QJsonObject.value, QJsonValue.toString, QJsonValue.toDouble,
    CurrentConditions.stored]

theorem validCurrent_currentJson {current : CurrentConditions} (h : current.Cacheable) :
    validCurrent (currentJson current) := by
  simp [validCurrent, currentNumbers, validNumber, currentJson, QJsonObject.value,
    QJsonValue.isDouble, QJsonValue.toDouble, h.temperature, h.feelsLike, h.high, h.low,
    h.humidity.1, h.humidity.2, h.windSpeed.1, h.windSpeed.2, h.windDegrees]

theorem mapM_map {α : Type} {xs : List α} {write : α → QJsonValue} {read : QJsonValue → Option α}
    {stored : α → α} (h : ∀ x ∈ xs, read (write x) = some (stored x)) :
    (xs.map write).mapM read = some (xs.map stored) := by
  induction xs with
  | nil => rfl
  | cons x xs ih =>
    obtain ⟨hx, hxs⟩ := List.forall_mem_cons.mp h
    rw [List.map_cons, List.mapM_cons, hx, ih hxs]
    rfl

theorem readAirQuality_cacheJson {snapshot : Snapshot}
    (h : ∀ airQuality ∈ snapshot.airQuality, IsInt airQuality.index) :
    readAirQuality ((cacheJson writer snapshot).value "airQuality").toObject =
      snapshot.stored.airQuality := by
  cases hair : snapshot.airQuality with
  | none =>
    simp [cacheJson, hair, QJsonObject.value, QJsonValue.toObject, readAirQuality, Snapshot.stored]
  | some airQuality =>
    have hindex := toInt_ofInt (h airQuality hair)
    simp [cacheJson, hair, QJsonObject.value, QJsonValue.toObject, readAirQuality, airQualityJson,
      QJsonValue.toString, hindex, Snapshot.stored]

theorem readCache_cacheJson (hw : writer.RoundTrips qt) {config : WeatherConfig}
    {snapshot : Snapshot} (h : snapshot.Cacheable qt config) :
    readCache qt config (cacheJson writer snapshot) = some snapshot.stored := by
  have hair : readAirQuality ((cacheJson writer snapshot).value "airQuality").toObject =
      snapshot.stored.airQuality := readAirQuality_cacheJson h.airQuality
  have hhourly := mapM_map fun row hr => readHourly_hourlyJson hw (h.hourly.2 row hr)
  have hdaily := mapM_map fun row hr => readDaily_dailyJson hw (h.daily row hr)
  have hone : (QJsonValue.ofInt 1).toInt = 1 := toInt_ofInt (by unfold IsInt; decide)
  have hrows : min 5 snapshot.daily.length ≤ 16 := by omega
  have hvalid : validHead qt config (cacheJson writer snapshot) := by
    simp [validHead, hasShape, cacheJson, QJsonObject.value, QJsonValue.toObject, timeAt,
      QJsonValue.isObject, QJsonValue.isArray, QJsonValue.toArray, QJsonValue.toString, hone,
      jsonLocation_locationJson, validCurrent_currentJson h.current, fromIsoDate_valid hw h.fetched,
      isValid_wholeSeconds h.fetched.1, h.provider, h.location.1, h.location.2, h.hourly.1, hrows]
  rw [readCache, if_pos hvalid, hair]
  simp [-List.map_take, cacheJson, QJsonObject.value, QJsonValue.toObject, timeAt,
    QJsonValue.toArray, QJsonValue.toString, hhourly, hdaily, jsonLocation_locationJson, readCurrent_currentJson,
    fromIsoDate_valid hw h.fetched, fromIsoDate_stored hw h.sunset,
    toInt_ofInt h.timezoneOffset, h.provider, Snapshot.stored]

theorem storable_locationJson {location : Location} (h : location.inRange) :
    (QJsonValue.object (locationJson location)).Storable := by
  simp only [Location.inRange, Bool.and_eq_true] at h
  obtain ⟨⟨⟨hlatitude, -⟩, hlongitude⟩, -⟩ := h
  refine .object _ (by simp [locationJson]) ?_
  simp only [locationJson, List.forall_mem_cons]
  exact ⟨.string _, .string _, .double _ hlatitude, .double _ hlongitude, by simp⟩

theorem storable_currentJson {current : CurrentConditions} (h : current.Cacheable) :
    (QJsonValue.object (currentJson current)).Storable := by
  refine .object _ (by simp [currentJson]) ?_
  simp only [currentJson, List.forall_mem_cons]
  exact ⟨.string _, .string _, .double _ h.temperature, .double _ h.feelsLike, .double _ h.high,
    .double _ h.low, .double _ h.humidity.1, .double _ h.windSpeed.1, .double _ h.windDegrees,
    by simp⟩

theorem storable_hourlyJson {row : HourlyForecast} (h : row.Cacheable) :
    (QJsonValue.object (hourlyJson writer row)).Storable := by
  refine .object _ (by simp [hourlyJson]) ?_
  simp only [hourlyJson, List.forall_mem_cons]
  exact ⟨.string _, .string _, .double _ h.temperature, .double _ h.precipitation.1, by simp⟩

theorem storable_optionalJson {d : Option Double} (h : ∀ x ∈ d, x.isFinite) :
    (optionalJson d).Storable := by
  cases d with
  | none => exact .null
  | some d => exact .double d (h d rfl)

theorem storable_dailyJson {row : DailyForecast} (h : row.Cacheable) :
    (QJsonValue.object (dailyJson writer row)).Storable := by
  refine .object _ (by simp [dailyJson]) ?_
  simp only [dailyJson, List.forall_mem_cons]
  exact ⟨.string _, .string _, .string _, .string _, .double _ h.minimum, .double _ h.maximum,
    .double _ h.precipitation.1, storable_optionalJson h.average, storable_optionalJson h.rain,
    storable_optionalJson h.snow, by simp⟩

theorem storable_airQualityJson (airQuality : AirQuality) :
    (QJsonValue.object (airQualityJson airQuality)).Storable := by
  refine .object _ (by simp [airQualityJson]) ?_
  simp only [airQualityJson, List.forall_mem_cons]
  exact ⟨.integer _, .string _, by simp⟩

theorem storable_cacheJson {config : WeatherConfig} {snapshot : Snapshot}
    (h : snapshot.Cacheable qt config) :
    (QJsonValue.object (cacheJson writer snapshot)).Storable := by
  have hhourly : ∀ x ∈ snapshot.hourly.map fun row => QJsonValue.object (hourlyJson writer row),
      x.Storable := List.forall_mem_map.mpr fun row hr => storable_hourlyJson (h.hourly.2 row hr)
  have hdaily : ∀ x ∈ (snapshot.daily.take 5).map fun row =>
      QJsonValue.object (dailyJson writer row), x.Storable :=
    List.forall_mem_map.mpr fun row hr => storable_dailyJson (h.daily row hr)
  refine .object _ ?_ ?_
  · cases hair : snapshot.airQuality <;> simp [cacheJson, hair]
  · refine List.forall_mem_append.mpr ⟨?_, ?_⟩
    · simp only [List.forall_mem_cons]
      exact ⟨.integer _, .string _, storable_locationJson h.location.1, .integer _, .string _,
        .string _, .string _, storable_currentJson h.current, .array _ hhourly, .array _ hdaily,
        by simp⟩
    · cases snapshot.airQuality with
      | none => simp
      | some airQuality => simpa using storable_airQualityJson airQuality

namespace WeatherService

variable {service : WeatherService} {snapshot : Snapshot} {now : QDateTime}

theorem restore_snapshot {cached : Snapshot} :
    (service.restore cached now).snapshot = withTodayMaximum cached now := by
  simp only [restore, updateNextSolarEvent, scheduleLocalHourBoundary_snapshot]
  rfl

section Sample

/-- Fetched a quarter of a second past the whole one. -/
def sampleCached : Snapshot where
  provider := "openweather"
  location := samplePlace
  timezoneOffsetSeconds := 10800
  fetchedUtc := { msecs := some 1750000000250 }
  current := { condition := "Clouds", iconCode := "04d", temperatureCelsius := .ofInt 21 }
  hourly := [{
    timestampUtc := sampleNow
    iconCode := "10d"
    temperatureCelsius := .ofInt 22
    precipitationProbabilityPercent := .ofInt 40 }]
  daily := [{
    timestampUtc := sampleNow
    sunriseUtc := {}
    sunsetUtc := sampleNow
    iconCode := "10d"
    minimumCelsius := .ofInt 12
    maximumCelsius := .ofInt 24
    precipitationProbabilityPercent := .ofInt 60
    rainMillimetres := some (.ofInt 3) }]
  airQuality := some sampleAirQuality
  sunsetUtc := sampleNow
  todayPrecipitationKind := "rain"

/-- The file of the sample. -/
def sampleContents : QByteArray := toUtf8 (
  "\x7b\"airQuality\":\x7b\"category\":\"fair\",\"index\":2\x7d,\"current\":\x7b" ++
  "\"condition\":\"Clouds\",\"feelsLike\":0,\"high\":0,\"humidity\":0,\"icon\":\"04d\"," ++
  "\"low\":0,\"temperature\":21,\"windDegrees\":0,\"windSpeed\":0\x7d,\"daily\":[\x7b" ++
  "\"average\":null,\"icon\":\"10d\",\"maximum\":24,\"minimum\":12,\"precipitation\":60," ++
  "\"rain\":3,\"snow\":null,\"sunrise\":\"\",\"sunset\":\"2025-06-15T15:06:40Z\"," ++
  "\"timestamp\":\"2025-06-15T15:06:40Z\"\x7d],\"fetched\":\"2025-06-15T15:06:40Z\"," ++
  "\"hourly\":[\x7b\"icon\":\"10d\",\"precipitation\":40,\"temperature\":22," ++
  "\"timestamp\":\"2025-06-15T15:06:40Z\"\x7d],\"location\":\x7b\"city\":\"\",\"country\":\"\"," ++
  "\"latitude\":49.84,\"longitude\":24.03\x7d,\"precipitationKind\":\"rain\"," ++
  "\"provider\":\"openweather\",\"schemaVersion\":1,\"sunset\":\"2025-06-15T15:06:40Z\"," ++
  "\"timezoneOffset\":10800\x7d")

def sampleIsoDate (t : QDateTime) : QString := if t.isValid then "2025-06-15T15:06:40Z" else ""

def sampleDocument : QJsonValue :=
  .object (cacheJson { toJson := fun _ => [], toIsoDate := sampleIsoDate } sampleCached)

def sampleWriter : QtWriter :=
  referenceWriter sampleDocument sampleContents 1750000000 "2025-06-15T15:06:40Z"

noncomputable def cacheText : QtText :=
  referenceText sampleDocument sampleContents 1750000000 "2025-06-15T15:06:40Z" sampleText

theorem sampleWriter_isoDate {t : QDateTime} (h : t ∈ [sampleCached.fetchedUtc, sampleNow, {}]) :
    sampleWriter.toIsoDate t = sampleIsoDate t := by
  simp only [List.mem_cons, List.not_mem_nil, or_false] at h
  obtain rfl | rfl | rfl := h
  · exact writtenTime_self _ _
  · exact writtenTime_self _ _
  · rfl

theorem cacheContents_sample : cacheContents sampleWriter sampleCached = some sampleContents := by
  have hdocument : QJsonValue.object (cacheJson sampleWriter sampleCached) = sampleDocument := by
    have hnow : sampleWriter.toIsoDate sampleNow = _ := sampleWriter_isoDate (by simp)
    have hfetched : sampleWriter.toIsoDate sampleCached.fetchedUtc = _ :=
      sampleWriter_isoDate (by simp)
    have hnone : sampleWriter.toIsoDate {} = _ := sampleWriter_isoDate (by simp)
    simp only [sampleDocument, cacheJson, hfetched]
    simp only [sampleCached, hourlyJson, dailyJson, List.map_cons, List.map_nil, List.take, hnow,
      hnone]
  rw [cacheContents, hdocument]
  exact congrArg some (writtenJson_self _ _)

theorem isPercentage_sample : ∀ d ∈ [Double.zero, .ofInt 3, .ofInt 12, .ofInt 21, .ofInt 22,
    .ofInt 24, .ofInt 40, .ofInt 60], IsPercentage d := by
  unfold IsPercentage
  decide +kernel

theorem sampleCached_cacheable : sampleCached.Cacheable cacheText sampleConfig where
  provider := rfl
  location := ⟨by decide +kernel, by simp [WeatherConfig.places, sampleConfig, Location.cacheKey,
    sampleCached, samplePlace]⟩
  timezoneOffset := by unfold IsInt; decide
  fetched := ⟨rfl, fun _ => rfl⟩
  sunset _ := rfl
  current :=
    have hzero := isPercentage_sample .zero (by simp)
    { temperature := (isPercentage_sample (.ofInt 21) (by simp)).1
      feelsLike := hzero.1
      high := hzero.1
      low := hzero.1
      humidity := hzero
      windSpeed := ⟨hzero.1, (Bool.or_eq_false_iff.mp hzero.2).1⟩
      windDegrees := hzero.1 }
  hourly := by
    refine ⟨by decide, List.forall_mem_singleton.mpr ⟨⟨rfl, fun _ => rfl⟩, ?_, ?_⟩⟩
    · exact (isPercentage_sample (.ofInt 22) (by simp)).1
    · exact isPercentage_sample (.ofInt 40) (by simp)
  daily := List.forall_mem_singleton.mpr
    { timestamp := ⟨rfl, fun _ => rfl⟩
      sunrise := fun h => by cases h
      sunset := fun _ => rfl
      minimum := (isPercentage_sample (.ofInt 12) (by simp)).1
      maximum := (isPercentage_sample (.ofInt 24) (by simp)).1
      precipitation := isPercentage_sample (.ofInt 60) (by simp)
      average := by simp
      rain := by simpa using (isPercentage_sample (.ofInt 3) (by simp)).1
      snow := by simp }
  airQuality := by
    rintro _ ⟨⟩
    unfold IsInt
    decide

end Sample

end WeatherService

end Writing

end RpiDashboard.Weather
