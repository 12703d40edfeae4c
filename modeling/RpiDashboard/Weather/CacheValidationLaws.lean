import RpiDashboard.Weather.AirQualityLaws
import RpiDashboard.Weather.WeatherCache

/-! What a cache must be to be well formed, and what `loadCache` checks of it. -/

namespace RpiDashboard.Weather

open Numeric Qt

section Fields

/-- The check of each field. -/
abbrev Fields := List (QString × (QJsonValue → Bool))

def isAbsent : QJsonValue → Bool
  | .undefined => true
  | _ => false

/-- Every field that is present passes its check. -/
def conforms (fields : Fields) (object : QJsonObject) : Bool :=
  fields.all fun field => isAbsent (object.value field.1) || field.2 (object.value field.1)

@[simp] theorem conforms_nil {object : QJsonObject} : conforms [] object := rfl

@[simp] theorem conforms_cons {key : QString} {check : QJsonValue → Bool} {fields : Fields}
    {object : QJsonObject} : conforms ((key, check) :: fields) object =
      ((isAbsent (object.value key) || check (object.value key)) && conforms fields object) :=
  rfl

def isNumber (value : QJsonValue) : Bool := value.isDouble && value.toDouble.isFinite

def isWithin (low high : Int) (value : QJsonValue) : Bool :=
  isNumber value && !outside value.toDouble (.ofInt low) (.ofInt high)

def isPercentage (value : QJsonValue) : Bool :=
  isNumber value && !outside value.toDouble .zero (.ofInt 100)

def isNotNegative (value : QJsonValue) : Bool := isNumber value && !value.toDouble.less .zero

/-- An `int`. -/
def isInt : QJsonValue → Bool
  | .integer i => -2 ^ 31 ≤ i.toInt && i.toInt < 2 ^ 31
  | .double d => d.isFinite && d.toRat.den = 1 && -2 ^ 31 ≤ d.toRat.num && d.toRat.num < 2 ^ 31
  | _ => false

def isIndex (value : QJsonValue) : Bool := isInt value && 1 ≤ value.toInt && value.toInt ≤ 5

def isNullOrNumber (value : QJsonValue) : Bool :=
  value.isDouble || match value with
    | .null => true
    | _ => false

def isMember (fields : Fields) (value : QJsonValue) : Bool :=
  value.isObject && conforms fields value.toObject

def areRows (limit : Nat) (fields : Fields) (value : QJsonValue) :
    Bool :=
  value.isArray && value.toArray.length ≤ limit && value.toArray.all (isMember fields)

variable (qt : QtText)

def isTime (value : QJsonValue) : Bool := value.isString && (qt.fromIsoDate value.toString).isValid

def isEmptyOrTime (value : QJsonValue) : Bool :=
  value.isString && (value.toString = "" || (qt.fromIsoDate value.toString).isValid)

def locationFields : Fields :=
  [("city", QJsonValue.isString),
    ("country", QJsonValue.isString),
    ("latitude", isWithin (-90) 90),
    ("longitude", isWithin (-180) 180)]

def currentFields : Fields :=
  [("condition", QJsonValue.isString),
    ("icon", QJsonValue.isString),
    ("temperature", isNumber),
    ("feelsLike", isNumber),
    ("high", isNumber),
    ("low", isNumber),
    ("humidity", isPercentage),
    ("windSpeed", isNotNegative),
    ("windDegrees", isNumber)]

def hourlyFields : Fields :=
  [("timestamp", isTime qt),
    ("icon", QJsonValue.isString),
    ("temperature", isNumber),
    ("precipitation", isPercentage)]

def dailyFields : Fields :=
  [("timestamp", isTime qt),
    ("sunrise", isEmptyOrTime qt),
    ("sunset", isEmptyOrTime qt),
    ("icon", QJsonValue.isString),
    ("minimum", isNumber),
    ("maximum", isNumber),
    ("precipitation", isPercentage),
    ("average", isNullOrNumber),
    ("rain", isNullOrNumber),
    ("snow", isNullOrNumber)]

def airQualityFields : Fields :=
  [("index", isIndex), ("category", QJsonValue.isString)]

/-- The fields that `saveCache` writes, each with its type and its range. -/
def cacheFields : Fields :=
  [("schemaVersion", fun value => isInt value && value.toInt = 1),
    ("provider", QJsonValue.isString),
    ("location", isMember locationFields),
    ("timezoneOffset", isInt),
    ("fetched", isTime qt),
    ("sunset", isEmptyOrTime qt),
    ("precipitationKind", QJsonValue.isString),
    ("current", isMember currentFields),
    ("hourly", areRows 64 (hourlyFields qt)),
    ("daily", areRows 16 (dailyFields qt)),
    ("airQuality", isMember airQualityFields)]

end Fields

section Unchecked

/-- The fields that are read without a check: of the coordinates it is the type. -/
def uncheckedLocation : Fields :=
  [("city", QJsonValue.isString),
    ("country", QJsonValue.isString),
    ("latitude", QJsonValue.isDouble),
    ("longitude", QJsonValue.isDouble)]

def uncheckedCurrent : Fields :=
  [("condition", QJsonValue.isString), ("icon", QJsonValue.isString)]

def uncheckedHourly : Fields := [("icon", QJsonValue.isString)]

variable (qt : QtText)

def uncheckedDaily : Fields :=
  [("sunrise", isEmptyOrTime qt),
    ("sunset", isEmptyOrTime qt),
    ("icon", QJsonValue.isString),
    ("average", isNullOrNumber),
    ("rain", isNullOrNumber),
    ("snow", isNullOrNumber)]

/-- The provider is compared as a text. -/
def uncheckedFields : Fields :=
  [("provider", QJsonValue.isString),
    ("location", fun value => conforms uncheckedLocation value.toObject),
    ("timezoneOffset", isInt),
    ("sunset", isEmptyOrTime qt),
    ("precipitationKind", QJsonValue.isString),
    ("current", fun value => conforms uncheckedCurrent value.toObject),
    ("hourly", fun value => value.toArray.all fun row => conforms uncheckedHourly row.toObject),
    ("daily", fun value => value.toArray.all fun row => conforms (uncheckedDaily qt) row.toObject),
    ("airQuality", isMember airQualityFields)]

end Unchecked

section Accepted

variable {qt : QtText}

/-- Every check that `loadCache` makes. -/
def passesChecks (qt : QtText) (config : WeatherConfig) (root : QJsonObject) : Bool :=
  validHead qt config root && (root.value "hourly").toArray.all (validHourly qt) &&
    (root.value "daily").toArray.all (validDaily qt)

theorem isSome_mapM {α β : Type} {read : α → Option β} {xs : List α} :
    (xs.mapM read).isSome = xs.all fun x => (read x).isSome := by
  induction xs with
  | nil => rfl
  | cons x xs ih =>
    rw [List.mapM_cons, List.all_cons, ← ih]
    cases read x with
    | none => rfl
    | some y => cases xs.mapM read <;> rfl

theorem isSome_readHourly {value : QJsonValue} :
    (readHourly qt value).isSome = validHourly qt value := by
  unfold readHourly
  cases validHourly qt value <;> rfl

theorem isSome_readDaily {value : QJsonValue} :
    (readDaily qt value).isSome = validDaily qt value := by
  unfold readDaily
  cases validDaily qt value <;> rfl

theorem isSome_readCache {config : WeatherConfig} {root : QJsonObject} :
    (readCache qt config root).isSome = passesChecks qt config root := by
  have hhourly : ((root.value "hourly").toArray.mapM (readHourly qt)).isSome = _ := isSome_mapM
  have hdaily : ((root.value "daily").toArray.mapM (readDaily qt)).isSome = _ := isSome_mapM
  simp only [isSome_readHourly, isSome_readDaily] at hhourly hdaily
  rw [passesChecks, ← hhourly, ← hdaily, readCache]
  cases validHead qt config root with
  | false => rfl
  | true =>
    cases (root.value "hourly").toArray.mapM (readHourly qt) with
    | none => rfl
    | some hourly => cases (root.value "daily").toArray.mapM (readDaily qt) <;> rfl

end Accepted

section Checked

variable {qt : QtText} {object root : QJsonObject} {value : QJsonValue}

theorem isTime_of_isValid (hempty : (qt.fromIsoDate "").isValid = false)
    (h : (qt.fromIsoDate value.toString).isValid) : isTime qt value := by
  cases value with
  | string text => exact h
  | _ => exact absurd h (by simp [QJsonValue.toString, hempty])

theorem conforms_location (h : (jsonLocation object).inRange) :
    conforms locationFields object = conforms uncheckedLocation object := by
  simp only [Location.inRange, jsonLocation, Bool.and_eq_true, Bool.not_eq_true'] at h
  obtain ⟨⟨⟨hlatitude, hnorth⟩, hlongitude⟩, heast⟩ := h
  simp [locationFields, uncheckedLocation, isWithin, isNumber, hlatitude, hnorth,
    hlongitude, heast]

theorem conforms_current (h : validCurrent object) :
    conforms currentFields object = conforms uncheckedCurrent object := by
  simp only [validCurrent, currentNumbers, validNumber, List.all_cons, List.all_nil,
    Bool.and_true, Bool.and_eq_true, Bool.not_eq_true'] at h
  obtain ⟨⟨⟨ht, hf, hh, hl, hu, hw, hd⟩, hhumidity⟩, hwind⟩ := h
  simp [currentFields, uncheckedCurrent, isNumber, isPercentage, isNotNegative, ht, hf,
    hh, hl, hu, hw, hd, hhumidity, hwind]

theorem isMember_hourly (hempty : (qt.fromIsoDate "").isValid = false)
    (h : validHourly qt value) :
    isMember (hourlyFields qt) value = conforms uncheckedHourly value.toObject := by
  simp only [validHourly, validNumber, Bool.and_eq_true, Bool.not_eq_true'] at h
  obtain ⟨⟨⟨⟨hobject, htime⟩, ht⟩, hp⟩, hpercentage⟩ := h
  simp [isMember, hourlyFields, uncheckedHourly, hobject,
    isTime_of_isValid hempty htime, isNumber, isPercentage, ht, hp, hpercentage]

theorem isMember_daily (hempty : (qt.fromIsoDate "").isValid = false)
    (h : validDaily qt value) :
    isMember (dailyFields qt) value = conforms (uncheckedDaily qt) value.toObject := by
  simp only [validDaily, validNumber, Bool.and_eq_true, Bool.not_eq_true'] at h
  obtain ⟨⟨⟨⟨⟨hobject, htime⟩, hn⟩, hx⟩, hp⟩, hpercentage⟩ := h
  simp [isMember, dailyFields, uncheckedDaily, hobject,
    isTime_of_isValid hempty htime, isNumber, isPercentage, hn, hx, hp, hpercentage]

theorem all_eq_all {p q : QJsonValue → Bool} {xs : List QJsonValue} (h : ∀ x ∈ xs, p x = q x) :
    xs.all p = xs.all q := by
  rw [Bool.eq_iff_iff, List.all_eq_true, List.all_eq_true]
  exact forall₂_congr fun x hx => by rw [h x hx]

theorem isInt_of_toInt (h : value.toInt = 1) : isInt value := by
  cases value with
  | integer i =>
    simp only [QJsonValue.toInt, QJsonValue.toIntegral] at h
    split at h
    case isTrue hfits => simpa [isInt] using hfits
    case isFalse => cases h
  | double d =>
    simp only [QJsonValue.toInt, QJsonValue.toIntegral] at h
    split at h
    case isTrue hwhole =>
      split at h
      case isTrue hfits =>
        simp only [isInt, Bool.and_eq_true, decide_eq_true_eq] at hwhole ⊢
        exact ⟨⟨hwhole, hfits.1⟩, hfits.2⟩
      case isFalse => cases h
    case isFalse => cases h
  | _ => cases h

/-- Of a cache that passes every check, the rest decides whether it is well formed. -/
theorem conforms_cacheFields (hempty : (qt.fromIsoDate "").isValid = false)
    {config : WeatherConfig} (h : passesChecks qt config root) :
    conforms (cacheFields qt) root = conforms (uncheckedFields qt) root := by
  simp only [passesChecks, validHead, hasShape, Bool.and_eq_true, List.all_eq_true,
    decide_eq_true_eq] at h
  obtain ⟨⟨⟨⟨⟨⟨⟨⟨⟨⟨⟨⟨⟨hversion, hlocation⟩, hcurrent⟩, hhourly⟩, hdaily⟩, hhours⟩, hdays⟩, -⟩,
    hfetched⟩, hrange⟩, -⟩, hnumbers⟩, hrows⟩, hdates⟩ := h
  have hhourlyRows : (root.value "hourly").toArray.all (isMember (hourlyFields qt)) =
      (root.value "hourly").toArray.all fun row => conforms uncheckedHourly row.toObject :=
    all_eq_all fun row hr => isMember_hourly hempty (hrows row hr)
  have hdailyRows : (root.value "daily").toArray.all (isMember (dailyFields qt)) =
      (root.value "daily").toArray.all fun row => conforms (uncheckedDaily qt) row.toObject :=
    all_eq_all fun row hr => isMember_daily hempty (hdates row hr)
  have htime : isTime qt (root.value "fetched") := isTime_of_isValid hempty hfetched
  simp only [cacheFields, uncheckedFields, conforms_cons, isMember, areRows, isInt_of_toInt hversion,
    hversion, htime, hlocation, hcurrent, hhourly, hdaily, hhours, hdays, conforms_location hrange,
    conforms_current hnumbers, hhourlyRows, hdailyRows]
  simp

end Checked

namespace WeatherService

variable {qt : QtText} {service : WeatherService} {contents : QByteArray} {root : QJsonObject}
  {now : QDateTime}

/-- What the cache is shown in. -/
structure Untouched (before after : WeatherService) : Prop where
  snapshot : after.snapshot = before.snapshot
  hourlyModel : after.hourlyModel = before.hourlyModel
  dailyModel : after.dailyModel = before.dailyModel
  stale : after.stale = before.stale
  state : after.state = before.state

theorem loadCache_of_fails (hcontents : qt.fromJson contents = some (.object root))
    (h : passesChecks qt service.config root = false) :
    service.loadCache qt (some contents) now = service := by
  have hread : readCache qt service.config root = none := by
    simpa [← isSome_readCache] using h
  simp only [loadCache, Option.bind_some, hcontents, hread]

theorem loadCache_state (hcontents : qt.fromJson contents = some (.object root))
    (h : passesChecks qt service.config root) :
    (service.loadCache qt (some contents) now).state = .ready := by
  rw [← isSome_readCache, Option.isSome_iff_exists] at h
  obtain ⟨cached, hread⟩ := h
  simp only [loadCache, Option.bind_some, hcontents, hread]
  rfl

theorem untouched_iff (hcontents : qt.fromJson contents = some (.object root))
    (hstate : service.state ≠ .ready) :
    service.Untouched (service.loadCache qt (some contents) now) ↔
      passesChecks qt service.config root = false := by
  constructor
  · intro huntouched
    by_contra hpasses
    have hready : (service.loadCache qt (some contents) now).state = .ready :=
      loadCache_state hcontents (eq_true_of_ne_false hpasses)
    exact hstate (huntouched.state.symm.trans hready)
  · intro hfails
    rw [loadCache_of_fails hcontents hfails]
    exact ⟨rfl, rfl, rfl, rfl, rfl⟩

/-- A cache with a malformed field is left alone just if it fails a check or what is read without
a check is well formed: the constructor loads it before anything is ready. -/
theorem malformed_ignored_iff (hempty : (qt.fromIsoDate "").isValid = false)
    (hcontents : qt.fromJson contents = some (.object root)) (hstate : service.state ≠ .ready) :
    (conforms (cacheFields qt) root = false →
        service.Untouched (service.loadCache qt (some contents) now)) ↔
      (passesChecks qt service.config root → conforms (uncheckedFields qt) root) := by
  rw [untouched_iff hcontents hstate]
  cases hpasses : passesChecks qt service.config root with
  | false => simp
  | true => simp [conforms_cacheFields hempty hpasses]

section Sample

@[irreducible] def sampleBody (humidity index : QString) : QByteArray := toUtf8 (
  "\x7b\"airQuality\":\x7b\"index\":" ++ index ++ "\x7d,\"current\":\x7b\"feelsLike\":0," ++
  "\"high\":0,\"humidity\":" ++ humidity ++ ",\"low\":0,\"temperature\":0,\"windDegrees\":0," ++
  "\"windSpeed\":0\x7d,\"daily\":[],\"fetched\":\"2025-06-15T15:06:40Z\",\"hourly\":[]," ++
  "\"location\":\x7b\"latitude\":49.84,\"longitude\":24.03\x7d," ++
  "\"provider\":\"openweather\",\"schemaVersion\":1\x7d")

def sampleRoot (humidity index : Int) : QJsonObject :=
  [("airQuality", .object [("index", .ofInt index)]),
    ("current", .object [("feelsLike", .ofInt 0), ("high", .ofInt 0), ("humidity", .ofInt humidity),
      ("low", .ofInt 0), ("temperature", .ofInt 0), ("windDegrees", .ofInt 0),
      ("windSpeed", .ofInt 0)]),
    ("daily", .array []),
    ("fetched", .string "2025-06-15T15:06:40Z"),
    ("hourly", .array []),
    ("location", .object [("latitude", .double samplePlace.latitude),
      ("longitude", .double samplePlace.longitude)]),
    ("provider", .string "openweather"),
    ("schemaVersion", .ofInt 1)]

def sampleJson (body : QByteArray) : Option QJsonValue :=
  if body = sampleBody "50" "9" then some (.object (sampleRoot 50 9))
  else if body = sampleBody "130" "2" then some (.object (sampleRoot 130 2))
  else none

def validationText : QtText :=
  { sampleText with
    fromJson := sampleJson
    fromIsoDate := fun text => if text = "2025-06-15T15:06:40Z" then sampleNow else {} }

def unconfigured : WeatherService := { config := sampleConfig }

theorem sampleRoot_checks :
    (passesChecks validationText sampleConfig (sampleRoot 50 9) ∧
      conforms (cacheFields validationText) (sampleRoot 50 9) = false) ∧
    passesChecks validationText sampleConfig (sampleRoot 130 2) = false ∧
    conforms (cacheFields validationText) (sampleRoot 130 2) = false ∧
    sampleBody "130" "2" ≠ sampleBody "50" "9" := by
  decide +kernel

theorem malformed_ignored_sample :
    unconfigured.Untouched
      (unconfigured.loadCache validationText (some (sampleBody "130" "2")) sampleNow) := by
  obtain ⟨-, hfails, hmalformed, hne⟩ := sampleRoot_checks
  have hcontents : validationText.fromJson (sampleBody "130" "2") =
      some (.object (sampleRoot 130 2)) := by
    change sampleJson _ = _
    rw [sampleJson, if_neg hne, if_pos rfl]
  refine (malformed_ignored_iff rfl hcontents (by decide)).mpr (fun hpasses => ?_) hmalformed
  exact Bool.noConfusion (hpasses.symm.trans hfails)

/-- The index of the air quality is not checked. -/
theorem index_nine_loaded :
    validationText.fromJson (sampleBody "50" "9") = some (.object (sampleRoot 50 9)) ∧
    conforms (cacheFields validationText) (sampleRoot 50 9) = false ∧
    ¬ unconfigured.Untouched
      (unconfigured.loadCache validationText (some (sampleBody "50" "9")) sampleNow) := by
  obtain ⟨⟨hpasses, hmalformed⟩, -⟩ := sampleRoot_checks
  have hcontents : validationText.fromJson (sampleBody "50" "9") =
      some (.object (sampleRoot 50 9)) := by
    change sampleJson _ = _
    rw [sampleJson, if_pos rfl]
  refine ⟨hcontents, hmalformed, fun huntouched => ?_⟩
  have hfails := (untouched_iff hcontents (by decide)).mp huntouched
  exact Bool.noConfusion (hpasses.symm.trans hfails)

end Sample

end WeatherService

end RpiDashboard.Weather
