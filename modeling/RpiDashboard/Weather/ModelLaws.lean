import Mathlib.Order.OrderDual
import RpiDashboard.Data.Least
import RpiDashboard.Numeric.DoubleLaws
import RpiDashboard.Numeric.OrderLaws
import RpiDashboard.Weather.LocationLaws
import RpiDashboard.Weather.Models
import RpiDashboard.Weather.OperationsLaws
import RpiDashboard.Weather.WeatherServiceLaws

/-! The forecast models follow the snapshot, and the trend of the temperatures is drawn to scale:
the coldest of the hours at zero, the warmest at one, the others between them in their order. -/

namespace RpiDashboard.Weather

open Numeric Qt

namespace HourlyForecastModel

variable {model : HourlyForecastModel} {rows : List HourlyForecast} {offset : Int}

/-- The extrema are those of the rows. -/
structure Spans (model : HourlyForecastModel) : Prop where
  minimum : model.rows ≠ [] → Least Double.toRat
    (model.rows.map HourlyForecast.temperatureCelsius) model.minimumTemperature
  maximum : model.rows ≠ [] → Least (fun t => OrderDual.toDual t.toRat)
    (model.rows.map HourlyForecast.temperatureCelsius) model.maximumTemperature

theorem least_minimum (t : Double) (ts : List Double) : Least Double.toRat (t :: ts)
    (ts.foldl (fun least t => if t.lt least then t else least) t) := by
  refine least_foldl_choice (fun x y => ?_) (fun x y => ?_) (fun x y => ?_) t ts
  · split
    · exact .inr rfl
    · exact .inl rfl
  · split
    case isTrue h => exact (of_decide_eq_true h).le
    case isFalse => exact le_rfl
  · split
    case isTrue => exact le_rfl
    case isFalse h => exact not_lt.mp fun hlt => h (decide_eq_true hlt)

theorem least_maximum (t : Double) (ts : List Double) :
    Least (fun t => OrderDual.toDual t.toRat) (t :: ts)
      (ts.foldl (fun greatest t => if t.lt greatest then greatest else t) t) := by
  refine least_foldl_choice (fun x y => ?_) (fun x y => ?_) (fun x y => ?_) t ts
  · split
    · exact .inl rfl
    · exact .inr rfl
  · split
    case isTrue => exact le_rfl
    case isFalse h => exact not_lt.mp fun hlt => h (decide_eq_true hlt)
  · split
    case isTrue h => exact (of_decide_eq_true h).le
    case isFalse => exact le_rfl

theorem replace_spans : (model.replace rows offset).Spans := by
  unfold replace
  dsimp only
  split
  case h_1 h =>
    have hnil : rows.take 8 = [] := List.map_eq_nil_iff.mp h
    exact ⟨fun hne => absurd hnil hne, fun hne => absurd hnil hne⟩
  case h_2 t ts h =>
    constructor
    · intro _
      rw [h]
      exact least_minimum t ts
    · intro _
      rw [h]
      exact least_maximum t ts

@[simp] theorem replace_rows : (model.replace rows offset).rows = rows.take 8 := by
  unfold replace
  dsimp only
  split <;> rfl

@[simp] theorem replace_timezoneOffsetSeconds :
    (model.replace rows offset).timezoneOffsetSeconds = offset := by
  unfold replace
  dsimp only
  split <;> rfl

section Trend

/-- Where the temperature of a row is drawn. -/
def position (model : HourlyForecastModel) (row : Nat) : Double :=
  (model.data row .trendPositionRole).toDouble

/-- What the views draw the trend from. -/
structure Trend (model : HourlyForecastModel) : Prop where
  within : ∀ row < model.rows.length, Double.IsRatio (model.position row)
  ordered : ∀ i j first second, model.rows[i]? = some first → model.rows[j]? = some second →
    first.temperatureCelsius.toRat ≤ second.temperatureCelsius.toRat →
      (model.position i).toRat ≤ (model.position j).toRat
  /-- Unless all hours are equally warm, the trend takes up all of its height. -/
  extremes : (∃ first ∈ model.rows, ∃ second ∈ model.rows,
    first.temperatureCelsius.toRat < second.temperatureCelsius.toRat) →
      ∃ i < model.rows.length, ∃ j < model.rows.length,
        (model.position i).toRat = 0 ∧ (model.position j).toRat = 1
  /-- Every row starts where the row before it ends. -/
  joined : ∀ row, row + 1 < model.rows.length →
    model.data (row + 1) .previousTrendPositionRole = model.data row .trendPositionRole

variable {row : Nat} {forecast : HourlyForecast}

theorem position_eq (h : model.rows[row]? = some forecast) :
    model.position row = model.trendPosition forecast.temperatureCelsius := by
  rw [position, data, h]
  rfl

theorem joined_rows (h : row + 1 < model.rows.length) :
    model.data (row + 1) .previousTrendPositionRole = model.data row .trendPositionRole := by
  have hrow : model.rows[row + 1]? = some model.rows[row + 1] := List.getElem?_eq_getElem h
  have hprevious : model.rows[row]? = some model.rows[row] :=
    List.getElem?_eq_getElem (Nat.lt_of_succ_lt h)
  simp [data, roleValue, hrow, hprevious]

/-- The temperatures and their spread are numbers. -/
structure Finite (model : HourlyForecastModel) : Prop where
  rows : ∀ forecast ∈ model.rows, forecast.temperatureCelsius.isFinite
  spread : (model.maximumTemperature.sub model.minimumTemperature).isFinite

theorem Spans.minimum_le (h : model.Spans) (hmem : forecast ∈ model.rows) :
    model.minimumTemperature.toRat ≤ forecast.temperatureCelsius.toRat :=
  (h.minimum (List.ne_nil_of_mem hmem)).2 _ (List.mem_map_of_mem hmem)

theorem Spans.le_maximum (h : model.Spans) (hmem : forecast ∈ model.rows) :
    forecast.temperatureCelsius.toRat ≤ model.maximumTemperature.toRat :=
  (h.maximum (List.ne_nil_of_mem hmem)).2 _ (List.mem_map_of_mem hmem)

theorem Spans.coldest (h : model.Spans) (hne : model.rows ≠ []) :
    ∃ forecast ∈ model.rows, forecast.temperatureCelsius = model.minimumTemperature :=
  List.mem_map.mp (h.minimum hne).1

theorem Spans.warmest (h : model.Spans) (hne : model.rows ≠ []) :
    ∃ forecast ∈ model.rows, forecast.temperatureCelsius = model.maximumTemperature :=
  List.mem_map.mp (h.maximum hne).1

theorem sameNumber_iff {a b : Double} (ha : a.isFinite) (hb : b.isFinite) :
    sameNumber a b = true ↔ a.toRat = b.toRat := by
  simp [sameNumber, Double.not_isNaN_of_isFinite ha, Double.not_isNaN_of_isFinite hb]

/-- Whether all hours are equally warm. -/
theorem Spans.sameNumber_iff (h : model.Spans) (hfinite : model.Finite) (hne : model.rows ≠ []) :
    sameNumber model.maximumTemperature model.minimumTemperature = true ↔
      model.maximumTemperature.toRat = model.minimumTemperature.toRat := by
  obtain ⟨coldest, hcoldest, heq⟩ := h.coldest hne
  obtain ⟨warmest, hwarmest, heq'⟩ := h.warmest hne
  rw [← heq, ← heq']
  exact HourlyForecastModel.sameNumber_iff (hfinite.rows _ hwarmest) (hfinite.rows _ hcoldest)

theorem exists_row (hmem : forecast ∈ model.rows) :
    ∃ row < model.rows.length,
      model.position row = model.trendPosition forecast.temperatureCelsius := by
  obtain ⟨row, hlt, hget⟩ := List.getElem_of_mem hmem
  exact ⟨row, hlt, position_eq (List.getElem?_eq_some_iff.mpr ⟨hlt, hget⟩)⟩

theorem trend_of_nil (h : model.rows = []) : model.Trend where
  within _ hlt := by simp [h] at hlt
  ordered _ _ _ _ hi := by simp [h] at hi
  extremes hmem := by simp [h] at hmem
  joined _ hlt := by simp [h] at hlt

/-- All hours are equally warm. -/
theorem trend_of_level (h : model.Spans) (hsame : sameNumber model.maximumTemperature
    model.minimumTemperature = true)
    (heq : model.maximumTemperature.toRat = model.minimumTemperature.toRat) : model.Trend := by
  have hposition : ∀ row forecast, model.rows[row]? = some forecast →
      model.position row = .ofRat (1 / 2) := fun row forecast hrow => by
    rw [position_eq hrow, trendPosition, if_pos hsame]
  have hhalf : Double.IsRatio (.ofRat (1 / 2)) := by decide +kernel
  constructor
  case within =>
    intro row hlt
    rw [hposition row _ (List.getElem?_eq_getElem hlt)]
    exact hhalf
  case ordered =>
    intro i j first second hi hj _
    rw [hposition i first hi, hposition j second hj]
  case extremes =>
    rintro ⟨first, hfirst, second, hsecond, hlt⟩
    exact absurd heq (((h.minimum_le hfirst).trans_lt hlt).trans_le (h.le_maximum hsecond)).ne'
  case joined => exact fun row hlt => joined_rows hlt

section Scale

variable {a b : Double}

/-- Positions on the scale. -/
theorem position_isRatio (ha : model.minimumTemperature.toRat ≤ a.toRat)
    (ha' : a.toRat ≤ model.maximumTemperature.toRat) :
    Double.IsRatio ((a.sub model.minimumTemperature).div
      (model.maximumTemperature.sub model.minimumTemperature)) :=
  Double.isRatio_div (Double.sub_negative ha) (Double.sub_negative (ha.trans ha'))
    (Double.sub_mono ha ha')

theorem position_mono (ha : model.minimumTemperature.toRat ≤ a.toRat) (hab : a.toRat ≤ b.toRat)
    (hb : b.toRat ≤ model.maximumTemperature.toRat) :
    ((a.sub model.minimumTemperature).div
      (model.maximumTemperature.sub model.minimumTemperature)).toRat ≤
    ((b.sub model.minimumTemperature).div
      (model.maximumTemperature.sub model.minimumTemperature)).toRat :=
  Double.div_mono (Double.sub_negative ha) (Double.sub_negative (ha.trans hab))
    (Double.sub_negative (ha.trans (hab.trans hb))) (Double.sub_mono ha hab)

theorem trend_of_scale (h : model.Spans) (hsame : sameNumber model.maximumTemperature
    model.minimumTemperature = false)
    (hlt : model.minimumTemperature.toRat < model.maximumTemperature.toRat) : model.Trend := by
  have hposition : ∀ t, model.trendPosition t = (t.sub model.minimumTemperature).div
      (model.maximumTemperature.sub model.minimumTemperature) := fun t => by
    rw [trendPosition, hsame]
    rfl
  constructor
  case within =>
    intro row hrow
    have hmem : model.rows[row] ∈ model.rows := List.getElem_mem hrow
    rw [position_eq (List.getElem?_eq_getElem hrow), hposition]
    exact position_isRatio (h.minimum_le hmem) (h.le_maximum hmem)
  case ordered =>
    intro i j first second hi hj hle
    rw [position_eq hi, position_eq hj, hposition, hposition]
    exact position_mono (h.minimum_le (List.mem_of_getElem? hi)) hle
      (h.le_maximum (List.mem_of_getElem? hj))
  case extremes =>
    rintro ⟨first, hfirst, -⟩
    have hne : model.rows ≠ [] := List.ne_nil_of_mem hfirst
    obtain ⟨coldest, hcoldest, heq⟩ := h.coldest hne
    obtain ⟨warmest, hwarmest, heq'⟩ := h.warmest hne
    obtain ⟨i, hi, hcold⟩ := exists_row hcoldest
    obtain ⟨j, hj, hwarm⟩ := exists_row hwarmest
    refine ⟨i, hi, j, hj, ?_, ?_⟩
    · rw [hcold, hposition, heq]
      exact Double.div_of_zero (Double.sub_of_eq rfl)
    · rw [hwarm, hposition, heq']
      exact Double.div_same (Double.sub_negative hlt.le) rfl (Double.sub_pos hlt)
  case joined => exact fun row hlt => joined_rows hlt

end Scale

theorem Spans.trend (h : model.Spans) (hfinite : model.Finite) : model.Trend := by
  by_cases hne : model.rows = []
  case pos => exact trend_of_nil hne
  case neg =>
    have hiff := h.sameNumber_iff hfinite hne
    cases hsame : sameNumber model.maximumTemperature model.minimumTemperature with
    | true => exact trend_of_level h hsame (hiff.mp hsame)
    | false =>
      obtain ⟨forecast, hmem⟩ := List.exists_mem_of_ne_nil _ hne
      have hle := (h.minimum_le hmem).trans (h.le_maximum hmem)
      refine trend_of_scale h hsame (lt_of_le_of_ne hle fun heq => ?_)
      rw [hiff.mpr heq.symm] at hsame
      cases hsame

end Trend

end HourlyForecastModel

/-- The models hold the forecast of the snapshot: the next hours and the next days. -/
structure WeatherService.Follows (service : WeatherService) : Prop where
  hours : service.hourlyModel.rows = service.snapshot.hourly.take 8
  clock : service.hourlyModel.timezoneOffsetSeconds = service.snapshot.timezoneOffsetSeconds
  days : service.dailyModel =
    .replace service.snapshot.daily service.snapshot.timezoneOffsetSeconds
  spans : service.hourlyModel.Spans

namespace WeatherService

variable {qt : QtText} {service other : WeatherService} {now : QDateTime}

/-- What the models are made from, and the models. -/
structure Forecasts where
  hourly : List HourlyForecast
  daily : List DailyForecast
  timezoneOffsetSeconds : Int
  hourlyModel : HourlyForecastModel
  dailyModel : DailyForecastModel

def forecasts (service : WeatherService) : Forecasts where
  hourly := service.snapshot.hourly
  daily := service.snapshot.daily
  timezoneOffsetSeconds := service.snapshot.timezoneOffsetSeconds
  hourlyModel := service.hourlyModel
  dailyModel := service.dailyModel

theorem Follows.same (h : service.Follows) (hf : other.forecasts = service.forecasts) :
    other.Follows := by
  simp only [forecasts, Forecasts.mk.injEq] at hf
  obtain ⟨hhourly, hdaily, hclock, hmodel, hdays⟩ := hf
  constructor
  · rw [hmodel, hhourly]
    exact h.hours
  · rw [hmodel, hclock]
    exact h.clock
  · rw [hdays, hdaily, hclock]
    exact h.days
  · rw [hmodel]
    exact h.spans

@[simp] theorem startOperation_forecasts {manual : Bool} :
    (service.startOperation manual).forecasts = service.forecasts := by
  obtain ⟨_, _, _, _, _, _, _, _, heq⟩ := startOperation_frame service manual
  rw [heq]
  rfl

@[simp] theorem scheduleLocalHourBoundary_forecasts :
    (service.scheduleLocalHourBoundary now).forecasts = service.forecasts := by
  obtain ⟨_, heq⟩ := scheduleLocalHourBoundary_frame service now
  rw [heq]
  rfl

@[simp] theorem saveCache_forecasts : service.saveCache.forecasts = service.forecasts := by
  obtain ⟨_, heq⟩ := saveCache_frame service
  rw [heq]
  rfl

@[simp] theorem fail_forecasts {diagnostic : QString} {authenticationFailure : Bool} {retry : Int} :
    (service.fail qt diagnostic authenticationFailure retry).forecasts = service.forecasts := by
  unfold fail
  dsimp only
  split <;> rfl

/-- Both models are replaced by the snapshot's. -/
theorem follows_of_replaced {model : HourlyForecastModel}
    (hhourly : service.hourlyModel =
      model.replace service.snapshot.hourly service.snapshot.timezoneOffsetSeconds)
    (hdaily : service.dailyModel =
      .replace service.snapshot.daily service.snapshot.timezoneOffsetSeconds) :
    service.Follows := by
  refine ⟨?_, ?_, hdaily, ?_⟩
  · rw [hhourly, HourlyForecastModel.replace_rows]
  · rw [hhourly, HourlyForecastModel.replace_timezoneOffsetSeconds]
  · rw [hhourly]
    exact HourlyForecastModel.replace_spans

theorem publish_follows (snapshot : Snapshot) : (service.publish qt snapshot now).Follows := by
  unfold publish
  dsimp only
  let merged := { service with snapshot := mergeAirQuality qt service.snapshot snapshot }
  obtain ⟨localHourTimer, hschedule⟩ :=
    scheduleLocalHourBoundary_frame (merged.updateTodayPrecipitationProbability now) now
  rw [hschedule]
  refine Follows.same ?_ saveCache_forecasts
  exact follows_of_replaced rfl rfl

theorem restore_follows (cached : Snapshot) : (service.restore cached now).Follows := by
  unfold restore
  dsimp only
  let restored := { service with snapshot := cached }
  obtain ⟨localHourTimer, hschedule⟩ :=
    scheduleLocalHourBoundary_frame (restored.updateTodayPrecipitationProbability now) now
  rw [hschedule]
  exact follows_of_replaced rfl rfl

theorem dropSnapshot_follows : (service.dropSnapshot now).Follows := follows_of_replaced rfl rfl

theorem Follows.setLocation (h : service.Follows) (location : Location) :
    (service.setLocation qt location now).Follows := by
  unfold WeatherService.setLocation
  refine Follows.same ?_ startOperation_forecasts
  dsimp only
  split
  case isTrue => exact dropSnapshot_follows
  case isFalse => exact h.same rfl

theorem initial_follows (config : WeatherConfig) (diagnostics : QString) :
    Follows { config, diagnostics } where
  hours := rfl
  clock := rfl
  days := rfl
  spans := ⟨fun hne => absurd rfl hne, fun hne => absurd rfl hne⟩

theorem restored_follows (config : WeatherConfig) (diagnostics : QString)
    (cached : Option Snapshot) : (restored config diagnostics cached now).Follows := by
  cases cached with
  | none => exact initial_follows config diagnostics
  | some cached => exact restore_follows cached

end WeatherService

namespace World

variable {qt : QtText} {w : World} {service : WeatherService}

theorem handled_follows {e : Event} (h : w.service.Follows) (hh : w.Handled qt e service) :
    service.Follows := by
  cases hh with
  | refresh => exact h.same WeatherService.startOperation_forecasts
  | timeout => exact h.same WeatherService.startOperation_forecasts
  | solarTimeout => exact h.same rfl
  | localHourTimeout => exact h.same WeatherService.scheduleLocalHourBoundary_forecasts
  | resolved => exact h.setLocation _
  | forecastReady => exact WeatherService.publish_follows _
  | failed => exact h.same WeatherService.fail_forecasts
  | airQualityReady => exact h.same WeatherService.saveCache_forecasts
  | airQualityFailed => exact h.same rfl

theorem step_follows (h : w.service.Follows) (e : Event) : (w.step qt e).service.Follows := by
  obtain hsame | hh := step_service qt w e
  · rw [hsame]
    exact h
  · exact handled_follows h hh

theorem start_follows (config : WeatherConfig) (cached : Option Snapshot) (now : QDateTime) :
    (start qt config cached now).service.Follows := by
  rw [start, call_service]
  refine WeatherService.initialized_cases (fun _ => ?_) (fun _ => ?_) ?_
  · exact (WeatherService.restored_follows config "" cached).same rfl
  · exact (WeatherService.restored_follows config "" cached).setLocation _
  · exact (WeatherService.restored_follows config "" cached).same
      WeatherService.startOperation_forecasts

end World

def sampleHour (hours : Int) (temperature : Double) : HourlyForecast where
  timestampUtc := World.sampleTime.addSecs (3600 * hours)
  iconCode := "01d"
  temperatureCelsius := temperature
  precipitationProbabilityPercent := .zero

/-- It is twelve degrees, then ten and a half, then three below zero. -/
def sampleForecast : List Event :=
  [.forecastReady
    (.forecast { latitude := World.sampleCoordinates.latitude, longitude := .ofInt 24 })
    { fetchedUtc := World.sampleTime
      hourly := [sampleHour 0 (.ofInt 12), sampleHour 1 (.ofRat (21 / 2)),
        sampleHour 2 (.ofInt (-3))] }
    World.sampleTime]

example :
    let model := (run (World.step World.sampleQt)
      (World.start World.sampleQt World.sampleCoordinates none World.sampleTime)
      sampleForecast).service.hourlyModel
    (List.range 3).map model.position = [.one, .ofRat (9 / 10), .zero] := by
  decide +kernel

end RpiDashboard.Weather
