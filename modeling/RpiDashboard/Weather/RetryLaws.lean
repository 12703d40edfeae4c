import RpiDashboard.Qt.Bytes
import RpiDashboard.Weather.LocationLaws
import RpiDashboard.Weather.OperationsLaws

/-! The delay before the next attempt: when it is what the backoff and the provider ask for. -/

namespace RpiDashboard.Weather

open Qt

section Parsing

variable {toml : Toml} {config rest : WeatherConfig} {contents : QByteArray} {node : toml.Node}

theorem parseLocationTable_interval (h : parseLocationTable toml rest node = .ok config) :
    config.refreshIntervalSeconds = rest.refreshIntervalSeconds := by
  unfold parseLocationTable at h
  dsimp only at h
  split at h
  case h_1 =>
    simp only [bind_eq_ok] at h
    obtain ⟨-, -, -, -, h⟩ := h
    obtain rfl := Except.ok.inj h
    rfl
  case h_2 =>
    split at h
    · obtain rfl := Except.ok.inj h
      rfl
    · simp only [bind_eq_ok] at h
      obtain ⟨-, -, h⟩ := h
      obtain rfl := Except.ok.inj h
      rfl
  case h_3 => cases h

theorem parseWeatherConfig_interval (h : parseWeatherConfig toml contents = .ok config) :
    60 ≤ config.refreshIntervalSeconds ∧ config.refreshIntervalSeconds ≤ 86400 := by
  simp only [parseWeatherConfig, bind_eq_ok, require_eq_ok, required_eq_ok] at h
  obtain ⟨-, -, weather, -, -, -, -, hinterval, node, -, h⟩ := h
  rw [parseLocationTable_interval h]
  exact hinterval

end Parsing

section Arithmetic

/-- A result of `int` arithmetic; none where it does not fit, which is undefined. -/
def intResult (n : Int) : Option Int :=
  if -2147483648 ≤ n ∧ n ≤ 2147483647 then some n else none

/-- The arithmetic of `fail`: the new number of failures and the delay of the timer. -/
def failDelay (refreshIntervalSeconds failureCount retryAfterSeconds : Int) :
    Option (Int × Int) := do
  let failureCount ← intResult (failureCount + 1)
  let shift ← intResult (failureCount - 1)
  let doubled ← intResult (30 * 2 ^ (min shift 5).toNat)
  let backoff := min refreshIntervalSeconds doubled
  let delay ← intResult (max backoff retryAfterSeconds * 1000)
  return (failureCount, delay)

/-- `handleNetworkFailure`; `toInt` is `QString::toInt`, none where it fails. -/
def handleNetworkFailure (toInt : QString → Option Int32) (request : Request) (diagnostic : QString)
    (status : Int) (retryAfter : QByteArray) (airQuality : Bool) : Event :=
  if airQuality then .airQualityFailed diagnostic
  else .failed request diagnostic (status = 401 || status = 403)
    (((toInt (fromLatin1 retryAfter)).map Int32.toInt).getD 0)

/-- The delay after so many failures in a row, in milliseconds. -/
def delayOf (refreshIntervalSeconds : Int) (failures : Nat) (retryAfterSeconds : Int) : Int :=
  max (min refreshIntervalSeconds (30 * 2 ^ min (failures - 1) 5)) retryAfterSeconds * 1000

variable {interval retryAfter : Int} {failures : Nat}

theorem intResult_eq_some {n m : Int} :
    intResult n = some m ↔ (-2147483648 ≤ n ∧ n ≤ 2147483647) ∧ n = m := by
  rw [intResult, Option.ite_none_right_eq_some, Option.some_inj]

theorem doubled_bounds (failures : Nat) :
    30 ≤ 30 * (2 : Int) ^ min failures 5 ∧ 30 * (2 : Int) ^ min failures 5 ≤ 960 := by
  have hfive : min failures 5 ≤ 5 := Nat.min_le_right _ _
  have hlow : (2 : Int) ^ 0 ≤ 2 ^ min failures 5 := pow_le_pow_right₀ (by omega) (Nat.zero_le _)
  have hhigh : (2 : Int) ^ min failures 5 ≤ 2 ^ 5 := pow_le_pow_right₀ (by omega) hfive
  omega

theorem delayOf_ge (h : 60 ≤ interval) : 30000 ≤ delayOf interval (failures + 1) retryAfter := by
  have hbounds := doubled_bounds failures
  rw [delayOf, Nat.add_sub_cancel]
  omega

/-- The arithmetic is that of unbounded numbers as long as the number of failures and the delay in
milliseconds fit. -/
theorem failDelay_iff (h : 60 ≤ interval ∧ interval ≤ 86400) :
    failDelay interval failures retryAfter =
        some ((failures : Int) + 1, delayOf interval (failures + 1) retryAfter) ↔
      failures + 1 ≤ 2147483647 ∧ retryAfter ≤ 2147483 := by
  have hbounds := doubled_bounds failures
  have hshift : (min ((failures : Int) + 1 - 1) 5).toNat = min failures 5 := by omega
  simp only [failDelay, delayOf, Option.bind_eq_bind, Option.bind_eq_some_iff, intResult_eq_some,
    Nat.add_sub_cancel]
  constructor
  · rintro ⟨_, ⟨hcount, rfl⟩, _, ⟨-, rfl⟩, _, ⟨-, rfl⟩, _, ⟨hdelay, rfl⟩, -⟩
    omega
  · rintro ⟨hcount, hretry⟩
    refine ⟨_, ⟨by omega, rfl⟩, _, ⟨by omega, rfl⟩, _, ⟨?_, rfl⟩, _, ⟨?_, rfl⟩, ?_⟩
    · rw [hshift]
      omega
    · rw [hshift]
      omega
    · rw [hshift]
      rfl

end Arithmetic

namespace WeatherService

/-- What the delay after a failure depends on. -/
def retryView (service : WeatherService) : WeatherConfig × Int :=
  (service.config, service.failureCount)

variable {qt : QtText} {service : WeatherService} {now : QDateTime}

theorem startOperation_retryView (manual : Bool) :
    (service.startOperation manual).retryView = service.retryView := by
  obtain ⟨_, _, _, _, _, _, _, _, heq⟩ := service.startOperation_frame manual
  rw [heq]
  rfl

theorem setLocation_retryView (location : Location) :
    (service.setLocation qt location now).retryView = service.retryView := by
  unfold setLocation
  rw [startOperation_retryView]
  split <;> rfl

theorem scheduleLocalHourBoundary_retryView :
    (service.scheduleLocalHourBoundary now).retryView = service.retryView := by
  obtain ⟨localHourTimer, heq⟩ := service.scheduleLocalHourBoundary_frame now
  rw [heq]
  rfl

theorem saveCache_retryView : service.saveCache.retryView = service.retryView := by
  obtain ⟨saved, heq⟩ := service.saveCache_frame
  rw [heq]
  rfl

theorem publish_retryView (snapshot : Snapshot) :
    (service.publish qt snapshot now).retryView = (service.config, 0) := by
  obtain ⟨_, _, _, _, _, _, _, _, heq⟩ := service.publish_frame now snapshot
  rw [heq]
  rfl

theorem restore_retryView (cached : Snapshot) :
    (service.restore cached now).retryView = service.retryView := by
  obtain ⟨_, _, _, _, _, _, _, _, heq⟩ := service.restore_frame now cached
  rw [heq]
  rfl

theorem fail_retryView (diagnostic : QString) (authenticationFailure : Bool) (retry : Int) :
    (service.fail qt diagnostic authenticationFailure retry).retryView =
      (service.config, service.failureCount + if authenticationFailure then 0 else 1) := by
  cases authenticationFailure
  · rfl
  · exact congrArg (Prod.mk service.config) (Int.add_zero _).symm

theorem initialized_retryView (config : WeatherConfig) (diagnostics : QString)
    (cached : Option Snapshot) :
    (initialized qt config diagnostics cached now).retryView = (config, 0) := by
  have hrestored : (restored config diagnostics cached now).retryView = (config, 0) := by
    cases cached with
    | none => rfl
    | some cached => exact restore_retryView cached
  refine initialized_cases (P := fun service => service.retryView = (config, 0)) ?_ ?_ ?_
  · exact fun _ => hrestored
  · intro _
    rw [setLocation_retryView, hrestored]
  · rw [startOperation_retryView, hrestored]

end WeatherService

section Runs

variable {qt : QtText} {config : WeatherConfig} {w : World} {service : WeatherService}

/-- How many transient failures there have been since the last success, after an event. -/
def failuresAfter (w : World) (failures : Nat) : Event → Nat
  | .forecastReady request _ _ =>
    if request ∈ w.outstanding ∧ request.isForecast then 0 else failures
  | .failed request _ false _ => if request ∈ w.outstanding then failures + 1 else failures
  | _ => failures

/-- The world, and the failures counted beside it. -/
def countedStep (qt : QtText) (counted : World × Nat) (e : Event) : World × Nat :=
  (counted.1.step qt e, failuresAfter counted.1 counted.2 e)

/-- A provider fails, and not for want of a credential. -/
def FailsTransiently (w : World) (e : Event) (retryAfter : Int) : Prop :=
  ∃ request diagnostic, e = .failed request diagnostic false retryAfter ∧ request ∈ w.outstanding

/-- The delay after a failure is what the backoff and the provider ask for. -/
def DelaysExactly (qt : QtText) (interval : Int) (counted : World × Nat) (e : Event) : Prop :=
  ∀ retryAfter, FailsTransiently counted.1 e retryAfter →
    let delay := delayOf interval (counted.2 + 1) retryAfter
    failDelay interval counted.1.service.failureCount retryAfter =
        some ((counted.2 : Int) + 1, delay) ∧
      (counted.1.step qt e).service.refreshTimer = some delay ∧ 30000 ≤ delay

/-- The seconds asked for and the number of failures are not too large. -/
def DelayFits (counted : World × Nat) (e : Event) : Prop :=
  ∀ retryAfter, FailsTransiently counted.1 e retryAfter →
    counted.2 + 1 ≤ 2147483647 ∧ retryAfter ≤ 2147483

/-- What the service counts. -/
def Counts (config : WeatherConfig) (counted : World × Nat) : Prop :=
  counted.1.service.retryView = (config, (counted.2 : Int))

theorem opened_counts (diagnostics : QString) (cached : Option Snapshot) (now : QDateTime) :
    Counts config (World.opened qt config diagnostics cached now, 0) :=
  WeatherService.initialized_retryView config diagnostics cached

theorem Counts.step {counted : World × Nat} (h : Counts config counted) (e : Event) :
    Counts config (countedStep qt counted e) := by
  obtain ⟨w, failures⟩ := counted
  have hview : w.service.retryView = (config, (failures : Int)) := h
  have hsame : ∀ service : WeatherService, service.retryView = w.service.retryView →
      Counts config (w.call service, failures) := fun service hservice => hservice.trans hview
  obtain ⟨hconfig, hfailures⟩ := Prod.mk.inj hview
  cases e with
  | refresh => exact hsame _ (WeatherService.startOperation_retryView true)
  | timeout =>
    simp only [countedStep, World.step, failuresAfter]
    split
    · exact hsame _ (WeatherService.startOperation_retryView false)
    · exact h
  | solarTimeout now =>
    simp only [countedStep, World.step, failuresAfter]
    split
    · exact hsame _ rfl
    · exact h
  | localHourTimeout now =>
    simp only [countedStep, World.step, failuresAfter]
    split
    · exact hsame _ WeatherService.scheduleLocalHourBoundary_retryView
    · exact h
  | resolved request location now =>
    simp only [countedStep, World.step, failuresAfter]
    split
    · exact (WeatherService.setLocation_retryView location).trans hview
    · exact h
  | forecastReady request snapshot now =>
    simp only [countedStep, World.step, failuresAfter]
    split
    · exact (WeatherService.publish_retryView snapshot).trans (Prod.ext hconfig rfl)
    · exact h
  | failed request diagnostic authenticationFailure retry =>
    have hfail : (w.service.fail qt diagnostic authenticationFailure retry).retryView = _ :=
      WeatherService.fail_retryView diagnostic authenticationFailure retry
    cases authenticationFailure with
    | false =>
      simp only [countedStep, World.step, failuresAfter]
      split
      · exact hfail.trans (Prod.ext hconfig (congrArg (· + 1) hfailures))
      · exact h
    | true =>
      simp only [countedStep, World.step, failuresAfter]
      split
      · exact hfail.trans (Prod.ext hconfig ((Int.add_zero _).trans hfailures))
      · exact h
  | airQualityReady airQuality => exact hsame _ WeatherService.saveCache_retryView
  | airQualityFailed diagnostic => exact hsame _ rfl

/-- What the timer is started with, the arithmetic aside. -/
theorem Counts.refreshTimer {counted : World × Nat} (h : Counts config counted) {request : Request}
    {diagnostic : QString} {retryAfter : Int} (hr : request ∈ counted.1.outstanding) :
    (counted.1.step qt (.failed request diagnostic false retryAfter)).service.refreshTimer =
      some (delayOf config.refreshIntervalSeconds (counted.2 + 1) retryAfter) := by
  obtain ⟨hconfig, hfailures⟩ := Prod.mk.inj h
  have htimer : (counted.1.service.fail qt diagnostic false retryAfter).refreshTimer = _ :=
    congrArg Control.refreshTimer (WeatherService.fail_control diagnostic false retryAfter)
  have hshift : (min ((counted.2 : Int) + 1 - 1) 5).toNat = min counted.2 5 := by omega
  rw [World.step, if_pos hr, World.call_service, htimer, if_neg Bool.false_ne_true,
    WeatherService.backoff, delayOf, hconfig, hfailures, hshift, Nat.add_sub_cancel]

theorem Counts.delaysExactly_iff {counted : World × Nat} (h : Counts config counted)
    (hinterval : 60 ≤ config.refreshIntervalSeconds ∧ config.refreshIntervalSeconds ≤ 86400)
    (e : Event) :
    DelaysExactly qt config.refreshIntervalSeconds counted e ↔ DelayFits counted e := by
  have hcount : counted.1.service.failureCount = (counted.2 : Int) := (Prod.mk.inj h).2
  refine forall₂_congr fun retryAfter hfails => ?_
  obtain ⟨request, diagnostic, rfl, hr⟩ := hfails
  rw [hcount, ← failDelay_iff hinterval]
  exact and_iff_left ⟨h.refreshTimer hr, delayOf_ge hinterval.1⟩

/-- In a run of the service, every delay after a failure is what the backoff and the provider ask
for exactly if none asks for more seconds than `int` has milliseconds for. -/
theorem delays_exactly_iff {toml : Toml} {contents : QByteArray}
    (h : parseWeatherConfig toml contents = .ok config) (diagnostics : QString)
    (cached : Option Snapshot) (now : QDateTime) (es : List Event) :
    Throughout (countedStep qt) (DelaysExactly qt config.refreshIntervalSeconds)
        (World.opened qt config diagnostics cached now, 0) es ↔
      Throughout (countedStep qt) DelayFits
        (World.opened qt config diagnostics cached now, 0) es :=
  throughout_iff (opened_counts diagnostics cached now)
    (fun _ e hcounts => hcounts.delaysExactly_iff (parseWeatherConfig_interval h) e)
    fun _ e hcounts _ => hcounts.step e

def sampleToInt (text : QString) : Option Int32 :=
  if text = "120" then some 120
  else if text = "2147484" then some 2147484
  else none

/-- The forecast of the sample fails with a server error. -/
def sampleFailure (retryAfter : QByteArray) : Event :=
  handleNetworkFailure sampleToInt
    (.forecast { latitude := World.sampleCoordinates.latitude, longitude := .ofInt 24 })
    "Weather request failed (503)" 503 retryAfter false

def sampleWorld : World :=
  World.opened World.sampleQt World.sampleCoordinates "" none World.sampleTime

theorem delays_exactly_sample :
    DelaysExactly World.sampleQt 600 (sampleWorld, 0) (sampleFailure (toUtf8 "120")) := by
  have hfits : DelayFits (sampleWorld, 0) (sampleFailure (toUtf8 "120")) := by
    rintro retryAfter ⟨request, diagnostic, hfailed, -⟩
    obtain ⟨-, -, -, rfl⟩ := Event.failed.inj hfailed
    decide +kernel
  have hparse : parseWeatherConfig
      (World.sampleToml (World.sampleDocument World.sampleCoordinates.latitude (.ofInt 24)))
      (World.sampleContents "49.5" "24.0") = .ok World.sampleCoordinates := rfl
  have hrun : Throughout (countedStep World.sampleQt) DelayFits (sampleWorld, 0)
      [sampleFailure (toUtf8 "120")] := ⟨hfits, trivial⟩
  exact ((delays_exactly_iff hparse "" none World.sampleTime _).mpr hrun).1

/-- Milliseconds of a delay that is asked for in seconds do not fit. -/
theorem delay_overflows :
    FailsTransiently sampleWorld (sampleFailure (toUtf8 "2147484")) 2147484 ∧
      failDelay 600 sampleWorld.service.failureCount 2147484 = none ∧
      ¬ DelaysExactly World.sampleQt 600 (sampleWorld, 0) (sampleFailure (toUtf8 "2147484")) := by
  have hfails : FailsTransiently sampleWorld (sampleFailure (toUtf8 "2147484")) 2147484 := by
    have hseconds : ((sampleToInt (fromLatin1 (toUtf8 "2147484"))).map Int32.toInt).getD 0 =
        2147484 := by
      decide +kernel
    refine ⟨_, _, congrArg (Event.failed _ _ false) hseconds, ?_⟩
    decide +kernel
  have hnone : failDelay 600 sampleWorld.service.failureCount 2147484 = none := by decide +kernel
  refine ⟨hfails, hnone, fun h => ?_⟩
  obtain ⟨hdelay, -⟩ := h 2147484 hfails
  rw [hnone] at hdelay
  cases hdelay

end Runs

end RpiDashboard.Weather
