import RpiDashboard.Weather.Operations
import RpiDashboard.Weather.WeatherServiceLaws

/-! Laws of the weather service's operations: one at a time, and always another one. -/

namespace RpiDashboard.Weather

open Qt

/-- The part of the service that decides what it does next. -/
structure Control where
  config : WeatherConfig
  inFlight : Bool
  locationResolved : Bool
  authenticationStopped : Bool
  refreshTimer : Option Int
  requests : List Request

namespace WeatherService

variable {qt : QtText} {service : WeatherService} {now : QDateTime}

def control (service : WeatherService) : Control where
  config := service.config
  inFlight := service.inFlight
  locationResolved := service.locationResolved
  authenticationStopped := service.authenticationStopped
  refreshTimer := service.refreshTimer
  requests := service.requests

section Control

@[simp] theorem control_inFlight : service.control.inFlight = service.inFlight := rfl

@[simp] theorem control_locationResolved :
    service.control.locationResolved = service.locationResolved := rfl

@[simp] theorem control_authenticationStopped :
    service.control.authenticationStopped = service.authenticationStopped := rfl

@[simp] theorem control_refreshTimer : service.control.refreshTimer = service.refreshTimer := rfl

@[simp] theorem control_requests : service.control.requests = service.requests := rfl

@[simp] theorem updateNextSolarEvent_control :
    (service.updateNextSolarEvent now).control = service.control := rfl

@[simp] theorem updateTodayPrecipitationProbability_control :
    (service.updateTodayPrecipitationProbability now).control = service.control := rfl

@[simp] theorem scheduleLocalHourBoundary_control :
    (service.scheduleLocalHourBoundary now).control = service.control := by
  obtain ⟨localHourTimer, heq⟩ := service.scheduleLocalHourBoundary_frame now
  rw [heq]
  rfl

@[simp] theorem saveCache_control : service.saveCache.control = service.control := by
  obtain ⟨saved, heq⟩ := service.saveCache_frame
  rw [heq]
  rfl

@[simp] theorem airQualityReady_control {airQuality : AirQuality} :
    (service.airQualityReady airQuality).control = service.control := saveCache_control

@[simp] theorem airQualityFailed_control {diagnostic : QString} :
    (service.airQualityFailed qt diagnostic).control = service.control := rfl

theorem publish_control {snapshot : Snapshot} :
    (service.publish qt snapshot now).control = { service.control with
      inFlight := false
      refreshTimer := some (service.config.refreshIntervalSeconds * 1000) } := by
  obtain ⟨_, _, _, _, _, _, _, _, heq⟩ := service.publish_frame now snapshot
  rw [heq]
  rfl

theorem fail_control (diagnostic : QString) (authenticationFailure : Bool) (retry : Int) :
    (service.fail qt diagnostic authenticationFailure retry).control = { service.control with
      inFlight := false
      authenticationStopped := authenticationFailure
      refreshTimer :=
        if authenticationFailure then service.refreshTimer
        else some ({ service with failureCount := service.failureCount + 1 }.backoff retry
          * 1000) } := by
  cases authenticationFailure <;> rfl

theorem restore_control {cached : Snapshot} :
    (service.restore cached now).control = service.control := by
  obtain ⟨_, _, _, _, _, _, _, _, heq⟩ := service.restore_frame now cached
  rw [heq]
  rfl

theorem setLocation_eq (qt : QtText) (location : Location) (now : QDateTime) :
    ∃ placed : WeatherService, service.setLocation qt location now = placed.startOperation false ∧
      placed.control = { service.control with inFlight := false, locationResolved := true } := by
  refine ⟨_, rfl, ?_⟩
  split <;> rfl

theorem startOperation_idle {manual : Bool}
    (h : service.inFlight ∨ manual = false ∧ service.authenticationStopped) :
    service.startOperation manual = service := by
  unfold startOperation
  rcases h with h | ⟨rfl, h⟩ <;> simp [h]

theorem startOperation_control {manual : Bool} (hf : service.inFlight = false)
    (ha : manual ∨ service.authenticationStopped = false) :
    (service.startOperation manual).control = { service.control with
      inFlight := true
      authenticationStopped := false
      refreshTimer := if manual then none else service.refreshTimer
      requests := service.requests ++ [service.nextRequest] } := by
  unfold startOperation
  cases manual with
  | false =>
    have ha : service.authenticationStopped = false := by simpa using ha
    simp [hf, ha, control]
  | true => simp [hf, control, nextRequest]

theorem initialized_eq (qt : QtText) (config : WeatherConfig) (cached : Option Snapshot)
    (now : QDateTime) :
    ∃ restored : WeatherService, restored.control = control { config } ∧
      initialized qt config "" cached now =
        if config.locationMode = .coordinates then
          restored.setLocation qt { latitude := config.latitude, longitude := config.longitude } now
        else restored.startOperation false := by
  cases cached with
  | none => exact ⟨{ config }, rfl, rfl⟩
  | some cached => exact ⟨({ config } : WeatherService).restore cached now, restore_control, rfl⟩

end Control

end WeatherService

namespace World

variable {qt : QtText} {w : World} {service : WeatherService}

@[simp] theorem call_service : (w.call service).service = service := rfl

theorem call_outstanding {later : List Request}
    (h : service.requests = w.service.requests ++ later) :
    (w.call service).outstanding = w.outstanding ++ later := by
  simp [call, h]

theorem call_outstanding_same (h : service.requests = w.service.requests) :
    (w.call service).outstanding = w.outstanding :=
  (call_outstanding (h.trans (List.append_nil _).symm)).trans (List.append_nil _)

/-- The handler that an event calls, and what it makes of the service. -/
inductive Handled (qt : QtText) (w : World) : Event → WeatherService → Prop
  | refresh : Handled qt w .refresh w.service.refresh
  | timeout (h : w.service.refreshTimer.isSome) :
    Handled qt w .timeout ({ w.service with refreshTimer := none }.startOperation false)
  | solarTimeout {now : QDateTime} (h : w.service.solarEventTimer.isSome) :
    Handled qt w (.solarTimeout now) (w.service.updateNextSolarEvent now)
  | localHourTimeout {now : QDateTime} (h : w.service.localHourTimer.isSome) :
    Handled qt w (.localHourTimeout now)
      ((w.service.updateTodayPrecipitationProbability now).scheduleLocalHourBoundary now)
  | resolved {request : Request} {location : Location} {now : QDateTime}
      (h : request ∈ w.outstanding ∧ !request.isForecast) :
    Handled qt w (.resolved request location now) (w.service.setLocation qt location now)
  | forecastReady {request : Request} {snapshot : Snapshot} {now : QDateTime}
      (h : request ∈ w.outstanding ∧ request.isForecast) :
    Handled qt w (.forecastReady request snapshot now) (w.service.publish qt snapshot now)
  | failed {request : Request} {diagnostic : QString} {authenticationFailure : Bool} {retry : Int}
      (h : request ∈ w.outstanding) :
    Handled qt w (.failed request diagnostic authenticationFailure retry)
      (w.service.fail qt diagnostic authenticationFailure retry)
  | airQualityReady {airQuality : AirQuality} :
    Handled qt w (.airQualityReady airQuality) (w.service.airQualityReady airQuality)
  | airQualityFailed {diagnostic : QString} :
    Handled qt w (.airQualityFailed diagnostic) (w.service.airQualityFailed qt diagnostic)

/-- An event that cannot happen leaves the service as it is. -/
theorem step_service (qt : QtText) (w : World) (e : Event) :
    (w.step qt e).service = w.service ∨ w.Handled qt e (w.step qt e).service := by
  cases e with
  | refresh => exact .inr .refresh
  | airQualityReady => exact .inr .airQualityReady
  | airQualityFailed => exact .inr .airQualityFailed
  | timeout =>
    rw [step]
    split
    case isTrue h => exact .inr (.timeout h)
    case isFalse => exact .inl rfl
  | solarTimeout now =>
    rw [step]
    split
    case isTrue h => exact .inr (.solarTimeout h)
    case isFalse => exact .inl rfl
  | localHourTimeout now =>
    rw [step]
    split
    case isTrue h => exact .inr (.localHourTimeout h)
    case isFalse => exact .inl rfl
  | resolved request location now =>
    rw [step]
    split
    case isTrue h => exact .inr (.resolved h)
    case isFalse => exact .inl rfl
  | forecastReady request snapshot now =>
    rw [step]
    split
    case isTrue h => exact .inr (.forecastReady h)
    case isFalse => exact .inl rfl
  | failed request diagnostic authenticationFailure retry =>
    rw [step]
    split
    case isTrue h => exact .inr (.failed h)
    case isFalse => exact .inl rfl

/-- What holds of the service between events. -/
structure Sound (w : World) : Prop where
  inFlight : w.service.inFlight ↔ ∃ request, w.outstanding = [request]
  single : w.outstanding.length ≤ 1
  quiet : w.outstanding ≠ [] → w.service.refreshTimer = none
  alive : w.outstanding ≠ [] ∨ w.service.refreshTimer.isSome ∨ w.service.authenticationStopped

theorem Sound.answered_outstanding (h : w.Sound) {request : Request} (hr : request ∈ w.outstanding) :
    (w.answered request).outstanding = [] := by
  obtain ⟨other, ho⟩ := List.length_eq_one_iff.mp
    (le_antisymm h.single (List.length_pos_of_mem hr))
  have : request = other := by simpa [ho] using hr
  simp [answered, ho, this]

theorem Sound.idle (h : w.Sound) (ho : w.outstanding = []) : w.service.inFlight = false := by
  simpa [ho] using h.inFlight

/-- A handler that leaves the operation alone. -/
theorem Sound.unchanged (h : w.Sound) (hc : service.control = w.service.control) :
    (w.call service).Sound := by
  simp only [WeatherService.control, Control.mk.injEq] at hc
  obtain ⟨-, hf, -, ha, ht, hr⟩ := hc
  have ho := call_outstanding_same hr
  constructor
  · rw [ho, call_service, hf]
    exact h.inFlight
  · rw [ho]
    exact h.single
  · rw [ho, call_service, ht]
    exact h.quiet
  · rw [ho, call_service, ht, ha]
    exact h.alive

/-- A handler that ends the operation and starts no other. -/
theorem sound_of_settled (ho : w.outstanding = []) (hr : service.requests = w.service.requests)
    (hf : service.inFlight = false)
    (ha : service.refreshTimer.isSome ∨ service.authenticationStopped) :
    (w.call service).Sound := by
  have ho := (call_outstanding_same hr).trans ho
  constructor <;> simp [ho, hf, ha]

/-- A handler that starts the next operation, the one before having ended. -/
theorem sound_of_started {manual : Bool} (ho : w.outstanding = [])
    (hr : service.requests = w.service.requests) (hf : service.inFlight = false)
    (ht : manual ∨ service.refreshTimer = none) :
    (w.call (service.startOperation manual)).Sound := by
  by_cases ha : manual ∨ service.authenticationStopped = false
  · have hc := WeatherService.startOperation_control hf ha
    have hrequests : (service.startOperation manual).requests =
        w.service.requests ++ [service.nextRequest] := by
      simpa [hr] using congrArg Control.requests hc
    have ho : (w.call (service.startOperation manual)).outstanding = [service.nextRequest] := by
      rw [call_outstanding hrequests, ho, List.nil_append]
    have htimer : (service.startOperation manual).refreshTimer = none := by
      have h := congrArg Control.refreshTimer hc
      rcases ht with rfl | ht
      · exact h
      · simpa [ht] using h
    have hflight : (service.startOperation manual).inFlight = true := congrArg Control.inFlight hc
    constructor <;> simp [ho, htimer, hflight]
  · simp only [not_or, Bool.not_eq_true, Bool.not_eq_false] at ha
    rw [WeatherService.startOperation_idle (Or.inr ha)]
    exact sound_of_settled ho hr hf (Or.inr ha.2)

theorem Sound.setLocation (h : w.Sound) {request : Request} (hr : request ∈ w.outstanding)
    (location : Location) (now : QDateTime) :
    ((w.answered request).call (w.service.setLocation qt location now)).Sound := by
  obtain ⟨placed, heq, hc⟩ := w.service.setLocation_eq qt location now
  have htimer : placed.refreshTimer = none :=
    (congrArg Control.refreshTimer hc).trans (h.quiet (List.ne_nil_of_mem hr))
  rw [heq]
  exact sound_of_started (h.answered_outstanding hr) (congrArg Control.requests hc)
    (congrArg Control.inFlight hc) (Or.inr htimer)

theorem Sound.fail (h : w.Sound) {request : Request} (hr : request ∈ w.outstanding)
    (diagnostic : QString) (authenticationFailure : Bool) (retry : Int) :
    ((w.answered request).call
      (w.service.fail qt diagnostic authenticationFailure retry)).Sound := by
  have hc : (w.service.fail qt diagnostic authenticationFailure retry).control = _ :=
    w.service.fail_control diagnostic authenticationFailure retry
  refine sound_of_settled (h.answered_outstanding hr) (congrArg Control.requests hc)
    (congrArg Control.inFlight hc) ?_
  cases authenticationFailure with
  | false => exact Or.inl (congrArg Option.isSome (congrArg Control.refreshTimer hc))
  | true => exact Or.inr (congrArg Control.authenticationStopped hc)

theorem Sound.timeout (h : w.Sound) (ht : w.service.refreshTimer.isSome) :
    (w.call ({ w.service with refreshTimer := none }.startOperation false)).Sound := by
  have ho : w.outstanding = [] := by
    by_contra hn
    simp [h.quiet hn] at ht
  exact sound_of_started ho rfl (h.idle ho) (Or.inr rfl)

theorem Sound.refresh (h : w.Sound) : (w.call w.service.refresh).Sound := by
  cases hf : w.service.inFlight with
  | false =>
    have ho : w.outstanding = [] := by
      have hn : ¬ ∃ request, w.outstanding = [request] := by simp [← h.inFlight, hf]
      by_contra ho
      exact hn (List.length_eq_one_iff.mp (le_antisymm h.single (List.length_pos_iff.mpr ho)))
    exact sound_of_started ho rfl hf (Or.inl rfl)
  | true =>
    have hidle : w.service.refresh = w.service := WeatherService.startOperation_idle (Or.inl hf)
    exact h.unchanged (congrArg WeatherService.control hidle)

theorem Sound.step (h : w.Sound) (e : Event) : (w.step qt e).Sound := by
  cases e with
  | refresh => exact h.refresh
  | timeout =>
    by_cases ht : w.service.refreshTimer.isSome
    · simpa [World.step, ht] using h.timeout ht
    · simpa [World.step, ht] using h
  | solarTimeout now =>
    simp only [World.step]
    split
    · exact h.unchanged WeatherService.updateNextSolarEvent_control
    · exact h
  | localHourTimeout now =>
    simp only [World.step]
    split
    · exact h.unchanged WeatherService.scheduleLocalHourBoundary_control
    · exact h
  | resolved request location now =>
    simp only [World.step]
    split
    case isTrue hr => exact h.setLocation hr.1 location now
    case isFalse => exact h
  | forecastReady request snapshot now =>
    simp only [World.step]
    split
    case isTrue hr =>
      have hc : (w.service.publish qt snapshot now).control = _ := WeatherService.publish_control
      exact sound_of_settled (h.answered_outstanding hr.1) (congrArg Control.requests hc)
        (congrArg Control.inFlight hc)
        (Or.inl (congrArg Option.isSome (congrArg Control.refreshTimer hc)))
    case isFalse => exact h
  | failed request diagnostic authenticationFailure retry =>
    simp only [World.step]
    split
    case isTrue hr => exact h.fail hr diagnostic authenticationFailure retry
    case isFalse => exact h
  | airQualityReady airQuality => exact h.unchanged WeatherService.airQualityReady_control
  | airQualityFailed diagnostic => exact h.unchanged WeatherService.airQualityFailed_control

variable {config : WeatherConfig} {cached : Option Snapshot} {now : QDateTime}

theorem start_sound : (start qt config cached now).Sound := by
  obtain ⟨restored, hrestored, heq⟩ := WeatherService.initialized_eq qt config cached now
  rw [start, heq]
  split
  case isTrue =>
    obtain ⟨placed, hplaced, hc⟩ := restored.setLocation_eq qt
      { latitude := config.latitude, longitude := config.longitude } now
    rw [hrestored] at hc
    rw [hplaced]
    exact sound_of_started rfl (congrArg Control.requests hc) (congrArg Control.inFlight hc)
      (Or.inr (congrArg Control.refreshTimer hc))
  case isFalse =>
    exact sound_of_started rfl (congrArg Control.requests hrestored)
      (congrArg Control.inFlight hrestored) (Or.inr (congrArg Control.refreshTimer hrestored))

theorem Sound.run (h : w.Sound) (es : List Event) : (run (World.step qt) w es).Sound :=
  run_invariant h fun _ e _ h => h.step e

section Issued

/-- Requests are only added; once the location is resolved, only forecasts. -/
structure Grows (service service' : WeatherService) : Prop where
  requests : ∃ later, service'.requests = service.requests ++ later ∧
    (service.locationResolved → ∀ request ∈ later, request.isForecast)
  locationResolved : service.locationResolved → service'.locationResolved

variable {service₁ service₂ service₃ : WeatherService}

theorem Grows.same (hr : service₂.requests = service₁.requests)
    (hl : service₂.locationResolved = service₁.locationResolved) : Grows service₁ service₂ where
  requests := ⟨[], by simp [hr]⟩
  locationResolved h := hl.trans h

theorem Grows.of_control (h : service₂.control = service₁.control) : Grows service₁ service₂ :=
  .same (congrArg Control.requests h) (congrArg Control.locationResolved h)

theorem Grows.trans (h₁ : Grows service₁ service₂) (h₂ : Grows service₂ service₃) :
    Grows service₁ service₃ := by
  obtain ⟨later₁, heq₁, hf₁⟩ := h₁.requests
  obtain ⟨later₂, heq₂, hf₂⟩ := h₂.requests
  refine ⟨⟨later₁ ++ later₂, ?_, fun hl => ?_⟩, fun hl => ?_⟩
  · rw [heq₂, heq₁, List.append_assoc]
  · exact List.forall_mem_append.mpr ⟨hf₁ hl, hf₂ (h₁.locationResolved hl)⟩
  · exact h₂.locationResolved (h₁.locationResolved hl)

theorem Grows.startOperation (manual : Bool) : Grows service₁ (service₁.startOperation manual) := by
  by_cases h : service₁.inFlight ∨ manual = false ∧ service₁.authenticationStopped
  case pos =>
    rw [WeatherService.startOperation_idle h]
    exact .of_control rfl
  case neg =>
    simp only [not_or, not_and, Bool.not_eq_true] at h
    have ha : manual ∨ service₁.authenticationStopped = false := by
      cases manual with
      | false => exact Or.inr (h.2 rfl)
      | true => exact Or.inl rfl
    have hc := WeatherService.startOperation_control h.1 ha
    refine ⟨⟨[service₁.nextRequest], congrArg Control.requests hc, fun hl => ?_⟩, fun hl => ?_⟩
    · simp [WeatherService.nextRequest, hl, Request.isForecast]
    · exact (congrArg Control.locationResolved hc).trans hl

/-- The request that `setLocation` starts is one for the forecast. -/
theorem setLocation_requests (qt : QtText) (service : WeatherService) (location : Location)
    (now : QDateTime) :
    (service.setLocation qt location now).locationResolved ∧
      ∃ later, (service.setLocation qt location now).requests = service.requests ++ later ∧
        ∀ request ∈ later, request.isForecast := by
  obtain ⟨placed, heq, hc⟩ := service.setLocation_eq qt location now
  have hl : placed.locationResolved = true := congrArg Control.locationResolved hc
  have hr : placed.requests = service.requests := congrArg Control.requests hc
  have hg : Grows placed (placed.startOperation false) := .startOperation false
  obtain ⟨later, hlater, hf⟩ := hg.requests
  rw [heq]
  exact ⟨hg.locationResolved hl, later, hlater.trans (by rw [hr]), hf hl⟩

theorem Grows.setLocation (location : Location) (now : QDateTime) :
    Grows service₁ (service₁.setLocation qt location now) := by
  obtain ⟨hl, later, hlater, hf⟩ := setLocation_requests qt service₁ location now
  exact ⟨⟨later, hlater, fun _ => hf⟩, fun _ => hl⟩

theorem Handled.grows {e : Event} (h : w.Handled qt e service) : Grows w.service service := by
  cases h with
  | refresh => exact .startOperation true
  | timeout =>
    have hg : Grows { w.service with refreshTimer := none } _ := .startOperation false
    exact ⟨hg.requests, hg.locationResolved⟩
  | solarTimeout => exact .of_control rfl
  | localHourTimeout => exact .of_control WeatherService.scheduleLocalHourBoundary_control
  | resolved => exact .setLocation _ _
  | @forecastReady _ snapshot now =>
    have hc : (w.service.publish qt snapshot now).control = _ := WeatherService.publish_control
    exact .same (congrArg Control.requests hc) (congrArg Control.locationResolved hc)
  | @failed _ diagnostic authenticationFailure retry =>
    have hc : (w.service.fail qt diagnostic authenticationFailure retry).control = _ :=
      w.service.fail_control diagnostic authenticationFailure retry
    exact .same (congrArg Control.requests hc) (congrArg Control.locationResolved hc)
  | airQualityReady => exact .of_control WeatherService.airQualityReady_control
  | airQualityFailed => exact .of_control rfl

theorem Grows.step (e : Event) : Grows w.service (w.step qt e).service := by
  rcases step_service qt w e with heq | h
  · exact .of_control (congrArg WeatherService.control heq)
  · exact h.grows

theorem Grows.run (es : List Event) : Grows w.service (run (World.step qt) w es).service := by
  induction es generalizing w with
  | nil => exact .of_control rfl
  | cons e es ih => exact Grows.trans (.step e) ih

theorem issued_eq {es : List Event} {later : List Request}
    (h : (RpiDashboard.run (World.step qt) w es).service.requests = w.service.requests ++ later) :
    w.issued qt es = later := by
  simp [issued, h]

theorem forecasts_of_located (hl : w.service.locationResolved) (es : List Event) :
    ∀ request ∈ w.issued qt es, request.isForecast := by
  have hg : Grows w.service (RpiDashboard.run (World.step qt) w es).service := Grows.run es
  obtain ⟨later, heq, hf⟩ := hg.requests
  rw [issued_eq heq]
  exact hf hl

/-- The location is resolved by `e`. -/
def Resolves (w : World) (e : Event) : Prop :=
  ∃ request location now,
    e = .resolved request location now ∧ request ∈ w.outstanding ∧ request.isForecast = false

theorem forecasts_of_resolves {e : Event} (h : w.Resolves e) (es : List Event) :
    ∀ request ∈ w.issued qt (e :: es), request.isForecast := by
  obtain ⟨request, location, now, rfl, hr, hk⟩ := h
  have hstep : (w.step qt (.resolved request location now)).service =
      w.service.setLocation qt location now := by
    simp [World.step, hr, hk]
  obtain ⟨hl, later₁, heq₁, hf₁⟩ := setLocation_requests qt w.service location now
  rw [← hstep] at hl heq₁
  have hg : Grows _ (RpiDashboard.run (World.step qt) w (.resolved request location now :: es)).service
    := Grows.run es
  obtain ⟨later₂, heq₂, hf₂⟩ := hg.requests
  rw [heq₁, List.append_assoc] at heq₂
  rw [issued_eq heq₂]
  exact List.forall_mem_append.mpr ⟨hf₁, hf₂ hl⟩

theorem forecasts_of_coordinates (h : config.locationMode = .coordinates) (es : List Event) :
    ∀ request ∈ (RpiDashboard.run (World.step qt) (start qt config cached now) es).service.requests,
      request.isForecast := by
  obtain ⟨restored, hrestored, heq⟩ := WeatherService.initialized_eq qt config cached now
  rw [if_pos h] at heq
  obtain ⟨hl, later₁, heq₁, hf₁⟩ := setLocation_requests qt restored
    { latitude := config.latitude, longitude := config.longitude } now
  rw [← heq] at hl heq₁
  have hr : restored.requests = [] := congrArg Control.requests hrestored
  have hg : Grows (start qt config cached now).service
      (RpiDashboard.run (World.step qt) (start qt config cached now) es).service := Grows.run es
  obtain ⟨later₂, heq₂, hf₂⟩ := hg.requests
  rw [heq₂]
  refine List.forall_mem_append.mpr ⟨?_, hf₂ hl⟩
  rw [start, call_service, heq₁, hr]
  exact hf₁

/-- An authentication failure is reported by `e`. -/
def Stops (w : World) (e : Event) : Prop :=
  ∃ request diagnostic retry, e = .failed request diagnostic true retry ∧ request ∈ w.outstanding

structure Stopped (w : World) : Prop where
  authenticationStopped : w.service.authenticationStopped
  outstanding : w.outstanding = []
  refreshTimer : w.service.refreshTimer = none

theorem Stopped.same (h : w.Stopped) (hc : service.control = w.service.control) :
    (w.call service).Stopped ∧ (w.call service).service.requests = w.service.requests := by
  simp only [WeatherService.control, Control.mk.injEq] at hc
  obtain ⟨-, -, -, ha, ht, hr⟩ := hc
  exact ⟨⟨ha.trans h.authenticationStopped, (call_outstanding_same hr).trans h.outstanding,
    ht.trans h.refreshTimer⟩, hr⟩

theorem Stopped.step (h : w.Stopped) {e : Event} (he : e ≠ .refresh) :
    (w.step qt e).Stopped ∧ (w.step qt e).service.requests = w.service.requests := by
  cases e with
  | refresh => exact absurd rfl he
  | timeout => simpa [World.step, h.refreshTimer] using h
  | solarTimeout now =>
    simp only [World.step]
    split
    · exact h.same WeatherService.updateNextSolarEvent_control
    · exact ⟨h, rfl⟩
  | localHourTimeout now =>
    simp only [World.step]
    split
    · exact h.same WeatherService.scheduleLocalHourBoundary_control
    · exact ⟨h, rfl⟩
  | resolved request location now => simpa [World.step, h.outstanding] using h
  | forecastReady request snapshot now => simpa [World.step, h.outstanding] using h
  | failed request diagnostic authenticationFailure retry =>
    simpa [World.step, h.outstanding] using h
  | airQualityReady airQuality => exact h.same WeatherService.airQualityReady_control
  | airQualityFailed diagnostic => exact h.same WeatherService.airQualityFailed_control

theorem Sound.stopped (h : w.Sound) {e : Event} (he : w.Stops e) :
    (w.step qt e).Stopped ∧ (w.step qt e).service.requests = w.service.requests := by
  obtain ⟨request, diagnostic, retry, rfl, hr⟩ := he
  have hc : (w.service.fail qt diagnostic true retry).control = _ :=
    w.service.fail_control diagnostic true retry
  have hrequests : (w.service.fail qt diagnostic true retry).requests = w.service.requests :=
    congrArg Control.requests hc
  simp only [World.step, hr, if_true]
  refine ⟨⟨congrArg Control.authenticationStopped hc, ?_, ?_⟩, hrequests⟩
  · have ho : ((w.answered request).call _).outstanding = _ := call_outstanding_same hrequests
    exact ho.trans (h.answered_outstanding hr)
  · exact (congrArg Control.refreshTimer hc).trans (h.quiet (List.ne_nil_of_mem hr))

theorem Sound.issues_nothing (h : w.Sound) {e : Event} (he : w.Stops e) {es : List Event}
    (hes : .refresh ∉ es) : w.issued qt (e :: es) = [] := by
  have hrun : (RpiDashboard.run (World.step qt) (w.step qt e) es).Stopped ∧
      (RpiDashboard.run (World.step qt) (w.step qt e) es).service.requests =
        w.service.requests := by
    refine run_invariant (P := fun s : World => s.Stopped ∧ s.service.requests = w.service.requests)
      (h.stopped he) fun s e he hs => ?_
    have hstep : (s.step qt e).Stopped ∧ (s.step qt e).service.requests = s.service.requests :=
      hs.1.step (ne_of_mem_of_not_mem he hes)
    exact ⟨hstep.1, hstep.2.trans hs.2⟩
  exact issued_eq (hrun.2.trans (List.append_nil _).symm)

end Issued

/-- The operations of a configured service that lacks no credential, along every run: one
request at a time and never stuck, no location request once the place is known, nothing
after an authentication failure until `refresh`. -/
theorem operations (qt : QtText) (config : WeatherConfig) (cached : Option Snapshot)
    (now : QDateTime) (es : List Event) :
    let w := RpiDashboard.run (World.step qt) (start qt config cached now) es
    w.Sound ∧
      (config.locationMode = .coordinates → ∀ request ∈ w.service.requests, request.isForecast) ∧
      (∀ e later, w.Resolves e → ∀ request ∈ w.issued qt (e :: later), request.isForecast) ∧
      ∀ e later, w.Stops e → .refresh ∉ later → w.issued qt (e :: later) = [] := by
  intro w
  have hw : w.Sound := start_sound.run es
  exact ⟨hw, fun h => forecasts_of_coordinates h es, fun e later h => forecasts_of_resolves h later,
    fun e later he => hw.issues_nothing he⟩

end World

end RpiDashboard.Weather
