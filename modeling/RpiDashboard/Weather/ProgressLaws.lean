import RpiDashboard.Data.Progress
import RpiDashboard.Weather.LocationLaws
import RpiDashboard.Weather.OperationsLaws

/-! The weather service keeps asking: every operation ends, and another one follows. -/

namespace RpiDashboard.Weather

open Qt

namespace World

variable {qt : QtText} {w : World} {e : Event}

/-- The event ends a request that is outstanding. -/
def Answers (w : World) : Event → Prop
  | .resolved request _ _ => request ∈ w.outstanding ∧ !request.isForecast
  | .forecastReady request _ _ => request ∈ w.outstanding ∧ request.isForecast
  | .failed request _ _ _ => request ∈ w.outstanding
  | _ => False

/-- How many answers a request leads to: a place is followed by its forecast. -/
def answersTo (request : Request) : Nat := if request.isForecast then 1 else 2

def waiting (w : World) : Nat := (w.outstanding.map answersTo).sum

section Steps

theorem Sound.outstanding_eq (h : w.Sound) {request : Request} (hr : request ∈ w.outstanding) :
    w.outstanding = [request] := by
  obtain ⟨other, ho⟩ := List.length_eq_one_iff.mp
    (le_antisymm h.single (List.length_pos_of_mem hr))
  obtain rfl : request = other := by simpa [ho] using hr
  exact ho

/-- A handler that ends the operation leaves nothing outstanding. -/
theorem Sound.settled_outstanding (h : w.Sound) {request : Request} (hr : request ∈ w.outstanding)
    {service : WeatherService} (hs : service.requests = w.service.requests) :
    ((w.answered request).call service).outstanding = [] :=
  (call_outstanding_same (w := w.answered request) hs).trans (h.answered_outstanding hr)

theorem Sound.resolved_waiting (h : w.Sound) {request : Request} {location : Location}
    {now : QDateTime} (hr : request ∈ w.outstanding ∧ !request.isForecast) :
    (w.step qt (.resolved request location now)).waiting < w.waiting := by
  have hstep : w.step qt (.resolved request location now) =
      (w.answered request).call (w.service.setLocation qt location now) := if_pos hr
  obtain ⟨-, later, hlater, hforecasts⟩ :=
    setLocation_requests qt w.service location now
  have houtstanding : (w.step qt (.resolved request location now)).outstanding = later := by
    rw [hstep, call_outstanding (w := w.answered request) hlater, h.answered_outstanding hr.1,
      List.nil_append]
  have hsingle : (w.step qt (.resolved request location now)).outstanding.length ≤ 1 :=
    (h.step (.resolved request location now)).single
  rw [houtstanding] at hsingle
  have hones : later.map answersTo = later.map fun _ => 1 :=
    List.map_congr_left fun request hmem => if_pos (hforecasts request hmem)
  have hplace : request.isForecast = false := by simpa using hr.2
  rw [waiting, waiting, houtstanding, hones, h.outstanding_eq hr.1]
  simp only [List.map_const', List.sum_replicate_nat, List.map_cons, List.map_nil,
    List.sum_singleton, answersTo, hplace, Bool.false_eq_true, if_false]
  omega

/-- An answer ends the operation, or leaves less to wait for. -/
theorem Sound.answered_waiting (h : w.Sound) (ha : w.Answers e) :
    (w.step qt e).outstanding = [] ∨ (w.step qt e).waiting < w.waiting := by
  cases e with
  | resolved request location now => exact .inr (h.resolved_waiting ha)
  | forecastReady request snapshot now =>
    have hstep : w.step qt (.forecastReady request snapshot now) =
      (w.answered request).call (w.service.publish qt snapshot now) := if_pos ha
    have hc : (w.service.publish qt snapshot now).control = _ := WeatherService.publish_control
    rw [hstep]
    exact .inl (h.settled_outstanding ha.1 (congrArg Control.requests hc))
  | failed request diagnostic authenticationFailure retry =>
    have hstep : w.step qt (.failed request diagnostic authenticationFailure retry) =
      (w.answered request).call
        (w.service.fail qt diagnostic authenticationFailure retry) := if_pos ha
    have hc : (w.service.fail qt diagnostic authenticationFailure retry).control = _ :=
      w.service.fail_control diagnostic authenticationFailure retry
    rw [hstep]
    exact .inl (h.settled_outstanding ha (congrArg Control.requests hc))
  | refresh => cases ha
  | timeout => cases ha
  | solarTimeout now => cases ha
  | localHourTimeout now => cases ha
  | airQualityReady airQuality => cases ha
  | airQualityFailed diagnostic => cases ha

theorem call_outstanding_of_control {service : WeatherService}
    (hc : service.control = w.service.control) : (w.call service).outstanding = w.outstanding :=
  call_outstanding_same (congrArg Control.requests hc)

/-- What is no answer leaves an operation as it is. -/
theorem Sound.busy_outstanding (h : w.Sound) (hne : w.outstanding ≠ []) (ha : ¬ w.Answers e) :
    (w.step qt e).outstanding = w.outstanding := by
  have hflight : w.service.inFlight = true :=
    h.inFlight.mpr (List.length_eq_one_iff.mp (le_antisymm h.single (List.length_pos_iff.mpr hne)))
  cases e with
  | refresh =>
    have hidle : w.service.refresh = w.service := WeatherService.startOperation_idle (.inl hflight)
    exact call_outstanding_same (congrArg WeatherService.requests hidle)
  | timeout =>
    have hstep : w.step qt .timeout = w := if_neg (by simp [h.quiet hne])
    rw [hstep]
  | solarTimeout now =>
    simp only [World.step]
    split
    · exact call_outstanding_of_control WeatherService.updateNextSolarEvent_control
    · rfl
  | localHourTimeout now =>
    simp only [World.step]
    split
    · exact call_outstanding_of_control WeatherService.scheduleLocalHourBoundary_control
    · rfl
  | resolved request location now =>
    have hstep : w.step qt (.resolved request location now) = w := if_neg ha
    rw [hstep]
  | forecastReady request snapshot now =>
    have hstep : w.step qt (.forecastReady request snapshot now) = w := if_neg ha
    rw [hstep]
  | failed request diagnostic authenticationFailure retry =>
    have hstep : w.step qt (.failed request diagnostic authenticationFailure retry) = w := if_neg ha
    rw [hstep]
  | airQualityReady airQuality =>
    exact call_outstanding_of_control WeatherService.airQualityReady_control
  | airQualityFailed diagnostic =>
    exact call_outstanding_of_control WeatherService.airQualityFailed_control

/-- An operation that starts issues a request. -/
theorem idle_outstanding (ho : w.outstanding = []) : (w.step qt e).outstanding =
    (w.step qt e).service.requests.drop w.service.requests.length := by
  have hsame : w.outstanding = w.service.requests.drop w.service.requests.length := by
    rw [ho, List.drop_length]
  have hcall : ∀ service : WeatherService, (w.call service).outstanding =
      service.requests.drop w.service.requests.length := fun service => by
    simp [call, ho]
  cases e with
  | refresh => exact hcall _
  | timeout =>
    simp only [World.step]
    split
    · exact hcall _
    · exact hsame
  | solarTimeout now =>
    simp only [World.step]
    split
    · exact hcall _
    · exact hsame
  | localHourTimeout now =>
    simp only [World.step]
    split
    · exact hcall _
    · exact hsame
  | resolved request location now => simp [World.step, ho]
  | forecastReady request snapshot now => simp [World.step, ho]
  | failed request diagnostic authenticationFailure retry => simp [World.step, ho]
  | airQualityReady airQuality => exact hcall _
  | airQualityFailed diagnostic => exact hcall _

/-- The timer starts the next operation, unless the provider has refused the credential. -/
theorem Sound.timeout_requests (h : w.Sound) (ho : w.outstanding = [])
    (ht : w.service.refreshTimer.isSome) (ha : w.service.authenticationStopped = false) :
    w.service.requests.length < (w.step qt .timeout).service.requests.length := by
  have hstep : w.step qt .timeout =
    w.call ({ w.service with refreshTimer := none }.startOperation false) := if_pos ht
  have hc : ({ w.service with refreshTimer := none }.startOperation false).control = _ :=
    WeatherService.startOperation_control (h.idle ho) (.inr ha)
  have hrequests := congrArg Control.requests hc
  rw [hstep, call_service]
  simp only [WeatherService.control_requests] at hrequests
  rw [hrequests]
  simp

end Steps

section Runs

variable {config : WeatherConfig} {cached : Option Snapshot} {now : QDateTime} {es : ℕ → Event}

/-- The world before the event at this place of an endless run from the constructor on. -/
def reached (qt : QtText) (config : WeatherConfig) (cached : Option Snapshot) (now : QDateTime)
    (es : ℕ → Event) (n : ℕ) : World :=
  stateAt (World.step qt) (start qt config cached now) es n

theorem reached_succ {n : ℕ} : reached qt config cached now es (n + 1) =
    (reached qt config cached now es n).step qt (es n) := rfl

theorem reached_sound (n : ℕ) : (reached qt config cached now es n).Sound := by
  refine stateAt_invariant (P := Sound) ?_ (fun n h => h.step (es n)) (Nat.zero_le n)
  exact start_sound

theorem requests_mono {n m : ℕ} (h : n ≤ m) :
    (reached qt config cached now es n).service.requests.length ≤
      (reached qt config cached now es m).service.requests.length := by
  induction m, h using Nat.le_induction with
  | base => exact le_rfl
  | succ m _ ih =>
    have hgrows : Grows (reached qt config cached now es m).service
        (reached qt config cached now es (m + 1)).service := Grows.step (es m)
    obtain ⟨later, hlater, -⟩ := hgrows.requests
    rw [hlater, List.length_append]
    exact ih.trans (Nat.le_add_right _ _)

/-- Every request that is outstanding is answered in the end, and no timer is left to run for
ever. -/
structure Fair (qt : QtText) (config : WeatherConfig) (cached : Option Snapshot) (now : QDateTime)
    (es : ℕ → Event) : Prop where
  answered : ∀ n, ∃ m, n ≤ m ∧ ((reached qt config cached now es m).outstanding = [] ∨
    (reached qt config cached now es m).Answers (es m))
  expired : ∀ n, ∃ m, n ≤ m ∧
    ((reached qt config cached now es m).service.refreshTimer = none ∨ es m = .timeout)

theorem Fair.ends (h : Fair qt config cached now es) (n : ℕ) :
    ∃ m, n ≤ m ∧ (reached qt config cached now es m).outstanding = [] := by
  refine exists_stateAt waiting (fun w e => w.outstanding = [] ∨ w.Answers e)
    (P := fun w : World => w.outstanding = []) (fun n hne => ?_) (fun n hne hanswers => ?_)
    (fun n _ => h.answered n) n
  · have hsound : (reached qt config cached now es n).Sound := reached_sound n
    by_cases hanswers : (reached qt config cached now es n).Answers (es n)
    case pos => exact (hsound.answered_waiting hanswers).imp_right le_of_lt
    case neg =>
      exact .inr (congrArg (fun outstanding => (outstanding.map answersTo).sum)
        (hsound.busy_outstanding hne hanswers)).le
  · have hsound : (reached qt config cached now es n).Sound := reached_sound n
    exact hsound.answered_waiting (hanswers.resolve_left hne)

/-- Until a request is issued, an idle service stays idle. -/
theorem idle_until {k : ℕ} (hidle : (reached qt config cached now es k).outstanding = [])
    (hnone : ∀ m, k ≤ m → (reached qt config cached now es m).service.requests.length ≤
      (reached qt config cached now es k).service.requests.length) {m : ℕ} (hm : k ≤ m) :
    (reached qt config cached now es m).outstanding = [] := by
  induction m, hm using Nat.le_induction with
  | base => exact hidle
  | succ m hm ih =>
    rw [reached_succ, idle_outstanding ih, List.drop_eq_nil_iff, ← reached_succ]
    exact (hnone (m + 1) (Nat.le_succ_of_le hm)).trans (requests_mono hm)

theorem Fair.issues (h : Fair qt config cached now es) (n : ℕ) : ∃ m, n ≤ m ∧
    ((reached qt config cached now es n).service.requests.length <
        (reached qt config cached now es m).service.requests.length ∨
      (reached qt config cached now es m).service.authenticationStopped = true) := by
  by_contra hnot
  push Not at hnot
  obtain ⟨k, hk, hidle⟩ := h.ends n
  have hnone : ∀ m, k ≤ m → (reached qt config cached now es m).service.requests.length ≤
      (reached qt config cached now es k).service.requests.length := fun m hm =>
    (hnot m (hk.trans hm)).1.trans (requests_mono hk)
  obtain ⟨m, hm, htimer⟩ := h.expired k
  have hm' : (reached qt config cached now es m).outstanding = [] := idle_until hidle hnone hm
  have hsound : (reached qt config cached now es m).Sound := reached_sound m
  have hgoes : (reached qt config cached now es m).service.authenticationStopped = false := by
    simpa using (hnot m (hk.trans hm)).2
  have harmed : (reached qt config cached now es m).service.refreshTimer.isSome := by
    simpa [hm', hgoes] using hsound.alive
  have htimeout : es m = .timeout := htimer.resolve_left (by
    intro hoff
    simp [hoff] at harmed)
  have hmore : (reached qt config cached now es m).service.requests.length <
      ((reached qt config cached now es m).step qt .timeout).service.requests.length :=
    hsound.timeout_requests hm' harmed hgoes
  rw [← htimeout, ← reached_succ] at hmore
  exact absurd ((hnone (m + 1) (Nat.le_succ_of_le hm)).trans (requests_mono hm)) (not_le.mpr hmore)

end Runs

section Sample

/-- The service looks for its place, and for nothing else. -/
structure Lost (w : World) : Prop where
  automatic : w.service.config.locationMode = .automatic
  unresolved : w.service.locationResolved = false
  locates : ∀ request ∈ w.outstanding, request = .locate

theorem Lost.failed (h : w.Lost) {diagnostic : QString} {authenticationFailure : Bool}
    {retry : Int} :
    (w.step qt (.failed .locate diagnostic authenticationFailure retry)).Lost := by
  simp only [World.step]
  split
  case isTrue =>
    have hc : (w.service.fail qt diagnostic authenticationFailure retry).control = _ :=
      w.service.fail_control diagnostic authenticationFailure retry
    refine ⟨(congrArg (fun c => c.config.locationMode) hc).trans h.automatic,
      (congrArg Control.locationResolved hc).trans h.unresolved, ?_⟩
    rw [call_outstanding_same (w := w.answered .locate) (congrArg Control.requests hc)]
    exact fun request hmem => h.locates request (List.mem_of_mem_erase hmem)
  case isFalse => exact h

theorem Lost.started (h : w.Lost) {service : WeatherService}
    (hconfig : service.config = w.service.config) (hl : service.locationResolved = false)
    (hr : service.requests = w.service.requests) :
    (w.call (service.startOperation false)).Lost := by
  by_cases hidle : service.inFlight ∨ false = false ∧ service.authenticationStopped
  case pos =>
    rw [WeatherService.startOperation_idle hidle]
    refine ⟨(congrArg WeatherConfig.locationMode hconfig).trans h.automatic, hl, ?_⟩
    rw [call_outstanding_same hr]
    exact h.locates
  case neg =>
    simp only [true_and, not_or, Bool.not_eq_true] at hidle
    have hc : (service.startOperation false).control = _ :=
      WeatherService.startOperation_control hidle.1 (.inr hidle.2)
    have hautomatic : service.config.locationMode = .automatic :=
      (congrArg WeatherConfig.locationMode hconfig).trans h.automatic
    have hrequests : (service.startOperation false).requests =
        w.service.requests ++ [service.nextRequest] := by
      rw [← hr]
      exact congrArg Control.requests hc
    refine ⟨(congrArg (fun c => c.config.locationMode) hc).trans hautomatic,
      (congrArg Control.locationResolved hc).trans hl, ?_⟩
    rw [call_outstanding hrequests]
    refine List.forall_mem_append.mpr ⟨h.locates, List.forall_mem_singleton.mpr ?_⟩
    simp [WeatherService.nextRequest, hl, hautomatic]

theorem Lost.timeout (h : w.Lost) : (w.step qt .timeout).Lost := by
  simp only [World.step]
  split
  case isTrue => exact h.started rfl h.unresolved rfl
  case isFalse => exact h

/-- The place is not found, and the timer expires. -/
def searching (n : ℕ) : Event :=
  if n % 2 = 0 then .failed .locate "" false 0 else .timeout

def sampleSearch : WeatherConfig where
  locationMode := .automatic
  refreshIntervalSeconds := 600

theorem searching_lost (n : ℕ) : (reached qt sampleSearch none {} searching n).Lost := by
  refine stateAt_invariant (P := Lost) ?_ (fun n h => ?_) (Nat.zero_le n)
  · exact ⟨rfl, rfl, by simp [start, call, WeatherService.initialized, sampleSearch,
      WeatherService.startOperation, WeatherService.nextRequest]⟩
  · unfold searching
    split
    · exact h.failed
    · exact h.timeout

theorem searching_fair : Fair qt sampleSearch none {} searching where
  answered n := by
    refine ⟨2 * n, by omega, ?_⟩
    have hlost : (reached qt sampleSearch none {} searching (2 * n)).Lost := searching_lost _
    rw [searching, if_pos (by omega)]
    rw [or_iff_not_imp_left]
    intro hne
    obtain ⟨request, hmem⟩ := List.exists_mem_of_ne_nil _ hne
    obtain rfl := hlost.locates request hmem
    exact hmem
  expired n := ⟨2 * n + 1, by omega, .inr (by simp [searching, Nat.add_mod])⟩

end Sample

end World

end RpiDashboard.Weather
