import RpiDashboard.Projects.CacheLaws
import RpiDashboard.Projects.RefreshLaws
import RpiDashboard.Projects.RunnerLaws

/-! Laws of the poll interval: what a success sets and what a refused request raises. -/

namespace RpiDashboard.Projects

open Qt

section Arithmetic

/-- The result of an operation on integers of this width, if it is one of them. -/
def checked (bits : Nat) (value : Int) : Option Int :=
  if -2 ^ (bits - 1) ≤ value ∧ value < 2 ^ (bits - 1) then some value else none

theorem checked_eq {bits : Nat} {value : Int} (hl : -2 ^ (bits - 1) ≤ value)
    (hu : value < 2 ^ (bits - 1)) : checked bits value = some value :=
  if_pos ⟨hl, hu⟩

/-- `pollIntervalMs` with every operation checked. -/
def checkedPollIntervalMs (authenticated : Bool) (requestCount : Int) : Option Int :=
  if authenticated then some authenticatedPollMs
  else do
    let measuredRequests := max 1 requestCount
    let product ← checked 64 (measuredRequests * (60 * 60 * 1000))
    let sum ← checked 64 (product + anonymousRequestBudgetPerHour)
    let difference ← checked 64 (sum - 1)
    let budgetedInterval := difference / anonymousRequestBudgetPerHour
    checked 32 (min (max anonymousMinimumPollMs budgetedInterval) maximumInt)

def checkedRetryMs (qt : QtText) (reply : Reply) : Option Int :=
  if reply.status = 403 ∨ reply.status = 429 then
    match qt.toLongLong reply.retryAfter with
    | some seconds =>
      if 0 < seconds.toInt then checked 64 (min seconds.toInt (maximumInt / 1000) * 1000)
      else some 0
    | none => some 0
  else some 0

def checkedResetMs (qt : QtText) (reply : Reply) (now : QDateTime) (delay : Int) : Option Int :=
  let current := now.toMSecsSinceEpoch / 1000
  match qt.toLongLong reply.rateLimitRemaining, qt.toLongLong reply.rateLimitReset with
  | some remaining, some reset =>
    if remaining = 0 ∧ current < reset.toInt then do
      let difference ← checked 64 (reset.toInt - current)
      let resetDelay ← checked 64 (min difference (maximumInt / 1000) * 1000)
      some (max delay resetDelay)
    else some delay
  | _, _ => some delay

/-- `rateLimitBackoffMs` with every operation checked. -/
def checkedBackoffMs (qt : QtText) (reply : Reply) (now : QDateTime) : Option Int := do
  let delay ← checkedRetryMs qt reply
  let delay ← checkedResetMs qt reply now delay
  checked 32 (min delay maximumInt)

/-- The delays in seconds that a reply asks for. -/
def requestedDelays (qt : QtText) (reply : Reply) (now : QDateTime) : List Int :=
  (if reply.status = 403 ∨ reply.status = 429 then
    ((qt.toLongLong reply.retryAfter).map Int64.toInt).toList.filter (0 < ·)
  else []) ++
  if qt.toLongLong reply.rateLimitRemaining = some 0 then
    (((qt.toLongLong reply.rateLimitReset).map Int64.toInt).toList.map
      (· - now.toMSecsSinceEpoch / 1000)).filter (0 < ·)
  else []

theorem checkedPollIntervalMs_eq (authenticated : Bool) {requestCount : Int}
    (h : requestCount < 2 ^ 31) : checkedPollIntervalMs authenticated requestCount =
      some (pollIntervalMs authenticated requestCount) := by
  cases authenticated with
  | true => rfl
  | false =>
    have hmeasured : 1 ≤ max 1 requestCount ∧ max 1 requestCount < 2 ^ 31 := by omega
    generalize hm : max 1 requestCount = measured at hmeasured
    unfold checkedPollIntervalMs pollIntervalMs
    simp only [Bool.false_eq_true, if_false, hm, anonymousRequestBudgetPerHour,
      anonymousMinimumPollMs, maximumInt]
    rw [checked_eq (by omega) (by omega)]
    simp only [Option.bind_eq_bind, Option.bind_some]
    rw [checked_eq (by omega) (by omega)]
    simp only [Option.bind_some]
    rw [checked_eq (by omega) (by omega)]
    simp only [Option.bind_some]
    exact checked_eq (by omega) (by omega)

theorem pollIntervalMs_bounds (authenticated : Bool) (requestCount : Int) :
    (if authenticated then 60000 else 900000) ≤ pollIntervalMs authenticated requestCount ∧
      pollIntervalMs authenticated requestCount ≤ maximumInt := by
  cases authenticated with
  | true => exact ⟨le_refl 60000, (by decide : (60000 : Int) ≤ 2147483647)⟩
  | false =>
    simp only [pollIntervalMs, anonymousMinimumPollMs, anonymousRequestBudgetPerHour, maximumInt,
      Bool.false_eq_true, if_false]
    omega

/-- Seconds in milliseconds, as far as an interval can have them. -/
def clampedMs (seconds : Int) : Int := min seconds (maximumInt / 1000) * 1000

/-- What `Retry-After` adds to a delay. -/
def retryMs (qt : QtText) (reply : Reply) : Int :=
  if reply.status = 403 ∨ reply.status = 429 then
    match qt.toLongLong reply.retryAfter with
    | some seconds => if 0 < seconds.toInt then clampedMs seconds.toInt else 0
    | none => 0
  else 0

def resetMs (qt : QtText) (reply : Reply) (now : QDateTime) : Int :=
  match qt.toLongLong reply.rateLimitRemaining, qt.toLongLong reply.rateLimitReset with
  | some remaining, some reset =>
    if remaining = 0 ∧ now.toMSecsSinceEpoch / 1000 < reset.toInt then
      clampedMs (reset.toInt - now.toMSecsSinceEpoch / 1000)
    else 0
  | _, _ => 0

theorem clampedMs_bounds {seconds : Int} (h : 0 < seconds) :
    0 ≤ clampedMs seconds ∧ clampedMs seconds ≤ 2147483000 := by
  unfold clampedMs maximumInt
  omega

theorem retryMs_bounds (qt : QtText) (reply : Reply) :
    0 ≤ retryMs qt reply ∧ retryMs qt reply ≤ 2147483000 := by
  unfold retryMs
  split
  · split
    · split
      case isTrue h => exact clampedMs_bounds h
      case isFalse => decide
    · decide
  · decide

theorem resetMs_bounds (qt : QtText) (reply : Reply) (now : QDateTime) :
    0 ≤ resetMs qt reply now ∧ resetMs qt reply now ≤ 2147483000 := by
  unfold resetMs
  split
  · split
    case isTrue h => exact clampedMs_bounds (sub_pos.mpr h.2)
    case isFalse => decide
  · decide

/-- The longer of the two delays. -/
theorem rateLimitBackoffMs_eq (qt : QtText) (reply : Reply) (now : QDateTime) :
    rateLimitBackoffMs qt reply now = max (retryMs qt reply) (resetMs qt reply now) := by
  obtain ⟨hr, hr'⟩ := retryMs_bounds qt reply
  have hdelay : rateLimitBackoffMs qt reply now =
      min (match qt.toLongLong reply.rateLimitRemaining, qt.toLongLong reply.rateLimitReset with
        | some remaining, some reset =>
          if remaining = 0 ∧ now.toMSecsSinceEpoch / 1000 < reset.toInt then
            max (retryMs qt reply) (clampedMs (reset.toInt - now.toMSecsSinceEpoch / 1000))
          else retryMs qt reply
        | _, _ => retryMs qt reply) maximumInt := rfl
  have hmin {delay : Int} (h : delay ≤ 2147483000) : min delay maximumInt = delay :=
    min_eq_left (h.trans (by decide))
  rw [hdelay]
  unfold resetMs
  split
  case h_1 heq₁ heq₂ =>
    split
    case isTrue h => exact hmin (max_le hr' (clampedMs_bounds (sub_pos.mpr h.2)).2)
    case isFalse => rw [hmin hr', max_eq_left hr]
  case h_2 => rw [hmin hr', max_eq_left hr]

theorem rateLimitBackoffMs_bounds (qt : QtText) (reply : Reply) (now : QDateTime) :
    0 ≤ rateLimitBackoffMs qt reply now ∧ rateLimitBackoffMs qt reply now ≤ 2147483000 := by
  rw [rateLimitBackoffMs_eq]
  have hr := retryMs_bounds qt reply
  have hs := resetMs_bounds qt reply now
  omega

theorem clampedMs_le_of_requested {qt : QtText} {reply : Reply} {now : QDateTime} {seconds : Int}
    (h : seconds ∈ requestedDelays qt reply now) :
    clampedMs seconds ≤ rateLimitBackoffMs qt reply now := by
  rw [rateLimitBackoffMs_eq]
  rcases List.mem_append.mp h with h | h
  · refine le_max_of_le_left ?_
    split at h
    case isTrue hstatus =>
      obtain ⟨hmem, hpos⟩ := List.mem_filter.mp h
      obtain ⟨parsed, hparsed, rfl⟩ := Option.map_eq_some_iff.mp (Option.mem_toList.mp hmem)
      have hpos : 0 < parsed.toInt := of_decide_eq_true hpos
      rw [retryMs, if_pos hstatus, hparsed]
      dsimp only
      rw [if_pos hpos]
    case isFalse => cases h
  · refine le_max_of_le_right ?_
    split at h
    case isTrue hremaining =>
      obtain ⟨hmem, hpos⟩ := List.mem_filter.mp h
      obtain ⟨reset, hreset, rfl⟩ := List.mem_map.mp hmem
      obtain ⟨parsed, hparsed, rfl⟩ := Option.map_eq_some_iff.mp (Option.mem_toList.mp hreset)
      have hpos : 0 < parsed.toInt - now.toMSecsSinceEpoch / 1000 := of_decide_eq_true hpos
      rw [resetMs, hremaining, hparsed]
      dsimp only
      rw [if_pos ⟨rfl, sub_pos.mp hpos⟩]
    case isFalse => cases h

/-- A delay is granted in full, unless it is longer than an interval can be. -/
theorem requested_le_backoff {qt : QtText} {reply : Reply} {now : QDateTime} {seconds : Int}
    (h : seconds ∈ requestedDelays qt reply now) :
    seconds * 1000 ≤ rateLimitBackoffMs qt reply now ∨
      rateLimitBackoffMs qt reply now = 2147483000 := by
  have hclamped := clampedMs_le_of_requested h
  have hbound := rateLimitBackoffMs_bounds qt reply now
  unfold clampedMs maximumInt at hclamped
  omega

theorem checked_clampedMs {seconds : Int} (h : 0 < seconds) :
    checked 64 (min seconds (maximumInt / 1000) * 1000) = some (clampedMs seconds) := by
  have hbounds := clampedMs_bounds h
  unfold clampedMs at hbounds
  exact checked_eq (by omega) (by omega)

theorem checkedRetryMs_eq (qt : QtText) (reply : Reply) :
    checkedRetryMs qt reply = some (retryMs qt reply) := by
  unfold checkedRetryMs retryMs
  split
  · split
    · split
      case isTrue hpos => exact checked_clampedMs hpos
      case isFalse => rfl
    · rfl
  · rfl

theorem checkedResetMs_eq (qt : QtText) (reply : Reply) {now : QDateTime}
    (h : 0 ≤ now.toMSecsSinceEpoch / 1000) {delay : Int} (hd : 0 ≤ delay) :
    checkedResetMs qt reply now delay = some (max delay (resetMs qt reply now)) := by
  unfold checkedResetMs resetMs
  dsimp only
  split
  case h_1 remaining reset _ _ =>
    split
    case isTrue hlate =>
      have hrange := reset.toInt_lt
      rw [checked_eq (by omega) (by omega)]
      simp only [Option.bind_eq_bind, Option.bind_some]
      rw [checked_clampedMs (sub_pos.mpr hlate.2)]
      rfl
    case isFalse => rw [max_eq_left hd]
  case h_2 => rw [max_eq_left hd]

theorem checkedBackoffMs_eq (qt : QtText) (reply : Reply) {now : QDateTime}
    (h : 0 ≤ now.toMSecsSinceEpoch / 1000) :
    checkedBackoffMs qt reply now = some (rateLimitBackoffMs qt reply now) := by
  have hbounds := rateLimitBackoffMs_bounds qt reply now
  rw [checkedBackoffMs, checkedRetryMs_eq, Option.bind_eq_bind, Option.bind_some,
    checkedResetMs_eq qt reply h (retryMs_bounds qt reply).1, Option.bind_some,
    ← rateLimitBackoffMs_eq, min_eq_left (hbounds.2.trans (by decide))]
  exact checked_eq (by omega) (by omega)

end Arithmetic

def Call.isSuccess : Call → Bool
  | .finishRefresh => true
  | _ => false

/-- The requests of the refresh that have been answered since it began. -/
def Call.spend (answers : Nat) : Call → Nat
  | .refresh => 0
  | .finished reply =>
    if reply.started.request.continuation.isRefresh then answers + 1 else answers
  | _ => answers

/-- The reply is no answer, and so what it asks for is looked at. -/
def Reply.isRefusal (reply : Reply) : Bool :=
  !(reply.isAnswer || reply.exceededLimit)

namespace ProjectsService

variable {qt : QtText} {service : ProjectsService}

/-- The refreshes that have ended well. -/
def successes (service : ProjectsService) : Nat := service.calls.countP Call.isSuccess

def answers (service : ProjectsService) : Nat := service.calls.foldl Call.spend 0

def flying (service : ProjectsService) : Nat :=
  service.inFlight.countP fun started => started.request.continuation.isRefresh

/-- The part of the service that the interval depends on. -/
structure Meter where
  pollInterval : Int
  token : QByteArray
  countingRefreshRequests : Bool
  refreshRequestCount : Int
  openRefresh : Option Bool
  successes : Nat
  answers : Nat
  flying : Nat

def meter (service : ProjectsService) : Meter where
  pollInterval := service.pollInterval
  token := service.token
  countingRefreshRequests := service.countingRefreshRequests
  refreshRequestCount := service.refreshRequestCount
  openRefresh := service.openRefresh
  successes := service.successes
  answers := service.answers
  flying := service.flying

/-- While requests are counted, those of the refresh are among them. -/
def Meter.Tallied (meter : Meter) : Prop :=
  meter.countingRefreshRequests → (meter.answers + meter.flying : Int) ≤ meter.refreshRequestCount

/-- What a callback does: it may end the refresh, well or not. -/
structure Meter.Turn (ends fails : Bool) (before after : Meter) : Prop where
  interval : after.pollInterval =
    if ends then pollIntervalMs (before.token ≠ []) before.refreshRequestCount
    else before.pollInterval
  token : after.token = before.token
  counting : after.countingRefreshRequests =
    (before.countingRefreshRequests && !(ends || fails))
  carriesOn : (ends || fails) = false → after.openRefresh = before.openRefresh
  closes : (ends || fails) = true → before.openRefresh = some true →
    after.openRefresh = some false
  successes : after.successes = before.successes + if ends then 1 else 0
  answers : after.answers = before.answers
  tallied : before.Tallied → after.Tallied

/-- The callback ends the refresh with `failRefresh`: a page is missing or invalid, or the last
of the runs have come and not all are valid. -/
def failsRefresh (qt : QtText) (service : ProjectsService) : Continuation → Outcome → Bool
  | .repositories _ _, .success _ document =>
    !(document.isArray && document.toArray.all (validRepository · false))
  | .repositories _ _, .failure _ => true
  | .privateRepositories _ _, .success _ document =>
    !(document.isArray && document.toArray.all (validRepository · true))
  | .runs batch _, .success _ document =>
    service.pendingRunRequests = 1 &&
      !service.runBatches[batch]?.all fun shared => !shared.failed && validWorkflowRuns qt document
  | .runs _ _, .failure _ => service.pendingRunRequests = 1
  | _, _ => false

section Meter

theorem start_flying (qt : QtText) (pending : Request) (h : service.countingRefreshRequests) :
    ((service.start qt pending).flying : Int) + service.refreshRequestCount ≤
      service.flying + (service.start qt pending).refreshRequestCount := by
  simp only [start, flying, List.countP_append, List.countP_singleton, h, if_true]
  split <;> omega

theorem startLoop_flying (qt : QtText) (service : ProjectsService) (queue : List Request)
    (h : service.countingRefreshRequests) :
    ((service.startLoop qt queue).flying : Int) + service.refreshRequestCount ≤
      service.flying + (service.startLoop qt queue).refreshRequestCount := by
  induction queue generalizing service with
  | nil => exact le_refl _
  | cons pending queue ih =>
    rw [startLoop]
    split
    case isTrue =>
      have hstart := start_flying qt pending h
      have hrest := ih (service.start qt pending) h
      omega
    case isFalse => exact le_refl _

/-- Starting requests adds to what is in flight, and to the count. -/
theorem startRequests_meter (qt : QtText) (service : ProjectsService) : ∃ count flying,
    (service.startRequests qt).meter =
      { service.meter with refreshRequestCount := count, flying } ∧
    (service.countingRefreshRequests →
      (flying : Int) + service.refreshRequestCount ≤ service.flying + count) := by
  have ho : (service.startRequests qt).others = service.others := startRequests_others
  refine ⟨(service.startRequests qt).refreshRequestCount, (service.startRequests qt).flying, ?_,
    startLoop_flying qt service service.requests⟩
  have hmeter : { (service.startRequests qt).others.meter with
        refreshRequestCount := (service.startRequests qt).refreshRequestCount
        flying := (service.startRequests qt).flying } =
      { service.others.meter with
        refreshRequestCount := (service.startRequests qt).refreshRequestCount
        flying := (service.startRequests qt).flying } := by
    rw [ho]
  exact hmeter

theorem Meter.Turn.refl (meter : Meter) : meter.Turn false false meter where
  interval := rfl
  token := rfl
  counting := by simp
  carriesOn _ := rfl
  closes h := by cases h
  successes := rfl
  answers := rfl
  tallied h := h

theorem Meter.Turn.of_eq {before after : Meter} (h : after = before) :
    before.Turn false false after := h ▸ .refl before

/-- Requests after a callback has ended or carried on the refresh. -/
theorem Meter.Turn.then {ends fails : Bool} {before middle after : Meter}
    (h : before.Turn ends fails middle) (hq : middle.Turn false false after) :
    before.Turn ends fails after where
  interval := hq.interval.trans h.interval
  token := hq.token.trans h.token
  counting := by rw [hq.counting, h.counting]; simp
  carriesOn hc := (hq.carriesOn rfl).trans (h.carriesOn hc)
  closes hc ho := (hq.carriesOn rfl).trans (h.closes hc ho)
  successes := hq.successes.trans h.successes
  answers := hq.answers.trans h.answers
  tallied ht := hq.tallied (h.tallied ht)

theorem startRequests_turn (qt : QtText) (service : ProjectsService) :
    service.meter.Turn false false (service.startRequests qt).meter := by
  obtain ⟨count, flying, heq, hpaid⟩ := startRequests_meter qt service
  rw [heq]
  refine ⟨rfl, rfl, by simp, fun _ => rfl, fun h => by simp at h, rfl, rfl, fun ht hc => ?_⟩
  have htallied := ht hc
  have hstarted := hpaid hc
  simp only [meter] at htallied ⊢
  omega

theorem request_turn (qt : QtText) (service : ProjectsService) (pending : Request) :
    service.meter.Turn false false (service.request qt pending).meter :=
  startRequests_turn qt { service with requests := service.requests ++ [pending] }

theorem requests_turn (qt : QtText) (service : ProjectsService) {α : Type*} (f : α → Request)
    (xs : List α) :
    service.meter.Turn false false
      (xs.foldl (fun service x => service.request qt (f x)) service).meter := by
  induction xs generalizing service with
  | nil => exact .refl _
  | cons x xs ih => exact (request_turn qt service (f x)).then (ih _)

theorem loadRunners_turn (qt : QtText) (service : ProjectsService) :
    service.meter.Turn false false (service.loadRunners qt).meter := by
  have hreset (pending : Int) : { service.resetRunners with
      pendingRunnerRequests := pending }.meter = service.meter := by
    simp [meter, resetRunners, openRefresh, successes, answers, flying, Call.track,
      Call.isSuccess, Call.spend]
  unfold loadRunners
  dsimp only
  split
  · exact .of_eq (hreset service.resetRunners.pendingRunnerRequests)
  · have hrequests := requests_turn qt { service.resetRunners with
        pendingRunnerRequests := service.runnerUrls.length }
      (fun url => ⟨url, .runners service.runnersFailed.length⟩) service.runnerUrls
    rw [hreset] at hrequests
    exact hrequests

theorem loadSelectedDetails_turn (qt : QtText) (service : ProjectsService) :
    service.meter.Turn false false (service.loadSelectedDetails qt).meter := by
  unfold loadSelectedDetails
  split
  · exact .refl _
  case h_2 row _ =>
    exact (request_turn qt { service with
      history := row.detail.history.map historyRow } _).then (request_turn qt _ _)

theorem finishRefresh_turn (qt : QtText) (service : ProjectsService) (now : QDateTime) :
    service.meter.Turn true false (service.finishRefresh qt now).meter := by
  refine Meter.Turn.then ?_ (loadRunners_turn qt (service.refreshed now))
  refine ⟨rfl, rfl, (Bool.and_false _).symm, fun h => by simp at h, fun _ ho => ?_, ?_, ?_,
    fun _ hc => by cases hc⟩
  · simp only [meter, openRefresh] at ho
    simp [meter, openRefresh, refreshed, setState, ho, Call.track]
  · simp [meter, successes, refreshed, setState, Call.isSuccess]
  · simp [meter, answers, refreshed, setState, Call.spend]

theorem failRefresh_turn (service : ProjectsService) (diagnostic : QString) :
    service.meter.Turn false true (service.failRefresh diagnostic).meter := by
  refine ⟨rfl, rfl, (Bool.and_false _).symm, fun h => by simp at h, fun _ ho => ?_, ?_, ?_,
    fun _ hc => by cases hc⟩
  · simp only [meter, openRefresh] at ho
    simp [meter, openRefresh, failRefresh, setState, ho, Call.track]
  · simp [meter, successes, failRefresh, setState, Call.isSuccess]
  · simp [meter, answers, failRefresh, setState, Call.spend]

theorem loadRuns_turn (qt : QtText) (service : ProjectsService) (repositories : List Repository)
    (now : QDateTime) :
    service.meter.Turn repositories.isEmpty false (service.loadRuns qt repositories now).meter := by
  unfold loadRuns
  split
  case isTrue h =>
    rw [h]
    exact finishRefresh_turn qt { service with projects := [] } now
  case isFalse h =>
    rw [Bool.not_eq_true] at h
    rw [h]
    exact requests_turn qt { service with
      pendingRunRequests := repositories.length
      runBatches := service.runBatches ++ [{}] } _ _

theorem replaceProjects_turn (qt : QtText) (service : ProjectsService) (rows : List Row)
    (now : QDateTime) :
    service.meter.Turn true false (service.replaceProjects qt rows now).meter :=
  (finishRefresh_turn qt (service.showProjects rows) now).then (loadSelectedDetails_turn qt _)

theorem repositoriesSucceed_turn (qt : QtText) (service : ProjectsService) (page : Nat)
    (repositories : List Repository) (body : QByteArray) (document : QJsonValue)
    (now : QDateTime) :
    service.meter.Turn
      (service.endsRefresh qt (.repositories page repositories) (.success body document))
      (service.failsRefresh qt (.repositories page repositories) (.success body document))
      (service.repositoriesSucceed qt page repositories document now).meter := by
  unfold repositoriesSucceed
  dsimp only
  split
  case isTrue hvalid =>
    have hfails : service.failsRefresh qt (.repositories page repositories)
        (.success body document) = false := by
      simp [failsRefresh, hvalid]
    rw [hfails]
    split
    case isTrue hlength =>
      have hends : service.endsRefresh qt (.repositories page repositories)
          (.success body document) = false := by
        simp [endsRefresh, hlength]
      rw [hends]
      exact request_turn qt service _
    case isFalse hlength =>
      split
      case isTrue ha =>
        have hends : service.endsRefresh qt (.repositories page repositories)
            (.success body document) = false := by
          simp [endsRefresh, ha]
        rw [hends]
        exact request_turn qt service _
      case isFalse ha =>
        rw [endsRefresh_lastPage hvalid hlength ha]
        exact loadRuns_turn qt service _ now
  case isFalse hvalid =>
    have hends : service.endsRefresh qt (.repositories page repositories)
        (.success body document) = false := by
      simp [endsRefresh, Bool.eq_false_of_not_eq_true hvalid]
    have hfails : service.failsRefresh qt (.repositories page repositories)
        (.success body document) = true := by
      simp [failsRefresh, Bool.eq_false_of_not_eq_true hvalid]
    rw [hends, hfails]
    exact failRefresh_turn service _

theorem privateRepositoriesSucceed_turn (qt : QtText) (service : ProjectsService) (page : Nat)
    (accumulated : List Repository) (body : QByteArray) (document : QJsonValue)
    (now : QDateTime) :
    service.meter.Turn
      (service.endsRefresh qt (.privateRepositories page accumulated) (.success body document))
      (service.failsRefresh qt (.privateRepositories page accumulated) (.success body document))
      (service.privateRepositoriesSucceed qt page accumulated document now).meter := by
  unfold privateRepositoriesSucceed
  dsimp only
  split
  case isTrue hvalid =>
    have hfails : service.failsRefresh qt (.privateRepositories page accumulated)
        (.success body document) = false := by
      simp [failsRefresh, hvalid]
    rw [hfails]
    split
    case isTrue hlength =>
      have hends : service.endsRefresh qt (.privateRepositories page accumulated)
          (.success body document) = false := by
        simp [endsRefresh, hlength]
      rw [hends]
      exact request_turn qt service _
    case isFalse hlength =>
      rw [endsRefresh_lastPrivatePage hvalid hlength]
      exact loadRuns_turn qt service _ now
  case isFalse hvalid =>
    have hends : service.endsRefresh qt (.privateRepositories page accumulated)
        (.success body document) = false := by
      simp [endsRefresh, Bool.eq_false_of_not_eq_true hvalid]
    have hfails : service.failsRefresh qt (.privateRepositories page accumulated)
        (.success body document) = true := by
      simp [failsRefresh, Bool.eq_false_of_not_eq_true hvalid]
    rw [hends, hfails]
    exact failRefresh_turn service _

theorem runsSucceed_turn (qt : QtText) (service : ProjectsService) (batch : Nat)
    (repository : Repository) (body : QByteArray) (document : QJsonValue) (now : QDateTime) :
    service.meter.Turn
      (service.endsRefresh qt (.runs batch repository) (.success body document))
      (service.failsRefresh qt (.runs batch repository) (.success body document))
      (service.runsSucceed qt batch repository document now).meter := by
  unfold runsSucceed failsRefresh endsRefresh
  dsimp only
  generalize hupdate : service.updateBatch batch _ = updated
  have hmeter : updated.meter = service.meter := hupdate ▸ rfl
  have hpending : updated.pendingRunRequests = service.pendingRunRequests - 1 := hupdate ▸ rfl
  have hfailed : (updated.runBatches.getD batch {}).failed = _ :=
    hupdate ▸ updateBatch_failed fun _ => rfl
  rw [← hmeter]
  split
  case isTrue hzero =>
    have hone : service.pendingRunRequests = 1 := by omega
    split
    case isTrue hf =>
      rw [hfailed, Bool.not_eq_true'] at hf
      simpa [hone, hf] using failRefresh_turn updated _
    case isFalse hf =>
      rw [hfailed, Bool.not_eq_true, Bool.not_eq_false'] at hf
      simpa [hone, hf] using replaceProjects_turn qt updated _ now
  case isFalse hzero =>
    have hone : service.pendingRunRequests ≠ 1 := by omega
    simpa [hone] using Meter.Turn.refl updated.meter

theorem runsFail_turn (qt : QtText) (service : ProjectsService) (batch : Nat)
    (repository : Repository) (error : QString) :
    service.meter.Turn (service.endsRefresh qt (.runs batch repository) (.failure error))
      (service.failsRefresh qt (.runs batch repository) (.failure error))
      (service.runsFail batch error).meter := by
  unfold runsFail failsRefresh endsRefresh
  dsimp only
  generalize hupdate : service.updateBatch batch _ = updated
  have hmeter : updated.meter = service.meter := hupdate ▸ rfl
  have hpending : updated.pendingRunRequests = service.pendingRunRequests - 1 := hupdate ▸ rfl
  rw [← hmeter]
  split
  case isTrue hzero =>
    have hone : service.pendingRunRequests = 1 := by omega
    simpa [hone] using failRefresh_turn updated error
  case isFalse hzero =>
    have hone : service.pendingRunRequests ≠ 1 := by omega
    simpa [hone] using Meter.Turn.refl updated.meter

theorem deliver_meter_of_other (qt : QtText) (service : ProjectsService)
    (continuation : Continuation) (now : QDateTime) (outcome : Outcome)
    (h : continuation.isRefresh = false) :
    (service.deliver qt continuation now outcome).meter = service.meter := by
  obtain ⟨_, _, _, _, _, _, _, _, -, heq⟩ := deliver_frame_of_other qt service now outcome h
  rw [heq]
  rfl

theorem deliver_turn (qt : QtText) (service : ProjectsService) (continuation : Continuation)
    (now : QDateTime) (outcome : Outcome) :
    service.meter.Turn (service.endsRefresh qt continuation outcome)
      (service.failsRefresh qt continuation outcome)
      (service.deliver qt continuation now outcome).meter := by
  cases continuation with
  | repositories page repositories =>
    cases outcome with
    | success body document =>
      exact repositoriesSucceed_turn qt service page repositories body document now
    | failure error => exact failRefresh_turn service error
  | privateRepositories page accumulated =>
    cases outcome with
    | success body document =>
      exact privateRepositoriesSucceed_turn qt service page accumulated body document now
    | failure error => exact loadRuns_turn qt service accumulated now
  | runs batch repository =>
    cases outcome with
    | success body document =>
      exact runsSucceed_turn qt service batch repository body document now
    | failure error => exact runsFail_turn qt service batch repository error
  | runners batch =>
    rw [deliver_meter_of_other qt service (.runners batch) now outcome rfl]
    cases outcome <;> exact .refl _
  | jobs repository runId =>
    rw [deliver_meter_of_other qt service (.jobs repository runId) now outcome rfl]
    cases outcome <;> exact .refl _
  | artifacts repository runId =>
    rw [deliver_meter_of_other qt service (.artifacts repository runId) now outcome rfl]
    cases outcome <;> exact .refl _

end Meter

section Step

variable {index : Nat} {started : StartedRequest} {reply : Reply} {now : QDateTime} {e : Event}

theorem settle_pollInterval (qt : QtText) (index : Nat) (started : StartedRequest)
    (reply : Reply) (now : QDateTime) (h : 0 ≤ service.pollInterval) :
    (service.settle qt index started reply now).pollInterval =
      if reply.isRefusal then max service.pollInterval (rateLimitBackoffMs qt reply now)
      else service.pollInterval := by
  unfold settle
  dsimp only
  generalize service.outcomeOf qt (qt.urlText started.request.url) reply = outcome
  obtain ⟨etags, bodies, heq⟩ := remember_eq { service with
    activeRequests := service.activeRequests - 1
    inFlight := service.inFlight.eraseIdx index
    calls := service.calls ++ [Call.finished ⟨started, reply, outcome⟩] }
    (qt.urlText started.request.url) reply outcome
  have hbackoff := rateLimitBackoffMs_bounds qt reply now
  rw [heq]
  unfold backOff Reply.isRefusal
  dsimp only
  cases reply.isAnswer || reply.exceededLimit with
  | true => rfl
  | false =>
    simp only [Bool.false_or, decide_eq_true_eq, Bool.not_false, if_true]
    split
    case isTrue hnone => exact (max_eq_left (hnone.trans h)).symm
    case isFalse => rfl

theorem settle_meter (qt : QtText) (service : ProjectsService) (index : Nat)
    (started : StartedRequest) (reply : Reply) (now : QDateTime) :
    (service.settle qt index started reply now).meter = { service.meter with
      pollInterval := (service.settle qt index started reply now).pollInterval
      answers := (service.settle qt index started reply now).answers
      flying := (service.settle qt index started reply now).flying } := by
  obtain ⟨interval, etags, bodies, heq⟩ := settle_eq qt service index started reply now
  rw [heq]
  simp [meter, openRefresh, successes, Call.isSuccess]

/-- A request of the refresh that was in flight has been answered then. -/
theorem settle_answers (qt : QtText) (reply : Reply) (now : QDateTime)
    (hi : service.inFlight[index]? = some started) :
    (service.settle qt index started reply now).answers +
      (service.settle qt index started reply now).flying = service.answers + service.flying := by
  obtain ⟨interval, etags, bodies, heq⟩ := settle_eq qt service index started reply now
  obtain ⟨hlt, hget⟩ := List.getElem?_eq_some_iff.mp hi
  have hperm : service.inFlight.Perm (started :: service.inFlight.eraseIdx index) :=
    hget ▸ (List.getElem_cons_eraseIdx_perm hlt).symm
  have hflying := hperm.countP_eq fun started => started.request.continuation.isRefresh
  rw [heq]
  simp only [answers, flying, List.foldl_append, List.foldl_cons, List.foldl_nil, Call.spend]
  rw [hflying, List.countP_cons]
  split <;> omega

/-- What the event of a reply does to the meter once the bookkeeping is done. -/
theorem finished_turn (qt : QtText) (reply : Reply) (now : QDateTime)
    (hi : service.inFlight[index]? = some started) :
    (service.settle qt index started reply now).meter.Turn
      (service.endsRefresh qt started.request.continuation
        (service.outcomeOf qt (qt.urlText started.request.url) reply))
      (service.failsRefresh qt started.request.continuation
        (service.outcomeOf qt (qt.urlText started.request.url) reply))
      (service.finished qt index reply now).meter := by
  have hfails {continuation : Continuation} {outcome : Outcome} :
      (service.settle qt index started reply now).failsRefresh qt continuation outcome =
        service.failsRefresh qt continuation outcome := by
    obtain ⟨interval, etags, bodies, heq⟩ := settle_eq qt service index started reply now
    rw [heq]
    cases continuation <;> cases outcome <;> rfl
  have hturn := deliver_turn qt (service.settle qt index started reply now)
    started.request.continuation now (service.outcomeOf qt (qt.urlText started.request.url) reply)
  rw [endsRefresh_settle, hfails] at hturn
  rw [finished_of_some hi]
  exact hturn.then (startRequests_turn qt _)

/-- What the interval is set to, and what it is raised to. -/
inductive IntervalChange
  | backedOff : Int → IntervalChange
  | succeeded : Int → IntervalChange

def IntervalChange.apply (interval : Int) : IntervalChange → Int
  | .backedOff delay => max interval delay
  | .succeeded base => base

/-- The backoff that an event reports, and the refresh that it ends well. -/
def intervalChanges (qt : QtText) (service : ProjectsService) (e : Event) :
    List IntervalChange :=
  (match e with
    | .finished index reply now =>
      if (service.inFlight[index]?).isSome && reply.isRefusal then
        [.backedOff (rateLimitBackoffMs qt reply now)]
      else []
    | _ => []) ++
  if service.successes < (service.step qt e).successes then
    [.succeeded (pollIntervalMs service.authenticated service.refreshRequestCount)]
  else []

theorem refresh_meter (qt : QtText) (service : ProjectsService) :
    (service.refresh qt).pollInterval = service.pollInterval ∧
      (service.refresh qt).token = service.token ∧
      (service.refresh qt).successes = service.successes := by
  unfold refresh
  split
  · exact ⟨rfl, rfl, rfl⟩
  · have hturn := request_turn qt (setState { service with
      refreshRequestCount := 0
      countingRefreshRequests := true
      calls := service.calls ++ [Call.refresh] } .loading "")
      ⟨service.repositoriesUrl 1, .repositories 1 []⟩
    refine ⟨hturn.interval, hturn.token, hturn.successes.trans ?_⟩
    simp [meter, successes, setState, Call.isSuccess]

theorem selectProject_turn (qt : QtText) (service : ProjectsService) (index : Int) :
    service.meter.Turn false false (service.selectProject qt index).meter := by
  unfold selectProject
  split
  · exact .refl _
  · exact loadSelectedDetails_turn qt { service with
      selectedIndex := index
      selectedKey := ({ service with selectedIndex := index }.selectedRow.map Row.key).getD "" }

theorem step_interval (h : 0 ≤ service.pollInterval) (e : Event) :
    (service.step qt e).pollInterval =
      (service.intervalChanges qt e).foldl IntervalChange.apply service.pollInterval ∧
    (service.step qt e).token = service.token := by
  cases e with
  | refresh =>
    obtain ⟨hinterval, htoken, hsuccesses⟩ := refresh_meter qt service
    refine ⟨?_, htoken⟩
    simp only [intervalChanges, step, hsuccesses, lt_irrefl, if_false, List.append_nil,
      List.foldl_nil, hinterval]
  | selectProject index =>
    have hturn := selectProject_turn qt service index
    have hsuccesses : (service.selectProject qt index).successes = service.successes :=
      hturn.successes
    refine ⟨?_, hturn.token⟩
    simp only [intervalChanges, step, hsuccesses, lt_irrefl, if_false, List.append_nil,
      List.foldl_nil]
    exact hturn.interval
  | finished index reply now =>
    cases hi : service.inFlight[index]? with
    | none => simp [intervalChanges, step, finished_of_none hi, hi]
    | some started =>
      have hturn := finished_turn qt reply now hi
      have hsettled := settle_pollInterval qt index started reply now h
      have hmeter := settle_meter qt service index started reply now
      have htoken : (service.settle qt index started reply now).meter.token = service.token :=
        congrArg Meter.token hmeter
      have hcount : (service.settle qt index started reply now).meter.refreshRequestCount =
          service.refreshRequestCount :=
        congrArg Meter.refreshRequestCount hmeter
      have hbefore : (service.settle qt index started reply now).meter.successes =
          service.successes :=
        congrArg Meter.successes hmeter
      have hsuccesses : (service.finished qt index reply now).successes =
          service.successes + _ := hturn.successes.trans (by rw [hbefore])
      have hinterval : (service.finished qt index reply now).pollInterval = _ := hturn.interval
      refine ⟨?_, hturn.token.trans htoken⟩
      rw [htoken, hcount] at hinterval
      simp only [intervalChanges, step, hi, Option.isSome_some, Bool.true_and, hsuccesses]
      rw [hinterval]
      cases service.endsRefresh qt started.request.continuation
          (service.outcomeOf qt (qt.urlText started.request.url) reply) with
      | true =>
        rw [if_pos rfl, if_pos rfl, if_pos (Nat.lt_succ_self _), List.foldl_append]
        rfl
      | false =>
        simp only [Bool.false_eq_true, if_false, Nat.add_zero, lt_irrefl, List.append_nil]
        refine hsettled.trans ?_
        split <;> rfl

end Step

section Discipline

/-- The interval that was set last, and the backoffs since. -/
def Since (base : Int) (changes : List IntervalChange) (current : Int) (delays : List Int) : Prop :=
  changes = delays.map .backedOff ∧ current = base ∨
    ∃ earlier, changes = earlier ++ .succeeded current :: delays.map .backedOff

theorem exists_since (base : Int) (changes : List IntervalChange) : ∃ current delays,
    Since base changes current delays ∧
      changes.foldl IntervalChange.apply base = delays.foldl max current := by
  induction changes using List.reverseRecOn with
  | nil => exact ⟨base, [], .inl ⟨rfl, rfl⟩, rfl⟩
  | append_singleton changes change ih =>
    obtain ⟨current, delays, hsince, heq⟩ := ih
    rw [List.foldl_concat]
    cases change with
    | backedOff delay =>
      refine ⟨current, delays ++ [delay], ?_, ?_⟩
      · rcases hsince with ⟨rfl, rfl⟩ | ⟨earlier, rfl⟩
        · exact .inl ⟨by simp, rfl⟩
        · exact .inr ⟨earlier, by simp⟩
      · rw [heq, List.foldl_concat]
        rfl
    | succeeded interval => exact ⟨interval, [], .inr ⟨changes, rfl⟩, rfl⟩

/-- What holds of the interval itself. -/
structure Paced (token : QByteArray) (service : ProjectsService) : Prop where
  held : service.token = token
  lower : (if token ≠ [] then 60000 else 900000) ≤ service.pollInterval
  upper : service.pollInterval ≤ maximumInt

theorem Paced.nonneg {token : QByteArray} (h : service.Paced token) : 0 ≤ service.pollInterval := by
  have hlower := h.lower
  split at hlower <;> omega

theorem initial_paced (owner : QString) (token : QByteArray) :
    (initial owner token).Paced token := by
  have hbounds := pollIntervalMs_bounds (token ≠ []) 0
  simp only [decide_eq_true_eq] at hbounds
  exact ⟨rfl, hbounds.1, hbounds.2⟩

theorem mem_intervalChanges {change : IntervalChange} {e : Event}
    (h : change ∈ service.intervalChanges qt e) :
    (∃ index reply now, e = .finished index reply now ∧
        change = .backedOff (rateLimitBackoffMs qt reply now)) ∨
      service.successes < (service.step qt e).successes ∧
        change = .succeeded (pollIntervalMs service.authenticated service.refreshRequestCount) := by
  rcases List.mem_append.mp h with h | h
  · split at h
    case h_1 index reply now _ =>
      split at h
      case isTrue => exact .inl ⟨index, reply, now, rfl, List.mem_singleton.mp h⟩
      case isFalse => cases h
    case h_2 => cases h
  · split at h
    case isTrue hsuccess => exact .inr ⟨hsuccess, List.mem_singleton.mp h⟩
    case isFalse => cases h

theorem Paced.step {token : QByteArray} (h : service.Paced token) (e : Event) :
    (service.step qt e).Paced token := by
  obtain ⟨hinterval, htoken⟩ := step_interval h.nonneg e
  have hbounds : (if token ≠ [] then 60000 else 900000) ≤
        (service.intervalChanges qt e).foldl IntervalChange.apply service.pollInterval ∧
      (service.intervalChanges qt e).foldl IntervalChange.apply service.pollInterval ≤
        maximumInt := by
    refine List.foldlRecOn (motive := fun interval =>
      (if token ≠ [] then 60000 else 900000) ≤ interval ∧ interval ≤ maximumInt) _ _
      ⟨h.lower, h.upper⟩ fun interval hi change hc => ?_
    rcases mem_intervalChanges hc with ⟨index, reply, now, -, rfl⟩ | ⟨-, rfl⟩
    · have hbackoff := rateLimitBackoffMs_bounds qt reply now
      exact ⟨le_max_of_le_left hi.1, max_le hi.2 (hbackoff.2.trans (by decide))⟩
    · have hpoll := pollIntervalMs_bounds service.authenticated service.refreshRequestCount
      rw [authenticated, h.held] at hpoll
      simp only [decide_eq_true_eq] at hpoll
      rw [authenticated, h.held]
      exact hpoll
  exact ⟨htoken.trans h.held, hinterval ▸ hbounds.1, hinterval ▸ hbounds.2⟩

/-- The operations of an event on the interval do not overflow. -/
def Exact (qt : QtText) (service : ProjectsService) : Event → Prop
  | .finished _ reply now =>
    checkedBackoffMs qt reply now = some (rateLimitBackoffMs qt reply now) ∧
      checkedPollIntervalMs service.authenticated service.refreshRequestCount =
        some (pollIntervalMs service.authenticated service.refreshRequestCount)
  | _ => True

/-- The discipline of the interval along a run from the constructor. -/
structure Disciplined (qt : QtText) (owner : QString) (token : QByteArray) (es : List Event) :
    Prop where
  exact : Throughout (step qt) (Exact qt) (initial owner token) es
  lower : (if token ≠ [] then 60000 else 900000) ≤
    (run (step qt) (initial owner token) es).pollInterval
  upper : (run (step qt) (initial owner token) es).pollInterval ≤ 2147483647
  /-- Between successes it does not decrease. -/
  raised : Throughout (step qt) (fun service e =>
    (service.step qt e).successes = service.successes →
      service.pollInterval ≤ (service.step qt e).pollInterval) (initial owner token) es
  maximum : ∃ current delays,
    Since (pollIntervalMs (token ≠ []) 0)
      (emitted (step qt) (intervalChanges qt) (initial owner token) es) current delays ∧
    (run (step qt) (initial owner token) es).pollInterval = delays.foldl max current
  /-- A refused request is granted its delay, in milliseconds. -/
  granted : ∀ index reply now, Event.finished index reply now ∈ es →
    ∀ seconds ∈ requestedDelays qt reply now,
      seconds * 1000 ≤ rateLimitBackoffMs qt reply now ∨
        rateLimitBackoffMs qt reply now = 2147483000

theorem run_interval {token : QByteArray} (h : service.Paced token) (es : List Event) :
    (RpiDashboard.run (step qt) service es).pollInterval =
      (emitted (step qt) (intervalChanges qt) service es).foldl IntervalChange.apply
        service.pollInterval := by
  induction es generalizing service with
  | nil => rfl
  | cons e es ih =>
    rw [run_cons, ih (h.step e), emitted, List.foldl_append, (step_interval h.nonneg e).1]

theorem foldl_backedOff_le {changes : List IntervalChange} {interval : Int}
    (h : ∀ change ∈ changes, ∃ delay, change = .backedOff delay) :
    interval ≤ changes.foldl IntervalChange.apply interval := by
  induction changes generalizing interval with
  | nil => exact le_refl _
  | cons change changes ih =>
    obtain ⟨delay, rfl⟩ := h change List.mem_cons_self
    exact (le_max_left interval delay).trans
      (ih fun other ho => h other (List.mem_cons_of_mem _ ho))

theorem interval_disciplined (owner : QString) (token : QByteArray) {es : List Event}
    (hepoch : ∀ index reply now, Event.finished index reply now ∈ es →
      0 ≤ now.toMSecsSinceEpoch / 1000)
    (hcount : Throughout (step qt) (fun service _ => service.refreshRequestCount < 2 ^ 31)
      (initial owner token) es) : Disciplined qt owner token es := by
  have hpaced : (run (step qt) (initial owner token) es).Paced token :=
    run_invariant (initial_paced owner token) fun _ e _ hs => hs.step e
  refine ⟨?_, hpaced.lower, hpaced.upper, ?_, ?_, fun index reply now _ seconds hs =>
    requested_le_backoff hs⟩
  · have hnow : Throughout (step qt) (fun _ e => ∀ index reply now, e = .finished index reply now →
        0 ≤ now.toMSecsSinceEpoch / 1000) (initial owner token) es :=
      throughout_of_forall fun _ _ he index reply now heq => hepoch index reply now (heq ▸ he)
    refine (hnow.and hcount).imp trivial (fun _ _ _ _ => trivial : ∀ _ _, _ → True → True)
      fun service e hs _ => ?_
    cases e with
    | finished index reply now =>
      exact ⟨checkedBackoffMs_eq qt reply (hs.1 index reply now rfl),
        checkedPollIntervalMs_eq service.authenticated hs.2⟩
    | refresh => trivial
    | selectProject index => trivial
  · refine (throughout_of_forall fun _ _ _ => trivial : Throughout (step qt) (fun _ _ => True)
      (initial owner token) es).imp (initial_paced owner token) (fun s e _ hs => hs.step e)
      fun s e _ hs hsuccesses => ?_
    rw [(step_interval hs.nonneg e).1]
    refine foldl_backedOff_le fun change hc => ?_
    rcases mem_intervalChanges hc with ⟨index, reply, now, -, rfl⟩ | ⟨hlt, -⟩
    · exact ⟨_, rfl⟩
    · exact absurd hsuccesses hlt.ne'
  · obtain ⟨current, delays, hsince, heq⟩ := exists_since (pollIntervalMs (token ≠ []) 0)
      (emitted (step qt) (intervalChanges qt) (initial owner token) es)
    exact ⟨current, delays, hsince, (run_interval (initial_paced owner token) es).trans heq⟩

def hourText : QtText := { sampleText with
  toLongLong := fun bytes => if bytes = toUtf8 "3600" then some 3600 else none }

/-- The first page is refused for an hour. -/
def throttled : List Event :=
  [.refresh, .finished 0 { error := true, status := 429, retryAfter := toUtf8 "3600" } sampleTime]

theorem interval_disciplined_sample :
    Disciplined hourText "o" [] throttled ∧
      (run (step hourText) (initial "o" []) throttled).pollInterval = 3600000 := by
  refine ⟨interval_disciplined "o" [] (fun index reply now h => ?_) (by decide +kernel),
    by decide +kernel⟩
  rcases List.mem_cons.mp h with h | h
  · cases h
  · cases List.mem_singleton.mp h
    decide +kernel

end Discipline

end ProjectsService

end RpiDashboard.Projects
