import RpiDashboard.Projects.DiscoveryLaws
import RpiDashboard.Projects.IntervalLaws

/-! Laws of the request budget without a token: the requests of a refresh against the interval
that it ends with. -/

namespace RpiDashboard.Projects

open Qt

namespace ProjectsService

variable {qt : QtText} {service : ProjectsService}

/-- The requests for discovery and for runs that this refresh has started: they have been
answered, or are in flight. -/
def spent (service : ProjectsService) : Nat := service.answers + service.flying

/-- At the interval in effect, refreshes like this one stay within the requests of an hour. -/
def WithinBudget (service : ProjectsService) : Prop :=
  (service.spent : Int) * 3600000 ≤ anonymousRequestBudgetPerHour * service.pollInterval ∨
    service.pollInterval = maximumInt

/-- The event ends the refresh, well or not. -/
def Ends (qt : QtText) (service : ProjectsService) (e : Event) : Prop :=
  service.openRefresh = some true ∧ (service.step qt e).openRefresh = some false

/-- The interval once the refused reply has been looked at. -/
def backedOff (qt : QtText) (service : ProjectsService) (reply : Reply) (now : QDateTime) : Int :=
  if reply.isRefusal then max service.pollInterval (rateLimitBackoffMs qt reply now)
  else service.pollInterval

/-- A reply that ends the refresh with `failRefresh` finds an interval, or asks for one, that
pays for the requests so far. -/
def Affordable (qt : QtText) (service : ProjectsService) : Event → Prop
  | .finished index reply now => ∀ started ∈ service.inFlight[index]?,
    service.failsRefresh qt started.request.continuation
        (service.outcomeOf qt (qt.urlText started.request.url) reply) = true →
      (service.spent : Int) * 3600000 ≤
          anonymousRequestBudgetPerHour * service.backedOff qt reply now ∨
        service.backedOff qt reply now = maximumInt
  | _ => True

/-- The interval that `finishRefresh` sets pays for the requests it counts. -/
theorem pollIntervalMs_pays {n : Nat} (requestCount : Int) (h : n ≤ requestCount) :
    (n : Int) * 3600000 ≤ anonymousRequestBudgetPerHour * pollIntervalMs false requestCount ∨
      pollIntervalMs false requestCount = maximumInt := by
  simp only [pollIntervalMs, anonymousMinimumPollMs, anonymousRequestBudgetPerHour, maximumInt,
    Bool.false_eq_true, if_false]
  omega

theorem mem_refreshing {started : StartedRequest} (hs : started ∈ service.inFlight)
    (hc : started.request.continuation.isRefresh) :
    started.request.continuation ∈ service.refreshing :=
  List.mem_filter.mpr
    ⟨List.mem_map_of_mem (List.mem_append_left _ (List.mem_map_of_mem hs)), hc⟩

theorem flying_eq_zero (h : service.refreshing = []) : service.flying = 0 :=
  List.countP_eq_zero.mpr fun _ hs hc => List.not_mem_nil (h ▸ mem_refreshing hs hc)

section Ending

variable {continuation : Continuation} {outcome : Outcome}

theorem isRefresh_of_ends (h : service.endsRefresh qt continuation outcome) :
    continuation.isRefresh := by
  cases continuation with
  | repositories => rfl
  | privateRepositories => rfl
  | runs => rfl
  | runners => cases h
  | jobs => cases h
  | artifacts => cases h

theorem isRefresh_of_fails (h : service.failsRefresh qt continuation outcome) :
    continuation.isRefresh := by
  cases continuation with
  | repositories => rfl
  | privateRepositories => rfl
  | runs => rfl
  | runners => cases h
  | jobs => cases h
  | artifacts => cases h

/-- A callback that fails the refresh does not finish it. -/
theorem not_ends_of_fails (h : service.failsRefresh qt continuation outcome) :
    service.endsRefresh qt continuation outcome = false := by
  cases continuation with
  | repositories page repositories =>
    cases outcome with
    | success body document =>
      simp only [failsRefresh, Bool.not_eq_true'] at h
      simp only [endsRefresh, h, Bool.false_and]
    | failure error => rfl
  | privateRepositories page accumulated =>
    cases outcome with
    | success body document =>
      simp only [failsRefresh, Bool.not_eq_true'] at h
      simp only [endsRefresh, h, Bool.false_and]
    | failure error => cases h
  | runs batch repository =>
    cases outcome with
    | success body document =>
      simp only [failsRefresh, Bool.and_eq_true, Bool.not_eq_true'] at h
      simp only [endsRefresh, h.2, Bool.and_false]
    | failure error => rfl
  | runners => rfl
  | jobs => rfl
  | artifacts => rfl

/-- Runs fail the refresh only when they are the last. -/
theorem pending_of_fails {batch : Nat} {repository : Repository}
    (h : service.failsRefresh qt (.runs batch repository) outcome) :
    service.pendingRunRequests = 1 := by
  cases outcome with
  | success body document =>
    simp only [failsRefresh, Bool.and_eq_true, decide_eq_true_eq] at h
    exact h.1
  | failure error =>
    simp only [failsRefresh, decide_eq_true_eq] at h
    exact h

variable {index : Nat} {started : StartedRequest} {reply : Reply} {now : QDateTime}

/-- A reply to a request of the refresh comes while the refresh is open. -/
theorem Stage.openRefresh_of_inFlight (h : service.Stage)
    (hi : service.inFlight[index]? = some started)
    (hc : started.request.continuation.isRefresh) : service.openRefresh = some true := by
  have hmem := mem_refreshing (List.mem_of_getElem? hi) hc
  cases h with
  | idle hr => cases hr ▸ hmem
  | discovery _ _ _ _ ho => exact ho
  | running _ _ _ ho => exact ho

/-- The reply that fails the refresh is to the last request of it. -/
theorem Stage.refreshing_of_fails (h : service.Stage)
    (hi : service.inFlight[index]? = some started)
    (hf : service.failsRefresh qt started.request.continuation outcome) :
    (service.settle qt index started reply now).refreshing = [] := by
  have hperm : service.refreshing.Perm
      (_ ++ (service.settle qt index started reply now).refreshing) := settle_refreshing hi
  rw [List.filter_singleton, isRefresh_of_fails hf, cond_true, List.singleton_append] at hperm
  have hlength := hperm.length_eq
  cases h with
  | idle hr => cases (hr ▸ hperm).length_eq
  | discovery continuation hr => exact (by simpa [hr] using hperm : _ ∧ _ = []).2
  | running hr hall hp =>
    obtain ⟨repository, heq⟩ := hall _ (hperm.mem_iff.mpr List.mem_cons_self)
    rw [heq] at hf
    have hone := pending_of_fails hf
    rw [hp, hlength, List.length_cons] at hone
    exact List.length_eq_zero_iff.mp (by omega)

end Ending

/-- While a refresh is open its requests are counted. -/
structure Meter.Counts (meter : Meter) : Prop where
  counting : meter.openRefresh = some true → meter.countingRefreshRequests
  tallied : meter.Tallied

/-- What holds between events when there is no token. -/
structure Budgeted (service : ProjectsService) : Prop where
  stage : service.Stage
  filled : service.Filled
  paced : service.Paced []
  counts : service.meter.Counts

section Step

variable {index : Nat} {started : StartedRequest} {reply : Reply} {now : QDateTime}
  {outcome : Outcome}

theorem initial_budgeted (owner : QString) : (initial owner []).Budgeted :=
  ⟨initial_stage owner [], initial_filled owner [], initial_paced owner [],
    (fun h => nomatch h), fun h => nomatch h⟩

/-- Counting goes on for as long as the refresh does. -/
theorem Meter.Turn.counts {ends fails : Bool} {before after : Meter}
    (h : before.Turn ends fails after)
    (hopen : (ends || fails) = true → before.openRefresh = some true) (hc : before.Counts) :
    after.Counts := by
  refine ⟨fun ho => ?_, h.tallied hc.tallied⟩
  cases hended : ends || fails with
  | false =>
    rw [h.counting, hended, hc.counting (by rwa [← h.carriesOn hended])]
    rfl
  | true =>
    rw [h.closes hended (hopen hended)] at ho
    cases ho

theorem settle_counts (qt : QtText) (reply : Reply) (now : QDateTime)
    (hi : service.inFlight[index]? = some started) (h : service.meter.Counts) :
    (service.settle qt index started reply now).meter.Counts := by
  have hanswers := settle_answers qt reply now hi
  rw [settle_meter]
  refine ⟨h.counting, fun hc => ?_⟩
  have htallied := h.tallied hc
  simp only [meter] at htallied ⊢
  omega

/-- The requests of a refresh are counted from none. -/
theorem refresh_turn (qt : QtText) (hs : service.Stage) (hf : service.Filled) :
    service.refresh qt = service ∨ ∃ begun : ProjectsService,
      begun.openRefresh = some true ∧ begun.meter.Counts ∧
        begun.meter.Turn false false (service.refresh qt).meter := by
  unfold refresh
  split
  case isTrue => exact .inl rfl
  case isFalse hguard =>
    obtain ⟨hr, -, ho⟩ := hs.idle_of_unguarded hf hguard
    refine .inr ⟨setState { service with
      refreshRequestCount := 0
      countingRefreshRequests := true
      calls := service.calls ++ [Call.refresh] } .loading "", ?_, ⟨fun _ => rfl, fun _ => ?_⟩,
      request_turn qt _ _⟩
    · rw [openRefresh] at ho
      simp [openRefresh, setState, ho, Call.track]
    · have hflying := flying_eq_zero hr
      rw [flying] at hflying
      simp [meter, setState, answers, flying, hflying, Call.spend]

/-- The refresh that a reply ends is open. -/
theorem Stage.open_of_ended (h : service.Stage) (hi : service.inFlight[index]? = some started)
    (hended : (service.endsRefresh qt started.request.continuation outcome ||
      service.failsRefresh qt started.request.continuation outcome) = true) :
    service.openRefresh = some true := by
  refine h.openRefresh_of_inFlight hi ?_
  rcases Bool.or_eq_true_iff.mp hended with hends | hfails
  · exact isRefresh_of_ends hends
  · exact isRefresh_of_fails hfails

theorem settle_openRefresh : (service.settle qt index started reply now).meter.openRefresh =
    service.openRefresh := by
  rw [settle_meter]
  rfl

theorem Budgeted.counts_step (h : service.Budgeted) (e : Event) :
    (service.step qt e).meter.Counts := by
  cases e with
  | refresh =>
    rcases refresh_turn qt h.stage h.filled with heq | ⟨begun, -, hcounts, hturn⟩
    · rw [ProjectsService.step, heq]
      exact h.counts
    · exact hturn.counts (fun hf => absurd hf Bool.false_ne_true) hcounts
  | selectProject index =>
    exact (selectProject_turn qt service index).counts (fun hf => absurd hf Bool.false_ne_true) h.counts
  | finished index reply now =>
    cases hi : service.inFlight[index]? with
    | none =>
      rw [ProjectsService.step, finished_of_none hi]
      exact h.counts
    | some started =>
      refine (finished_turn qt reply now hi).counts (fun hended => ?_) (settle_counts qt reply now hi h.counts)
      exact settle_openRefresh.trans (h.stage.open_of_ended hi hended)

theorem Budgeted.step (h : service.Budgeted) (e : Event) : (service.step qt e).Budgeted :=
  ⟨h.stage.step h.filled e, h.filled.step e, h.paced.step e, h.counts_step e⟩

/-- Only a reply ends a refresh. -/
theorem Budgeted.reply_of_ends (h : service.Budgeted) {e : Event} (hended : service.Ends qt e) :
    ∃ index reply now started, e = .finished index reply now ∧
      service.inFlight[index]? = some started ∧
      (service.endsRefresh qt started.request.continuation
          (service.outcomeOf qt (qt.urlText started.request.url) reply) ||
        service.failsRefresh qt started.request.continuation
          (service.outcomeOf qt (qt.urlText started.request.url) reply)) = true := by
  obtain ⟨ho, hclosed⟩ := hended
  cases e with
  | refresh =>
    rcases refresh_turn qt h.stage h.filled with heq | ⟨begun, hbegun, -, hturn⟩
    · rw [ProjectsService.step, heq, ho] at hclosed
      cases hclosed
    · have hafter : (service.refresh qt).openRefresh = begun.openRefresh := hturn.carriesOn rfl
      rw [ProjectsService.step, hafter, hbegun] at hclosed
      cases hclosed
  | selectProject index =>
    have hafter : (service.selectProject qt index).openRefresh = service.openRefresh :=
      (selectProject_turn qt service index).carriesOn rfl
    rw [ProjectsService.step, hafter, ho] at hclosed
    cases hclosed
  | finished index reply now =>
    cases hi : service.inFlight[index]? with
    | none =>
      rw [ProjectsService.step, finished_of_none hi, ho] at hclosed
      cases hclosed
    | some started =>
      refine ⟨index, reply, now, started, rfl, hi, ?_⟩
      by_contra hn
      have hafter : (service.finished qt index reply now).openRefresh = _ :=
        (finished_turn qt reply now hi).carriesOn (Bool.eq_false_of_not_eq_true hn)
      rw [ProjectsService.step, hafter, settle_openRefresh, ho] at hclosed
      cases hclosed

/-- The requests of a refresh that has ended have all been answered. -/
theorem Stage.spent_of_closed (h : service.Stage) (ho : service.openRefresh = some false) :
    service.spent = service.answers := by
  have hr : service.refreshing = [] := by
    cases h with
    | idle hr => exact hr
    | discovery _ _ _ _ hopen => rw [hopen] at ho; cases ho
    | running _ _ _ hopen => rw [hopen] at ho; cases ho
  rw [spent, flying_eq_zero hr, Nat.add_zero]

/-- With the reply that ends it, all requests of the refresh have been answered. -/
theorem Budgeted.closed (h : service.Budgeted) (hi : service.inFlight[index]? = some started)
    (hended : (service.endsRefresh qt started.request.continuation
          (service.outcomeOf qt (qt.urlText started.request.url) reply) ||
        service.failsRefresh qt started.request.continuation
          (service.outcomeOf qt (qt.urlText started.request.url) reply)) = true) :
    (service.finished qt index reply now).openRefresh = some false ∧
      (service.finished qt index reply now).spent =
        (service.settle qt index started reply now).answers := by
  have hturn := finished_turn qt reply now hi
  have hclosed : (service.finished qt index reply now).openRefresh = some false :=
    hturn.closes hended (settle_openRefresh.trans (h.stage.open_of_ended hi hended))
  refine ⟨hclosed, ?_⟩
  have hafter : (service.finished qt index reply now).Stage :=
    h.stage.step h.filled (.finished index reply now)
  exact (hafter.spent_of_closed hclosed).trans hturn.answers

/-- `finishRefresh` sets an interval that pays for the refresh. -/
theorem Budgeted.withinBudget_of_ends (h : service.Budgeted)
    (hi : service.inFlight[index]? = some started)
    (hends : service.endsRefresh qt started.request.continuation
      (service.outcomeOf qt (qt.urlText started.request.url) reply) = true) :
    (service.finished qt index reply now).WithinBudget := by
  have hended : (_ || service.failsRefresh qt started.request.continuation
      (service.outcomeOf qt (qt.urlText started.request.url) reply)) = true :=
    Bool.or_eq_true_iff.mpr (Or.inl hends)
  have hinterval := (finished_turn qt reply now hi).interval
  have hcounts := settle_counts qt reply now hi h.counts
  have hpaid := hcounts.tallied
    (hcounts.counting (settle_openRefresh.trans (h.stage.open_of_ended hi hended)))
  have htoken : (service.settle qt index started reply now).meter.token = [] := by
    rw [settle_meter]
    exact h.paced.held
  rw [hends, if_pos rfl, htoken] at hinterval
  rw [WithinBudget, (h.closed hi hended).2]
  rw [show (service.finished qt index reply now).pollInterval = _ from hinterval]
  refine pollIntervalMs_pays _ ?_
  simp only [meter] at hpaid ⊢
  omega

theorem Budgeted.withinBudget_iff_of_fails (h : service.Budgeted)
    (hi : service.inFlight[index]? = some started)
    (hfails : service.failsRefresh qt started.request.continuation
      (service.outcomeOf qt (qt.urlText started.request.url) reply) = true) :
    (service.finished qt index reply now).WithinBudget ↔
      (service.spent : Int) * 3600000 ≤
          anonymousRequestBudgetPerHour * service.backedOff qt reply now ∨
        service.backedOff qt reply now = maximumInt := by
  have hended : (service.endsRefresh qt started.request.continuation
      (service.outcomeOf qt (qt.urlText started.request.url) reply) || _) = true :=
    Bool.or_eq_true_iff.mpr (Or.inr hfails)
  have hinterval := (finished_turn qt reply now hi).interval
  rw [not_ends_of_fails hfails, if_neg Bool.false_ne_true] at hinterval
  have hsettled := settle_pollInterval qt index started reply now h.paced.nonneg
  have hanswers := settle_answers qt reply now hi
  rw [flying_eq_zero (h.stage.refreshing_of_fails hi hfails), Nat.add_zero] at hanswers
  rw [WithinBudget, (h.closed hi hended).2, hanswers,
    show (service.finished qt index reply now).pollInterval = service.backedOff qt reply now from
      hinterval.trans hsettled]
  rfl

theorem Budgeted.ends_iff (h : service.Budgeted) (e : Event) :
    (service.Ends qt e → (service.step qt e).WithinBudget) ↔ service.Affordable qt e := by
  constructor
  · intro hbudget
    cases e with
    | refresh => trivial
    | selectProject index => trivial
    | finished index reply now =>
      intro started hs hfails
      have hi : service.inFlight[index]? = some started := hs
      refine (h.withinBudget_iff_of_fails hi hfails).mp (hbudget ?_)
      have hended : (service.endsRefresh qt started.request.continuation
          (service.outcomeOf qt (qt.urlText started.request.url) reply) || _) = true :=
        Bool.or_eq_true_iff.mpr (Or.inr hfails)
      exact ⟨h.stage.open_of_ended hi hended, (h.closed hi hended).1⟩
  · intro haffordable hended
    obtain ⟨index, reply, now, started, rfl, hi, hor⟩ := h.reply_of_ends hended
    rcases Bool.or_eq_true_iff.mp hor with hends | hfails
    · exact h.withinBudget_of_ends hi hends
    · exact (h.withinBudget_iff_of_fails hi hfails).mpr (haffordable started hi hfails)

end Step

/-- Twelve requests are within the budget at every interval there is. -/
theorem Budgeted.affordable_of_spent_le (h : service.Budgeted) (hspent : service.spent ≤ 12)
    (e : Event) : service.Affordable qt e := by
  cases e with
  | refresh => trivial
  | selectProject index => trivial
  | finished index reply now =>
    intro started _ _
    have hlower : 900000 ≤ service.backedOff qt reply now := by
      have hpaced : 900000 ≤ service.pollInterval := h.paced.lower
      unfold backedOff
      split <;> omega
    left
    simp only [anonymousRequestBudgetPerHour]
    omega

/-- Without a token, every refresh of a run stays within the requests of an hour exactly when
those do that end with `failRefresh`: only `finishRefresh` sets the interval by the requests. -/
theorem budget_kept_iff (qt : QtText) (owner : QString) (es : List Event) :
    Throughout (step qt) (fun service e => service.Ends qt e → (service.step qt e).WithinBudget)
        (initial owner []) es ↔
      Throughout (step qt) (Affordable qt) (initial owner []) es :=
  ⟨fun h => h.imp (initial_budgeted owner) (fun _ e _ hs => hs.step e)
      fun _ e hbudget hs => (hs.ends_iff e).mp hbudget,
    fun h => h.imp (initial_budgeted owner) (fun _ e _ hs => hs.step e)
      fun _ e haffordable hs => (hs.ends_iff e).mpr haffordable⟩

section Sample

instance (service : ProjectsService) : Decidable service.WithinBudget :=
  inferInstanceAs (Decidable (_ ∨ _))

instance (qt : QtText) (service : ProjectsService) (e : Event) : Decidable (service.Ends qt e) :=
  inferInstanceAs (Decidable (_ ∧ _))

def crowd : List (QString × Bool) :=
  ["a", "b", "c", "d", "e", "f", "g", "h", "i", "j", "k", "l"].map (·, false)

def crowdText : QtText := { sampleText with
  fromJson := fun body =>
    if body = pageBody crowd then
      some (.array (crowd.map fun entry => listed entry.1 entry.2))
    else none }

/-- The runs of twelve repositories are asked for, and the server has none of them. -/
def unavailableRuns : List Event :=
  [.refresh, answer 0 (pageBody crowd) []] ++
    List.replicate 11 (.finished 0 { error := true, status := 500 } sampleTime)

theorem failed_refresh_beyond_budget :
    ¬ Throughout (step crowdText) (fun service e =>
        service.Ends crowdText e → (service.step crowdText e).WithinBudget) (initial "o" [])
      (unavailableRuns ++ [.finished 0 { error := true, status := 500 } sampleTime]) := by
  rw [throughout_concat]
  refine fun h => absurd h.2 ?_
  decide +kernel

end Sample

end ProjectsService

end RpiDashboard.Projects
