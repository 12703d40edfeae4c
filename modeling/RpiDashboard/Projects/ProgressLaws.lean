import Mathlib.Algebra.Order.BigOperators.Group.List
import Mathlib.Algebra.Order.Ring.Nat
import Mathlib.Data.Prod.Lex
import RpiDashboard.Data.Progress
import RpiDashboard.Projects.CacheLaws
import RpiDashboard.Projects.RefreshLaws

/-! Every refresh ends, if the network answers and the listings of repositories end. -/

namespace RpiDashboard.Projects

open Qt

/-- The page of a listing that another one follows. -/
def Outcome.isFull : Outcome → Bool
  | .success _ document => document.toArray.length = 100
  | .failure _ => false

namespace Continuation

def page : Continuation → Nat
  | .repositories page _ => page
  | .privateRepositories page _ => page
  | _ => 0

/-- More than the pages that are listed after one, if the listings end by a page. -/
def remaining (pages : Nat) : Continuation → Nat
  | .repositories page _ => pages - page + pages + 3
  | .privateRepositories page _ => pages - page + 1
  | _ => 0

theorem remaining_pos {pages : Nat} {continuation : Continuation} (h : continuation.isDiscovery) :
    0 < continuation.remaining pages := by
  cases continuation with
  | repositories page known => exact Nat.succ_pos _
  | privateRepositories page known => exact Nat.succ_pos _
  | runs batch repository => cases h
  | runners batch => cases h
  | jobs repository runId => cases h
  | artifacts repository runId => cases h

theorem remaining_runs {pages batch : Nat} {continuations : List Continuation}
    (h : ∀ continuation ∈ continuations, ∃ repository, continuation = .runs batch repository) :
    (continuations.map (remaining pages)).sum = 0 := by
  refine List.sum_eq_zero (List.forall_mem_map.mpr fun continuation hmem => ?_)
  obtain ⟨repository, rfl⟩ := h continuation hmem
  rfl

end Continuation

namespace ProjectsService

variable {qt : QtText} {service : ProjectsService} {pages : Nat}

/-- The event is no full page of a listing from this page on. -/
def EndsBy (qt : QtText) (pages : Nat) (service : ProjectsService) : Event → Prop
  | .finished index reply _ => ∀ started, service.inFlight[index]? = some started →
      started.request.continuation.isDiscovery → pages ≤ started.request.continuation.page →
      (service.outcomeOf qt (qt.urlText started.request.url) reply).isFull = false
  | _ => True

/-- A reply to the oldest request in flight. -/
def Event.isOldest : Event → Bool
  | .finished index _ _ => index = 0
  | _ => false

def remaining (pages : Nat) (service : ProjectsService) : Nat :=
  (service.refreshing.map (Continuation.remaining pages)).sum

/-- How many unfinished requests were made before those of the refresh. -/
def ahead (service : ProjectsService) : Nat :=
  service.unfinished.findIdx fun pending => pending.continuation.isRefresh

/-- What is left to do of a refresh: pages, then replies, then requests from before. -/
def work (pages : Nat) (service : ProjectsService) : Nat ×ₗ Nat ×ₗ Nat :=
  toLex (service.remaining pages, toLex (service.refreshing.length, service.ahead))

/-- No refresh is said to be in progress when its requests have finished. -/
def Begun (service : ProjectsService) : Prop := service.refreshing = [] → service.state ≠ .loading

theorem Begun.congr {other : ProjectsService} (h : service.Begun)
    (hr : service.refreshing.Perm other.refreshing) (hs : other.state = service.state) :
    other.Begun := fun hnil => hs ▸ h (List.perm_nil.mp (hnil ▸ hr))

theorem begun_of_refreshing (h : service.refreshing ≠ []) : service.Begun :=
  fun hnil => absurd hnil h

theorem request_begun {pending : Request} (h : pending.continuation.isRefresh) :
    (service.request qt pending).Begun := by
  refine begun_of_refreshing fun hnil => ?_
  have hr : (service.request qt pending).refreshing = _ :=
    congrArg Pipeline.refreshing request_pipeline
  rw [hr, List.filter_singleton, h] at hnil
  simp at hnil

section Callbacks

variable {now : QDateTime} {outcome : Outcome} {bound : Nat}

theorem Pipeline.Ends.begun {other : ProjectsService} (h : service.pipeline.Ends other.pipeline) :
    other.refreshing = service.refreshing ∧ other.Begun := by
  obtain ⟨state, hs, heq⟩ := h
  simp only [pipeline, Pipeline.mk.injEq] at heq
  exact ⟨heq.1, fun _ => heq.2.1 ▸ hs⟩

/-- What the callback of a page leads to: the refresh ends, or there is less to do. -/
structure Follows (pages bound : Nat) (after : ProjectsService) : Prop where
  begun : after.Begun
  less : after.remaining pages < bound

theorem Follows.of_ends {other : ProjectsService} (h : service.Between)
    (he : service.pipeline.Ends other.pipeline) (hb : 0 < bound) : other.Follows pages bound := by
  obtain ⟨hr, hbegun⟩ := he.begun
  refine ⟨hbegun, ?_⟩
  rw [remaining, hr, h.refreshing]
  exact hb

theorem Between.request_follows (h : service.Between) {pending : Request}
    (hd : pending.continuation.isDiscovery) (hb : pending.continuation.remaining pages < bound) :
    (service.request qt pending).Follows pages bound := by
  have hp : (service.request qt pending).pipeline = _ := request_pipeline
  simp only [pipeline, Pipeline.mk.injEq] at hp
  have hr : (service.request qt pending).refreshing = [pending.continuation] := by
    rw [hp.1, h.refreshing, List.filter_singleton, Continuation.isRefresh, hd]
    rfl
  refine ⟨begun_of_refreshing (by simp [hr]), ?_⟩
  simpa [remaining, hr] using hb

theorem Between.loadRuns_follows (h : service.Between) (repositories : List Repository)
    (hb : 0 < bound) : (service.loadRuns qt repositories now).Follows pages bound := by
  unfold ProjectsService.loadRuns
  split
  case isTrue =>
    have hbetween : Between { service with projects := [] } :=
      ⟨h.refreshing, h.pending, h.ended, h.state⟩
    exact .of_ends hbetween (finishRefresh_pipeline now h.ended) hb
  case isFalse hne =>
    let prepared : ProjectsService := { service with
      pendingRunRequests := repositories.length
      runBatches := service.runBatches ++ [{}] }
    have hp := requests_pipeline qt prepared
      (fun repository => ⟨runsUrl repository, .runs service.runBatches.length repository⟩)
      repositories
    simp only [pipeline, Pipeline.mk.injEq] at hp
    have hrefreshing : prepared.refreshing = [] := h.refreshing
    have hr := hp.1
    rw [hrefreshing, List.nil_append, List.filter_eq_self.mpr (by simp [Continuation.isRefresh,
      Continuation.isRuns])] at hr
    refine ⟨begun_of_refreshing ?_, ?_⟩
    · rw [hr]
      simpa using hne
    · have hruns : ∀ continuation ∈ repositories.map fun repository =>
          Continuation.runs service.runBatches.length repository,
          ∃ repository, continuation = .runs service.runBatches.length repository :=
        List.forall_mem_map.mpr fun repository _ => ⟨repository, rfl⟩
      rw [remaining, hr, Continuation.remaining_runs hruns]
      exact hb

theorem Between.deliver_follows (h : service.Between) {continuation : Continuation}
    (hd : continuation.isDiscovery) (hfull : pages ≤ continuation.page → outcome.isFull = false) :
    (service.deliver qt continuation now outcome).Follows pages (continuation.remaining pages) := by
  cases continuation with
  | repositories page known =>
    cases outcome with
    | success body document =>
      simp only [ProjectsService.deliver, succeed, repositoriesSucceed]
      split
      · split
        case isTrue hlength =>
          have hpage : page < pages := by
            by_contra hge
            simpa [Outcome.isFull, hlength] using hfull (Nat.not_lt.mp hge)
          refine h.request_follows rfl ?_
          simp only [Continuation.remaining]
          omega
        · split
          · refine h.request_follows rfl ?_
            simp only [Continuation.remaining]
            omega
          · exact h.loadRuns_follows _ (Continuation.remaining_pos rfl)
      · exact .of_ends h (failRefresh_pipeline _ h.ended) (Continuation.remaining_pos rfl)
    | failure error =>
      exact .of_ends h (failRefresh_pipeline _ h.ended) (Continuation.remaining_pos rfl)
  | privateRepositories page known =>
    cases outcome with
    | success body document =>
      simp only [ProjectsService.deliver, succeed, privateRepositoriesSucceed]
      split
      · split
        case isTrue hlength =>
          have hpage : page < pages := by
            by_contra hge
            simpa [Outcome.isFull, hlength] using hfull (Nat.not_lt.mp hge)
          refine h.request_follows rfl ?_
          simp only [Continuation.remaining]
          omega
        · exact h.loadRuns_follows _ (Continuation.remaining_pos rfl)
      · exact .of_ends h (failRefresh_pipeline _ h.ended) (Continuation.remaining_pos rfl)
    | failure error => exact h.loadRuns_follows known (Continuation.remaining_pos rfl)
  | runs batch repository => cases hd
  | runners batch => cases hd
  | jobs repository runId => cases hd
  | artifacts repository runId => cases hd

theorem Between.replaceProjects_ends (h : service.Between) {rows : List Row} :
    service.pipeline.Ends (service.replaceProjects qt rows now).pipeline := by
  rw [ProjectsService.replaceProjects, loadSelectedDetails_pipeline]
  exact finishRefresh_pipeline now h.ended

theorem Among.begun (h : service.Among) {batch : Nat} {update : RunBatch → RunBatch}
    (hz : (service.updateBatch batch update).pendingRunRequests ≠ 0) :
    (service.updateBatch batch update).Begun := by
  intro hnil
  rw [h.updateBatch, show service.refreshing = [] from hnil] at hz
  exact absurd rfl hz

/-- The callback of a runs request makes no request, and ends the refresh if it is the last. -/
theorem Among.deliver_begun (h : service.Among) (batch : Nat) (repository : Repository) :
    (service.deliver qt (.runs batch repository) now outcome).refreshing = service.refreshing ∧
      (service.deliver qt (.runs batch repository) now outcome).Begun := by
  cases outcome with
  | success body document =>
    simp only [ProjectsService.deliver, succeed, ProjectsService.runsSucceed]
    split
    case isTrue hz =>
      split
      · exact (failRefresh_pipeline _ (h.between hz).ended).begun
      · exact (h.between hz).replaceProjects_ends.begun
    case isFalse hz => exact ⟨rfl, h.begun hz⟩
  | failure error =>
    simp only [ProjectsService.deliver, fail, ProjectsService.runsFail]
    split
    case isTrue hz => exact (failRefresh_pipeline error (h.between hz).ended).begun
    case isFalse hz => exact ⟨rfl, h.begun hz⟩

end Callbacks

section Requests

variable {index : Nat} {started : StartedRequest} {reply : Reply} {now : QDateTime}
  {outcome : Outcome}

/-- Callbacks make requests after the ones that there are. -/
theorem stable_appended (qt : QtText) (pending : List Request) :
    Stable qt fun service => ∃ later, service.unfinished = pending ++ later where
  frame {service other} h ht := by
    obtain ⟨later, heq⟩ := h
    simp only [transport, Transport.mk.injEq] at ht
    exact ⟨later, by rw [← heq, unfinished, unfinished, ht.1, ht.2.1]⟩
  request {service} next h := by
    obtain ⟨later, heq⟩ := h
    exact ⟨later ++ [next], by rw [request_unfinished, heq, List.append_assoc]⟩

theorem mem_unfinished_of_refreshing (h : service.refreshing ≠ []) :
    ∃ pending ∈ service.unfinished, pending.continuation.isRefresh := by
  obtain ⟨continuation, hmem⟩ := List.exists_mem_of_ne_nil _ h
  obtain ⟨hmem, hrefresh⟩ := List.mem_filter.mp hmem
  obtain ⟨pending, hpending, rfl⟩ := List.mem_map.mp hmem
  exact ⟨pending, hpending, hrefresh⟩

/-- Requests that are made later are not ahead. -/
theorem ahead_of_appended {other : ProjectsService} {later : List Request}
    (hr : service.refreshing ≠ []) (h : other.unfinished = service.unfinished ++ later) :
    other.ahead = service.ahead := by
  have hlt : service.ahead < service.unfinished.length :=
    List.findIdx_lt_length_of_exists (mem_unfinished_of_refreshing hr)
  rw [ahead, h, List.findIdx_append]
  exact if_pos hlt

theorem settle_unfinished_eq (hi : service.inFlight[index]? = some started) :
    (service.settle qt index started reply now).unfinished = service.unfinished.eraseIdx index := by
  obtain ⟨interval, etags, bodies, heq⟩ := settle_eq qt service index started reply now
  obtain ⟨hlt, -⟩ := List.getElem?_eq_some_iff.mp hi
  rw [heq]
  simp only [unfinished]
  rw [List.eraseIdx_append_of_lt_length (by simpa using hlt), List.eraseIdx_map]

/-- What is taken from the front is no longer ahead. -/
theorem findIdx_eraseIdx {α : Type*} {p : α → Bool} {xs : List α} {x : α} (hi : xs[index]? = some x)
    (hx : p x = false) :
    (xs.eraseIdx index).findIdx p + (if index < xs.findIdx p then 1 else 0) = xs.findIdx p := by
  induction xs generalizing index with
  | nil => simp at hi
  | cons y ys ih =>
    cases index with
    | zero =>
      obtain rfl : y = x := by simpa using hi
      simp [List.findIdx_cons, hx]
    | succ index =>
      have hrest := @ih index (by simpa using hi)
      rw [List.eraseIdx_cons_succ, List.findIdx_cons, List.findIdx_cons]
      cases p y with
      | true => simp
      | false =>
        simp only [cond_false, Nat.add_lt_add_iff_right]
        omega

theorem unfinished_getElem? (hi : service.inFlight[index]? = some started) :
    service.unfinished[index]? = some started.request := by
  obtain ⟨hlt, -⟩ := List.getElem?_eq_some_iff.mp hi
  rw [unfinished, List.getElem?_append_left (by simpa using hlt), List.getElem?_map, hi]
  rfl

theorem settle_ahead (hi : service.inFlight[index]? = some started)
    (hc : started.request.continuation.isRefresh = false) :
    (service.settle qt index started reply now).ahead +
      (if index < service.ahead then 1 else 0) = service.ahead := by
  rw [ahead, settle_unfinished_eq hi]
  exact findIdx_eraseIdx (unfinished_getElem? hi) hc

theorem ahead_pos (hi : service.inFlight[0]? = some started)
    (hc : started.request.continuation.isRefresh = false) : 0 < service.ahead := by
  have hget : service.unfinished[0]? = some started.request := unfinished_getElem? hi
  rw [ahead]
  generalize service.unfinished = unfinished at hget
  cases unfinished with
  | nil => simp at hget
  | cons pending rest =>
    obtain rfl : pending = started.request := by simpa using hget
    simp [List.findIdx_cons, hc]

end Requests

section Work

variable {other : ProjectsService}

theorem work_lt_of_remaining (h : other.remaining pages < service.remaining pages) :
    other.work pages < service.work pages :=
  Prod.Lex.toLex_lt_toLex.mpr (Or.inl h)

theorem work_lt_of_length (hr : other.remaining pages = service.remaining pages)
    (h : other.refreshing.length < service.refreshing.length) :
    other.work pages < service.work pages :=
  Prod.Lex.toLex_lt_toLex.mpr (Or.inr ⟨hr, Prod.Lex.toLex_lt_toLex.mpr (Or.inl h)⟩)

theorem remaining_of_perm (h : service.refreshing.Perm other.refreshing) :
    other.remaining pages = service.remaining pages :=
  (h.map (Continuation.remaining pages)).sum_eq.symm

theorem work_lt_of_ahead (h : service.refreshing.Perm other.refreshing)
    (ha : other.ahead < service.ahead) : other.work pages < service.work pages :=
  Prod.Lex.toLex_lt_toLex.mpr (Or.inr ⟨remaining_of_perm h,
    Prod.Lex.toLex_lt_toLex.mpr (Or.inr ⟨h.length_eq.symm, ha⟩)⟩)

theorem work_eq_of_perm (h : service.refreshing.Perm other.refreshing)
    (ha : other.ahead = service.ahead) : other.work pages = service.work pages := by
  rw [work, work, remaining_of_perm h, h.length_eq, ha]

end Work

section Steps

variable {index : Nat} {started : StartedRequest} {reply : Reply} {now : QDateTime}
  {outcome : Outcome}

/-- The callbacks of other requests take their place in the queue, and nothing else. -/
theorem finished_other_pipeline (hi : service.inFlight[index]? = some started)
    (hc : started.request.continuation.isRefresh = false) :
    let after := (service.settle qt index started reply now).deliver qt
      started.request.continuation now outcome
    service.refreshing.Perm after.refreshing ∧ after.state = service.state := by
  intro after
  have hperm : service.refreshing.Perm
      (_ ++ (service.settle qt index started reply now).refreshing) := settle_refreshing hi
  rw [List.filter_singleton, hc, cond_false, List.nil_append] at hperm
  have hpipeline : after.pipeline = _ :=
    (deliver_pipeline_of_other now outcome hc).trans settle_pipeline
  simp only [pipeline, Pipeline.mk.injEq] at hpipeline
  exact ⟨hpipeline.1 ▸ hperm, hpipeline.2.1⟩

theorem finished_other_ahead (hi : service.inFlight[index]? = some started)
    (hc : started.request.continuation.isRefresh = false) (hr : service.refreshing ≠ []) :
    ((service.settle qt index started reply now).deliver qt started.request.continuation now
      outcome).ahead + (if index < service.ahead then 1 else 0) = service.ahead := by
  have hperm : service.refreshing.Perm
      (_ ++ (service.settle qt index started reply now).refreshing) := settle_refreshing hi
  rw [List.filter_singleton, hc, cond_false, List.nil_append] at hperm
  have hr : (service.settle qt index started reply now).refreshing ≠ [] :=
    fun hnil => hr (List.perm_nil.mp (hnil ▸ hperm))
  obtain ⟨later, hlater⟩ := (stable_appended qt _).deliver started.request.continuation now outcome
    ⟨[], (List.append_nil (service.settle qt index started reply now).unfinished).symm⟩
  rw [ahead_of_appended hr hlater]
  exact settle_ahead hi hc

theorem finished_other_work (hi : service.inFlight[index]? = some started)
    (hc : started.request.continuation.isRefresh = false) (hr : service.refreshing ≠ []) :
    let after := (service.settle qt index started reply now).deliver qt
      started.request.continuation now outcome
    after.work pages ≤ service.work pages ∧
      (index = 0 → after.work pages < service.work pages) := by
  intro after
  obtain ⟨hperm, -⟩ : service.refreshing.Perm after.refreshing ∧ _ := finished_other_pipeline hi hc
  have hahead : after.ahead + (if index < service.ahead then 1 else 0) = service.ahead :=
    finished_other_ahead hi hc hr
  split at hahead
  case isTrue =>
    have hlt : after.work pages < service.work pages := work_lt_of_ahead hperm (by omega)
    exact ⟨hlt.le, fun _ => hlt⟩
  case isFalse hge =>
    refine ⟨(work_eq_of_perm hperm hahead).le, fun hzero => ?_⟩
    subst hzero
    exact absurd (ahead_pos hi hc) hge

/-- A reply to the refresh leaves less of it to do. -/
theorem Stage.finished_refresh_work (h : service.Stage)
    (hi : service.inFlight[index]? = some started) (hc : started.request.continuation.isRefresh)
    (hend : started.request.continuation.isDiscovery →
      pages ≤ started.request.continuation.page → outcome.isFull = false) :
    let after := (service.settle qt index started reply now).deliver qt
      started.request.continuation now outcome
    after.Begun ∧ after.work pages < service.work pages := by
  intro after
  have hperm : service.refreshing.Perm
      (_ ++ (service.settle qt index started reply now).refreshing) := settle_refreshing hi
  rw [List.filter_singleton, hc, cond_true, List.singleton_append] at hperm
  have hp : (service.settle qt index started reply now).pipeline = _ := settle_pipeline
  simp only [pipeline, Pipeline.mk.injEq, true_and] at hp
  obtain ⟨hs, hp, hb, ho⟩ := hp
  cases h with
  | idle hr => cases (hr ▸ hperm).length_eq
  | discovery continuation hr hd h₀ h₁ h₂ =>
    obtain ⟨rfl, hnil⟩ : continuation = started.request.continuation ∧ _ = [] := by
      simpa [hr] using hperm
    have hbetween : (service.settle qt index started reply now).Between :=
      ⟨hnil, hp.trans h₀, ho.trans h₁, hs.trans h₂⟩
    have hfollows : after.Follows pages (started.request.continuation.remaining pages) :=
      hbetween.deliver_follows hd (hend hd)
    have hremaining : service.remaining pages = started.request.continuation.remaining pages := by
      rw [remaining, hr]
      simp
    exact ⟨hfollows.begun, work_lt_of_remaining (hremaining ▸ hfollows.less)⟩
  | running hr hall hlength h₁ h₂ =>
    have hsettled : ∀ continuation ∈ (service.settle qt index started reply now).refreshing,
        ∃ repository, continuation = .runs (service.runBatches.length - 1) repository :=
      fun other hmem => hall other (hperm.mem_iff.mpr (List.mem_cons_of_mem _ hmem))
    have hamong : (service.settle qt index started reply now).Among := by
      refine ⟨hb ▸ hsettled, ?_, ho.trans h₁, hs.trans h₂⟩
      rw [hp, hlength, hperm.length_eq]
      rfl
    obtain ⟨repository, heq⟩ := hall _ (hperm.mem_iff.mpr List.mem_cons_self)
    have hdeliver : after.refreshing = (service.settle qt index started reply now).refreshing ∧
        after.Begun := by
      simp only [after, heq]
      exact hamong.deliver_begun _ repository
    refine ⟨hdeliver.2, work_lt_of_length ?_ ?_⟩
    · rw [remaining, remaining, hdeliver.1, Continuation.remaining_runs hsettled,
        Continuation.remaining_runs hall]
    · rw [hdeliver.1, hperm.length_eq]
      exact Nat.lt_succ_self _

theorem startRequests_work : (service.startRequests qt).work pages = service.work pages := by
  have hr : (service.startRequests qt).refreshing = service.refreshing :=
    congrArg Pipeline.refreshing startRequests_pipeline
  have hu : (service.startRequests qt).unfinished = service.unfinished := startRequests_unfinished
  rw [work, work, remaining, remaining, ahead, ahead, hr, hu]

theorem Begun.startRequests (h : service.Begun) : (service.startRequests qt).Begun :=
  h.congr (List.Perm.of_eq (congrArg Pipeline.refreshing startRequests_pipeline).symm)
    (congrArg Pipeline.state startRequests_pipeline)

theorem selectProject_pipeline (index : Int) :
    (service.selectProject qt index).pipeline = service.pipeline := by
  unfold ProjectsService.selectProject
  split
  · rfl
  · exact loadSelectedDetails_pipeline

/-- After a call of `refresh` a refresh is in progress, the one from before or a new one. -/
theorem Stage.refresh_begun (h : service.Stage) (hf : service.Filled) :
    (service.refresh qt).Begun := by
  unfold ProjectsService.refresh
  split
  case isTrue hguard =>
    cases h with
    | idle _ _ _ hs =>
      obtain ⟨hnil, -⟩ := hs.resolve_left (not_not_intro hguard.1)
      have hflight : service.inFlight = [] :=
        List.map_eq_nil_iff.mp (List.append_eq_nil_iff.mp hnil).1
      have hactive := hf.active
      rw [hflight] at hactive
      simp [hactive] at hguard
    | discovery continuation hr => exact begun_of_refreshing (by simp [hr])
    | running hr => exact begun_of_refreshing hr
  case isFalse => exact request_begun rfl

theorem Stage.step_begun {e : Event} (h : service.Stage) (hf : service.Filled)
    (hb : service.Begun) (hend : EndsBy qt pages service e) : (service.step qt e).Begun := by
  cases e with
  | refresh => exact h.refresh_begun hf
  | selectProject index =>
    have hpipeline : (service.selectProject qt index).pipeline = _ := selectProject_pipeline index
    exact hb.congr (List.Perm.of_eq (congrArg Pipeline.refreshing hpipeline).symm)
      (congrArg Pipeline.state hpipeline)
  | finished index reply now =>
    cases hi : service.inFlight[index]? with
    | none => simpa [ProjectsService.step, finished_of_none hi] using hb
    | some started =>
      simp only [ProjectsService.step, finished_of_some hi]
      cases hc : started.request.continuation.isRefresh with
      | false =>
        obtain ⟨hperm, hstate⟩ := finished_other_pipeline hi hc
        exact (hb.congr hperm hstate).startRequests
      | true => exact (h.finished_refresh_work hi hc (hend started hi)).1.startRequests

theorem Filled.inFlight_ne_nil (h : service.Filled) (hr : service.refreshing ≠ []) :
    service.inFlight ≠ [] := by
  intro hnil
  obtain ⟨pending, hmem, -⟩ := mem_unfinished_of_refreshing hr
  have hpos := h.active_pos (List.ne_nil_of_mem hmem)
  rw [h.active, hnil] at hpos
  cases hpos

/-- While a refresh is in progress no event puts its end off, and a reply to the oldest request
brings it nearer. -/
theorem Stage.step_work {e : Event} (h : service.Stage) (hf : service.Filled)
    (hr : service.refreshing ≠ []) (hend : EndsBy qt pages service e) :
    (service.step qt e).work pages ≤ service.work pages ∧
      (e.isOldest → (service.step qt e).work pages < service.work pages) := by
  cases e with
  | refresh =>
    have hsame : service.refresh qt = service := by
      unfold ProjectsService.refresh
      split
      case isTrue => rfl
      case isFalse hguard => exact absurd (h.idle_of_unguarded hf hguard).1 hr
    simp [ProjectsService.step, hsame, Event.isOldest]
  | selectProject index =>
    have hrefreshing : (service.selectProject qt index).refreshing = service.refreshing :=
      congrArg Pipeline.refreshing (selectProject_pipeline index)
    obtain ⟨later, hlater⟩ := (stable_appended qt _).selectProject index
      ⟨[], (List.append_nil service.unfinished).symm⟩
    have hwork : (service.selectProject qt index).work pages = service.work pages :=
      work_eq_of_perm (List.Perm.of_eq hrefreshing.symm) (ahead_of_appended hr hlater)
    simp [ProjectsService.step, hwork, Event.isOldest]
  | finished index reply now =>
    cases hi : service.inFlight[index]? with
    | none =>
      refine ⟨by simp [ProjectsService.step, finished_of_none hi], fun hfirst => ?_⟩
      obtain rfl : index = 0 := of_decide_eq_true hfirst
      exact absurd (by simpa using hi) (hf.inFlight_ne_nil hr)
    | some started =>
      simp only [ProjectsService.step, finished_of_some hi, startRequests_work]
      cases hc : started.request.continuation.isRefresh with
      | false =>
        obtain ⟨hle, hlt⟩ := finished_other_work hi hc hr
        exact ⟨hle, fun hfirst => hlt (of_decide_eq_true hfirst)⟩
      | true =>
        obtain ⟨-, hless⟩ := h.finished_refresh_work hi hc (hend started hi)
        exact ⟨hless.le, fun _ => hless⟩

end Steps

/-- If again and again the oldest request in flight is answered, and from some page on the listings
of repositories are not full, then every refresh ends, whatever is selected and whenever the timer
ticks in between. -/
theorem refresh_ends (qt : QtText) (owner : QString) (token : QByteArray) (e : ℕ → Event)
    (pages : Nat) (hfirst : ∃ n, e n = .refresh)
    (hfair : ∀ n, (stateAt (step qt) (initial owner token) e n).inFlight ≠ [] →
      ∃ m, n ≤ m ∧ (e m).isOldest)
    (hend : ∀ n, EndsBy qt pages (stateAt (step qt) (initial owner token) e n) (e n)) (n : ℕ) :
    ∃ m, n ≤ m ∧ (stateAt (step qt) (initial owner token) e m).refreshing = [] ∧
      (stateAt (step qt) (initial owner token) e m).state ≠ .loading := by
  obtain ⟨first, hrefresh⟩ := hfirst
  have hstage : ∀ m, (stateAt (step qt) (initial owner token) e m).Stage ∧
      (stateAt (step qt) (initial owner token) e m).Filled := by
    intro m
    refine stateAt_invariant (P := fun s : ProjectsService => s.Stage ∧ s.Filled) ?_
      (fun m hm => ⟨hm.1.step hm.2 (e m), hm.2.step (e m)⟩) (Nat.zero_le m)
    exact ⟨initial_stage owner token, initial_filled owner token⟩
  have hbegun : ∀ m, first + 1 ≤ m → (stateAt (step qt) (initial owner token) e m).Begun := by
    intro m hm
    refine stateAt_invariant (P := Begun) ?_
      (fun m hm => (hstage m).1.step_begun (hstage m).2 hm (hend m)) hm
    rw [stateAt_succ, hrefresh]
    exact (hstage first).1.refresh_begun (hstage first).2
  obtain ⟨m, hm, hnil⟩ := exists_stateAt (work pages) (fun _ e => e.isOldest)
    (P := fun s : ProjectsService => s.refreshing = [])
    (fun m hr => .inr ((hstage m).1.step_work (hstage m).2 hr (hend m)).1)
    (fun m hr hold => .inr (((hstage m).1.step_work (hstage m).2 hr (hend m)).2 hold))
    (fun m hr => hfair m ((hstage m).2.inFlight_ne_nil hr)) (max n (first + 1))
  exact ⟨m, (le_max_left _ _).trans hm, hnil, hbegun m ((le_max_right _ _).trans hm) hnil⟩

theorem isFull_of_error {key : QString} {reply : Reply} (h : reply.isAnswer = false) :
    (service.outcomeOf qt key reply).isFull = false := by
  unfold outcomeOf
  rw [if_neg (by simp [h])]
  split <;> rfl

/-- The network is down, and a project is selected after every reply. -/
def failing : ℕ → Event
  | 0 => .refresh
  | n + 1 => if n % 2 = 0 then .finished 0 { error := true } sampleTime else .selectProject 0

theorem failing_endsBy (n : ℕ) : EndsBy qt pages service (failing n) := by
  cases n with
  | zero => trivial
  | succ n =>
    rw [failing]
    split
    · exact fun started _ _ _ => isFull_of_error rfl
    · trivial

theorem refresh_ends_sample :
    ∃ m, 100 ≤ m ∧ (stateAt (step sampleText) (initial "o" []) failing m).refreshing = [] ∧
      (stateAt (step sampleText) (initial "o" []) failing m).state ≠ .loading :=
  refresh_ends sampleText "o" [] failing 0 ⟨0, rfl⟩
    (fun n _ => ⟨2 * n + 1, by omega, by simp [failing, Event.isOldest]⟩)
    (fun _ => failing_endsBy _) 100

end ProjectsService

end RpiDashboard.Projects
