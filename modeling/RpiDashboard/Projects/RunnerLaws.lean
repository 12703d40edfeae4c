import Mathlib.Data.Finset.Dedup
import RpiDashboard.Projects.CacheLaws

/-! Laws of the runner counts: they come from the replies to one `loadRunners`, as long as
these calls do not overlap. -/

namespace RpiDashboard.Projects

open Qt

def Continuation.isRunners : Continuation → Bool
  | .runners _ => true
  | _ => false

/-- The runners that a reply lists. -/
def Finished.runners (finished : Finished) : List QJsonValue :=
  match finished.outcome with
  | .success _ document => runnersOf document
  | .failure _ => []

def Finished.validRunners (finished : Finished) : Bool :=
  match finished.outcome with
  | .success _ document => Projects.validRunners document
  | .failure _ => false

def Call.latest : Option (Nat × List QUrl) → Call → Option (Nat × List QUrl)
  | _, .loadRunners batch urls => some (batch, urls)
  | before, _ => before

namespace ProjectsService

variable {qt : QtText} {service : ProjectsService}

/-- The most recent call of `loadRunners`, and the requests that it has made. -/
def latestRunners (service : ProjectsService) : Option (Nat × List QUrl) :=
  service.calls.foldl Call.latest none

/-- The unfinished runner requests. -/
def runnerRequests (service : ProjectsService) : List Request :=
  service.unfinished.filter fun pending => pending.continuation.isRunners

/-- The replies to the requests of one call. -/
def runnerReplies (service : ProjectsService) (batch : Nat) : List Finished :=
  service.replies.filter fun finished => finished.started.request.continuation = .runners batch

def idsOf (runners : List QJsonValue) : Finset Int64 := (runners.map runnerId).toFinset

def onlineIdsOf (runners : List QJsonValue) : Finset Int64 := idsOf (runners.filter runnerOnline)

/-- Counts that are shown are those of the most recent call, all of whose requests have been
answered with a valid payload. -/
def Truthful (service : ProjectsService) : Prop :=
  0 ≤ service.onlineRunners → 0 ≤ service.totalRunners → ∃ batch urls,
    service.latestRunners = some (batch, urls) ∧
    ((service.runnerReplies batch).map fun finished => finished.started.request.url).Perm urls ∧
    (∀ finished ∈ service.runnerReplies batch, finished.validRunners) ∧
    service.onlineRunners =
      (onlineIdsOf ((service.runnerReplies batch).flatMap Finished.runners)).card ∧
    service.totalRunners = (idsOf ((service.runnerReplies batch).flatMap Finished.runners)).card

/-- The callback ends a refresh well: there are no repositories, or the last of their runs are
valid and the ones before have been. -/
def endsRefresh (qt : QtText) (service : ProjectsService) : Continuation → Outcome → Bool
  | .repositories _ repositories, .success _ document =>
    let array := document.toArray
    document.isArray && array.all (validRepository · false) && array.length != 100 &&
      !service.authenticated && repositories.isEmpty &&
      array.all fun value => (value.toObject.value "archived").toBool
  | .privateRepositories _ accumulated, .success _ document =>
    let array := document.toArray
    document.isArray && array.all (validRepository · true) && array.length != 100 &&
      ((array.map QJsonValue.toObject).foldl (service.addPrivate qt) accumulated).isEmpty
  | .privateRepositories _ accumulated, .failure _ => accumulated.isEmpty
  | .runs batch _, .success _ document =>
    service.pendingRunRequests = 1 &&
      service.runBatches[batch]?.all fun shared => !shared.failed && validWorkflowRuns qt document
  | _, _ => false

/-- A reply that ends a refresh well, and so calls `loadRunners`, finds no runner request
unfinished. -/
def Undisturbed (qt : QtText) (service : ProjectsService) : Event → Prop
  | .finished index reply _ => ∀ started ∈ service.inFlight[index]?,
    service.endsRefresh qt started.request.continuation
      (service.outcomeOf qt (qt.urlText started.request.url) reply) → service.runnerRequests = []
  | _ => True

instance : DecidablePred (Undisturbed qt service)
  | .finished index reply _ => inferInstanceAs (Decidable (∀ started ∈ service.inFlight[index]?,
      service.endsRefresh qt started.request.continuation
        (service.outcomeOf qt (qt.urlText started.request.url) reply) →
          service.runnerRequests = []))
  | .refresh => .isTrue trivial
  | .selectProject _ => .isTrue trivial

/-- The part of the service that the counts depend on. -/
structure RunnerView where
  latest : Option (Nat × List QUrl)
  requests : List Request
  replies : List Finished
  runnersFailed : List Bool
  pendingRunnerRequests : Int
  runnerIds : Finset Int64
  onlineRunnerIds : Finset Int64
  onlineRunners : Int
  totalRunners : Int

def runnerView (service : ProjectsService) : RunnerView where
  latest := service.latestRunners
  requests := service.runnerRequests
  replies := service.replies
  runnersFailed := service.runnersFailed
  pendingRunnerRequests := service.pendingRunnerRequests
  runnerIds := service.runnerIds
  onlineRunnerIds := service.onlineRunnerIds
  onlineRunners := service.onlineRunners
  totalRunners := service.totalRunners

section View

theorem runnerView_congr {other : ProjectsService} (ho : other.others = service.others)
    (hr : other.runnerRequests = service.runnerRequests) : other.runnerView = service.runnerView := by
  have hview : { other.others.runnerView with requests := other.runnerRequests } =
      { service.others.runnerView with requests := service.runnerRequests } := by
    rw [ho, hr]
  exact hview

@[simp] theorem startRequests_runnerView :
    (service.startRequests qt).runnerView = service.runnerView :=
  runnerView_congr startRequests_others (by simp only [runnerRequests, startRequests_unfinished])

theorem request_runnerView {pending : Request} :
    (service.request qt pending).runnerView = { service.runnerView with
      requests := service.runnerRequests ++
        [pending].filter fun pending => pending.continuation.isRunners } := by
  have hr : (service.request qt pending).runnerRequests = service.runnerRequests ++
      [pending].filter fun pending => pending.continuation.isRunners := by
    rw [runnerRequests, request_unfinished, List.filter_append, runnerRequests]
  have ho : (service.request qt pending).others = service.others := request_others
  have hview : { (service.request qt pending).others.runnerView with
        requests := (service.request qt pending).runnerRequests } =
      { service.others.runnerView with
        requests := service.runnerRequests ++
          [pending].filter fun pending => pending.continuation.isRunners } := by
    rw [ho, hr]
  exact hview

theorem request_runnerView_of_other {pending : Request}
    (h : pending.continuation.isRunners = false) :
    (service.request qt pending).runnerView = service.runnerView := by
  rw [request_runnerView, List.filter_singleton, h]
  simp [runnerView]

theorem requests_runnerView (qt : QtText) (service : ProjectsService) {α : Type*} (f : α → Request)
    (xs : List α) :
    (xs.foldl (fun service x => service.request qt (f x)) service).runnerView =
      { service.runnerView with
        requests := service.runnerRequests ++
          (xs.map f).filter fun pending => pending.continuation.isRunners } := by
  induction xs generalizing service with
  | nil => simp [runnerView]
  | cons x xs ih =>
    rw [List.foldl_cons, ih, request_runnerView]
    have hr : (service.request qt (f x)).runnerRequests = _ :=
      congrArg RunnerView.requests request_runnerView
    rw [hr]
    simp only [List.map_cons, List.append_assoc, ← List.filter_append, List.singleton_append]

theorem requests_runnerView_of_other (qt : QtText) (service : ProjectsService) {α : Type*}
    (f : α → Request) (xs : List α) (h : ∀ x, (f x).continuation.isRunners = false) :
    (xs.foldl (fun service x => service.request qt (f x)) service).runnerView =
      service.runnerView := by
  rw [requests_runnerView, List.filter_eq_nil_iff.mpr (by simp [h]), List.append_nil]
  rfl

/-- What callbacks of other requests do to the counts: at most, start anew at the end of a
refresh. -/
def Quiet (qt : QtText) (ends : Bool) (service other : ProjectsService) : Prop :=
  other.runnerView = service.runnerView ∨
    ends ∧ ∃ mid : ProjectsService, mid.runnerView = service.runnerView ∧
      other.runnerView = (mid.loadRunners qt).runnerView

theorem failRefresh_runnerView (diagnostic : QString) :
    (service.failRefresh diagnostic).runnerView = service.runnerView := by
  simp [failRefresh, setState, runnerView, latestRunners, runnerRequests, unfinished,
    replies, Call.latest, Call.reply?]

theorem refreshed_runnerView (now : QDateTime) :
    (service.refreshed now).runnerView = service.runnerView := by
  simp [refreshed, setState, runnerView, latestRunners, runnerRequests, unfinished,
    replies, Call.latest, Call.reply?]

theorem loadSelectedDetails_runnerView :
    (service.loadSelectedDetails qt).runnerView = service.runnerView := by
  unfold loadSelectedDetails
  split
  · rfl
  · rw [request_runnerView_of_other rfl, request_runnerView_of_other rfl]
    rfl

theorem Quiet.of_view {ends : Bool} {other : ProjectsService}
    (h : other.runnerView = service.runnerView) : Quiet qt ends service other := Or.inl h

theorem Quiet.congr {ends : Bool} {before other after : ProjectsService}
    (h : Quiet qt ends before other) (hb : before.runnerView = service.runnerView)
    (ha : after.runnerView = other.runnerView) : Quiet qt ends service after := by
  rcases h with h | ⟨he, mid, hm, h⟩
  · exact Or.inl (ha.trans (h.trans hb))
  · exact Or.inr ⟨he, mid, hm.trans hb, ha.trans h⟩

theorem Quiet.finishRefresh (service : ProjectsService) (now : QDateTime) :
    Quiet qt true service (service.finishRefresh qt now) :=
  Or.inr ⟨rfl, service.refreshed now, refreshed_runnerView now, rfl⟩

theorem Quiet.loadRuns (repositories : List Repository) (now : QDateTime) :
    Quiet qt repositories.isEmpty service (service.loadRuns qt repositories now) := by
  unfold ProjectsService.loadRuns
  split
  case isTrue h =>
    rw [h]
    exact (Quiet.finishRefresh { service with projects := [] } now).congr rfl rfl
  case isFalse => exact .of_view (requests_runnerView_of_other _ _ _ _ fun _ => rfl)

theorem Quiet.replaceProjects (service : ProjectsService) (rows : List Row) (now : QDateTime) :
    Quiet qt true service (service.replaceProjects qt rows now) :=
  (Quiet.finishRefresh (service.showProjects rows) now).congr rfl loadSelectedDetails_runnerView

theorem updateBatch_runnerView {batch : Nat} {update : RunBatch → RunBatch} :
    (service.updateBatch batch update).runnerView = service.runnerView := rfl

theorem updateBatch_failed {batch : Nat} {update : RunBatch → RunBatch} {valid : Bool}
    (h : ∀ shared, (update shared).failed = (shared.failed || !valid)) :
    ((service.updateBatch batch update).runBatches.getD batch {}).failed =
      !service.runBatches[batch]?.all fun shared => !shared.failed && valid := by
  rw [updateBatch, List.getD_eq_getElem?_getD, List.getElem?_modify_eq]
  cases service.runBatches[batch]? with
  | none => rfl
  | some shared => simp [h]

theorem Quiet.runsSucceed (batch : Nat) (repository : Repository) (body : QByteArray)
    (document : QJsonValue) (now : QDateTime) :
    Quiet qt (service.endsRefresh qt (.runs batch repository) (.success body document)) service
      (service.runsSucceed qt batch repository document now) := by
  unfold ProjectsService.runsSucceed
  dsimp only
  generalize hupdate : service.updateBatch batch _ = updated
  have hv : updated.runnerView = service.runnerView := hupdate ▸ updateBatch_runnerView
  have hpending : updated.pendingRunRequests = service.pendingRunRequests - 1 := hupdate ▸ rfl
  have hfailed : (updated.runBatches.getD batch {}).failed = _ :=
    hupdate ▸ updateBatch_failed fun _ => rfl
  split
  case isTrue hzero =>
    split
    case isTrue => exact .of_view ((failRefresh_runnerView _).trans hv)
    case isFalse hf =>
      have hends : service.endsRefresh qt (.runs batch repository) (.success body document) := by
        have hone : service.pendingRunRequests = 1 := by omega
        rw [hfailed] at hf
        simpa [endsRefresh, hone] using hf
      rw [hends]
      exact (Quiet.replaceProjects updated _ now).congr hv rfl
  case isFalse => exact .of_view hv

theorem runsFail_runnerView {batch : Nat} {error : QString} :
    (service.runsFail batch error).runnerView = service.runnerView := by
  unfold runsFail
  dsimp only
  split
  · exact (failRefresh_runnerView _).trans updateBatch_runnerView
  · rfl

theorem jobsSucceed_runnerView {repository : QString} {runId : Int64} {document : QJsonValue}
    {now : QDateTime} :
    (service.jobsSucceed qt repository runId document now).runnerView = service.runnerView := by
  obtain ⟨projects, stages, -, heq⟩ := jobsSucceed_frame qt service repository runId document now
  rw [heq]
  rfl

theorem artifactsSucceed_runnerView {repository : QString} {runId : Int64}
    {document : QJsonValue} :
    (service.artifactsSucceed qt repository runId document).runnerView = service.runnerView := by
  obtain ⟨projects, -, heq⟩ := artifactsSucceed_frame qt service repository runId document
  rw [heq]
  rfl

/-- The last page of repositories ends a refresh without a token if there is nothing to load. -/
theorem endsRefresh_lastPage {page : Nat} {repositories : List Repository} {body : QByteArray}
    {document : QJsonValue}
    (hvalid : (document.isArray && document.toArray.all (validRepository · false)) = true)
    (hlength : ¬ document.toArray.length = 100) (ha : ¬ service.authenticated = true) :
    service.endsRefresh qt (.repositories page repositories) (.success body document) =
      (repositories ++ ((document.toArray.map QJsonValue.toObject).filter fun object =>
        !(object.value "archived").toBool).map repositoryOf).isEmpty := by
  rw [Bool.eq_iff_iff]
  simp [endsRefresh, hvalid, ha, hlength, List.filter_eq_nil_iff]

/-- The last page of private repositories ends it if there is nothing to load. -/
theorem endsRefresh_lastPrivatePage {page : Nat} {accumulated : List Repository}
    {body : QByteArray} {document : QJsonValue}
    (hvalid : (document.isArray && document.toArray.all (validRepository · true)) = true)
    (hlength : ¬ document.toArray.length = 100) :
    service.endsRefresh qt (.privateRepositories page accumulated) (.success body document) =
      ((document.toArray.map QJsonValue.toObject).foldl (service.addPrivate qt)
        accumulated).isEmpty := by
  simp [endsRefresh, hvalid, hlength]

theorem Quiet.repositoriesSucceed (page : Nat) (repositories : List Repository)
    (body : QByteArray) (document : QJsonValue) (now : QDateTime) :
    Quiet qt (service.endsRefresh qt (.repositories page repositories) (.success body document))
      service (service.repositoriesSucceed qt page repositories document now) := by
  unfold ProjectsService.repositoriesSucceed
  dsimp only
  split
  case isTrue hvalid =>
    split
    case isTrue => exact .of_view (request_runnerView_of_other rfl)
    case isFalse hlength =>
      split
      case isTrue => exact .of_view (request_runnerView_of_other rfl)
      case isFalse ha =>
        rw [endsRefresh_lastPage hvalid hlength ha]
        exact Quiet.loadRuns _ now
  case isFalse => exact .of_view (failRefresh_runnerView _)

theorem Quiet.privateRepositoriesSucceed (page : Nat) (accumulated : List Repository)
    (body : QByteArray) (document : QJsonValue) (now : QDateTime) :
    Quiet qt (service.endsRefresh qt (.privateRepositories page accumulated)
      (.success body document)) service
      (service.privateRepositoriesSucceed qt page accumulated document now) := by
  unfold ProjectsService.privateRepositoriesSucceed
  dsimp only
  split
  case isTrue hvalid =>
    split
    case isTrue => exact .of_view (request_runnerView_of_other rfl)
    case isFalse hlength =>
      rw [endsRefresh_lastPrivatePage hvalid hlength]
      exact Quiet.loadRuns _ now
  case isFalse => exact .of_view (failRefresh_runnerView _)

theorem Quiet.deliver {continuation : Continuation} (now : QDateTime) (outcome : Outcome)
    (h : continuation.isRunners = false) : Quiet qt (service.endsRefresh qt continuation outcome)
      service (service.deliver qt continuation now outcome) := by
  cases continuation with
  | repositories page repositories =>
    cases outcome with
    | success body document => exact Quiet.repositoriesSucceed page repositories body document now
    | failure error => exact .of_view (failRefresh_runnerView error)
  | privateRepositories page accumulated =>
    cases outcome with
    | success body document =>
      exact Quiet.privateRepositoriesSucceed page accumulated body document now
    | failure error => exact Quiet.loadRuns accumulated now
  | runs batch repository =>
    cases outcome with
    | success body document => exact Quiet.runsSucceed batch repository body document now
    | failure error => exact .of_view runsFail_runnerView
  | runners batch => cases h
  | jobs repository runId =>
    cases outcome with
    | success body document => exact .of_view jobsSucceed_runnerView
    | failure error =>
      simp only [ProjectsService.deliver, fail]
      split <;> exact .of_view rfl
  | artifacts repository runId =>
    cases outcome with
    | success body document => exact .of_view artifactsSucceed_runnerView
    | failure error => exact .of_view rfl

/-- A call of `loadRunners` starts anew. -/
def RunnerView.anew (view : RunnerView) (urls : List QUrl) : RunnerView :=
  { view with
    latest := some (view.runnersFailed.length, urls)
    requests := view.requests ++ urls.map (⟨·, .runners view.runnersFailed.length⟩)
    runnersFailed := view.runnersFailed ++ [false]
    pendingRunnerRequests := if urls.isEmpty then view.pendingRunnerRequests else urls.length
    runnerIds := ∅
    onlineRunnerIds := ∅
    onlineRunners := -1
    totalRunners := -1 }

theorem loadRunners_runnerView :
    (service.loadRunners qt).runnerView = service.runnerView.anew service.runnerUrls := by
  have hreset : service.resetRunners.runnerView = { service.runnerView with
      latest := some (service.runnersFailed.length, service.runnerUrls)
      runnersFailed := service.runnersFailed ++ [false]
      runnerIds := ∅, onlineRunnerIds := ∅, onlineRunners := -1, totalRunners := -1 } := by
    simp [resetRunners, runnerView, latestRunners, runnerRequests, unfinished, replies,
      Call.latest, Call.reply?]
  unfold loadRunners
  dsimp only
  split
  case isTrue h =>
    rw [hreset, List.isEmpty_iff.mp h]
    simp [RunnerView.anew, runnerView]
  case isFalse h =>
    have hr : runnerRequests { service.resetRunners with
        pendingRunnerRequests := service.runnerUrls.length } = service.runnerRequests :=
      (congrArg RunnerView.requests hreset :)
    have hv : runnerView { service.resetRunners with
        pendingRunnerRequests := service.runnerUrls.length } =
          { service.resetRunners.runnerView with
            pendingRunnerRequests := service.runnerUrls.length } := rfl
    rw [requests_runnerView, hr, hv, hreset,
      List.filter_eq_self.mpr (by simp [Continuation.isRunners])]
    simp [RunnerView.anew, runnerView, h]

/-- A reply to a runner request has been delivered. -/
def RunnerView.answered (view : RunnerView) (batch : Nat) (valid : Bool)
    (runners : List QJsonValue) : RunnerView :=
  let pending := view.pendingRunnerRequests - 1
  let failed := view.runnersFailed.modify batch (· || !valid)
  let ids := view.runnerIds ∪ idsOf (runners.filter validRunner)
  let onlineIds := view.onlineRunnerIds ∪ onlineIdsOf (runners.filter validRunner)
  let shown : Prop := pending = 0 ∧ failed.getD batch false = false
  have : Decidable shown := inferInstanceAs (Decidable (_ ∧ _))
  { view with
    runnersFailed := failed
    pendingRunnerRequests := pending
    runnerIds := ids
    onlineRunnerIds := onlineIds
    onlineRunners := if shown then onlineIds.card else view.onlineRunners
    totalRunners := if shown then ids.card else view.totalRunners }

theorem idsOf_append (xs ys : List QJsonValue) : idsOf (xs ++ ys) = idsOf xs ∪ idsOf ys := by
  simp [idsOf]

theorem insertRunner_eq (runner : QJsonValue) :
    service.insertRunner runner = { service with
      runnerIds := service.runnerIds ∪ idsOf ([runner].filter validRunner)
      onlineRunnerIds := service.onlineRunnerIds ∪ onlineIdsOf ([runner].filter validRunner) } := by
  unfold insertRunner
  cases hv : validRunner runner with
  | false => simp [hv, idsOf, onlineIdsOf]
  | true => cases ho : runnerOnline runner <;> simp [hv, ho, idsOf, onlineIdsOf]

theorem insertRunners_eq (service : ProjectsService) (runners : List QJsonValue) :
    runners.foldl insertRunner service = { service with
      runnerIds := service.runnerIds ∪ idsOf (runners.filter validRunner)
      onlineRunnerIds := service.onlineRunnerIds ∪ onlineIdsOf (runners.filter validRunner) } := by
  induction runners generalizing service with
  | nil => simp [idsOf, onlineIdsOf]
  | cons runner runners ih =>
    have hcons : (runner :: runners).filter validRunner =
        [runner].filter validRunner ++ runners.filter validRunner := by
      rw [← List.filter_append, List.singleton_append]
    rw [List.foldl_cons, ih, insertRunner_eq, hcons]
    simp only [onlineIdsOf, List.filter_append, idsOf_append, Finset.union_assoc]

/-- The counts and their sets, replaced. -/
def withRunners (service : ProjectsService) (view : RunnerView) : ProjectsService :=
  { service with
    runnersFailed := view.runnersFailed
    pendingRunnerRequests := view.pendingRunnerRequests
    runnerIds := view.runnerIds
    onlineRunnerIds := view.onlineRunnerIds
    onlineRunners := view.onlineRunners
    totalRunners := view.totalRunners }

theorem runnersSucceed_eq (batch : Nat) (document : QJsonValue) :
    service.runnersSucceed batch document = service.withRunners
      (service.runnerView.answered batch (validRunners document) (runnersOf document)) := by
  unfold runnersSucceed withRunners RunnerView.answered
  dsimp only
  rw [insertRunners_eq]
  by_cases h : service.runnerView.pendingRunnerRequests - 1 = 0 ∧
      (service.runnerView.runnersFailed.modify batch (· || !validRunners document)).getD batch
        false = false
  case pos =>
    rw [if_pos h, if_pos h, if_pos (by simpa [runnerView] using h)]
    rfl
  case neg =>
    rw [if_neg h, if_neg h, if_neg (by simpa [runnerView] using h)]
    rfl

theorem runnersFail_eq {batch : Nat} (h : batch < service.runnersFailed.length) :
    service.runnersFail batch =
      service.withRunners (service.runnerView.answered batch false []) := by
  have hfailed : ¬ (service.runnerView.pendingRunnerRequests - 1 = 0 ∧
      (service.runnerView.runnersFailed.modify batch (· || !false)).getD batch false = false) := by
    simp [runnerView, List.getD_eq_getElem?_getD, h]
  unfold runnersFail withRunners RunnerView.answered
  dsimp only
  rw [if_neg hfailed, if_neg hfailed]
  simp [runnerView, idsOf, onlineIdsOf]

end View

section Tracked

def RunnerView.repliesOf (view : RunnerView) (batch : Nat) : List Finished :=
  view.replies.filter fun finished => finished.started.request.continuation = .runners batch

/-- The runners listed so far in the replies to one call. -/
def RunnerView.runnersOf (view : RunnerView) (batch : Nat) : List QJsonValue :=
  (view.repliesOf batch).flatMap Finished.runners

/-- All unfinished runner requests are of one call, whose replies the sets and the flag sum up. -/
structure RunnerView.Batch (view : RunnerView) (batch : Nat) (urls : List QUrl) : Prop where
  last : batch + 1 = view.runnersFailed.length
  own : ∀ pending ∈ view.requests, pending.continuation = .runners batch
  urls : ((view.repliesOf batch).map (fun finished => finished.started.request.url) ++
    view.requests.map Request.url).Perm urls
  pending : view.requests ≠ [] → view.pendingRunnerRequests = view.requests.length
  ids : view.runnerIds = idsOf ((view.runnersOf batch).filter validRunner)
  onlineIds : view.onlineRunnerIds = onlineIdsOf ((view.runnersOf batch).filter validRunner)
  failed : view.runnersFailed.getD batch false =
    (view.repliesOf batch).any fun finished => !finished.validRunners
  counts : view.onlineRunners = -1 ∨ view.requests = [] ∧
    view.runnersFailed.getD batch false = false ∧
    view.onlineRunners = view.onlineRunnerIds.card ∧ view.totalRunners = view.runnerIds.card

structure RunnerView.Tracked (view : RunnerView) : Prop where
  known : ∀ finished ∈ view.replies, ∀ batch,
    finished.started.request.continuation = .runners batch → batch < view.runnersFailed.length
  current : (view.requests = [] ∧ view.onlineRunners = -1) ∨
    ∃ batch urls, view.latest = some (batch, urls) ∧ view.Batch batch urls

variable {view : RunnerView}

theorem RunnerView.Tracked.anew (h : view.Tracked) (hr : view.requests = []) (urls : List QUrl) :
    (view.anew urls).Tracked := by
  have hlength : (view.anew urls).runnersFailed.length = view.runnersFailed.length + 1 := by
    simp [RunnerView.anew]
  have hnone : (view.anew urls).repliesOf view.runnersFailed.length = [] := by
    refine List.filter_eq_nil_iff.mpr fun finished hf hc => ?_
    exact absurd (h.known finished hf _ (of_decide_eq_true hc)) (Nat.lt_irrefl _)
  have hrequests : (view.anew urls).requests =
      urls.map (⟨·, .runners view.runnersFailed.length⟩) := by
    simp [RunnerView.anew, hr]
  refine ⟨fun finished hf batch hc => ?_, Or.inr ⟨_, urls, rfl, ?_⟩⟩
  · rw [hlength]
    exact Nat.lt_succ_of_lt (h.known finished hf batch hc)
  · constructor
    case last => exact hlength.symm
    case own => simp [hrequests]
    case urls =>
      rw [hnone, hrequests, List.map_map]
      exact (List.map_id' urls).symm ▸ List.Perm.refl _
    case pending =>
      intro hn
      rw [hrequests] at hn ⊢
      have hempty : urls.isEmpty = false := by simpa using hn
      simp [RunnerView.anew, hempty]
    case ids => rw [RunnerView.runnersOf, hnone]; rfl
    case onlineIds => rw [RunnerView.runnersOf, hnone]; rfl
    case failed =>
      rw [hnone]
      simp [RunnerView.anew, List.getD_eq_getElem?_getD]
    case counts => exact Or.inl rfl

/-- Another reply to a request of the call. -/
theorem RunnerView.Batch.answered {batch : Nat} {urls : List QUrl} (h : view.Batch batch urls)
    {rest : List Request} {finished : Finished}
    (hperm : view.requests.Perm (finished.started.request :: rest))
    (hc : finished.started.request.continuation = .runners batch) :
    ({ view with requests := rest, replies := view.replies ++ [finished] }.answered batch
      finished.validRunners finished.runners).Batch batch urls := by
  have hlt : batch < view.runnersFailed.length := h.last ▸ Nat.lt_succ_self batch
  have hne : view.requests ≠ [] := fun hn => by simpa [hn] using hperm.length_eq
  have hpending : view.pendingRunnerRequests - 1 = rest.length := by
    rw [h.pending hne, hperm.length_eq, List.length_cons]
    omega
  generalize hafter : ({ view with
    requests := rest, replies := view.replies ++ [finished] } : RunnerView).answered batch
      finished.validRunners finished.runners = after
  have hrequests : after.requests = rest := hafter ▸ rfl
  have hreplies : after.repliesOf batch = view.repliesOf batch ++ [finished] := by
    rw [← hafter]
    simp [RunnerView.repliesOf, RunnerView.answered, hc]
  have hrunners : after.runnersOf batch = view.runnersOf batch ++ finished.runners := by
    rw [RunnerView.runnersOf, hreplies, List.flatMap_append, List.flatMap_singleton,
      RunnerView.runnersOf]
  have hflag : after.runnersFailed.getD batch false =
      (view.runnersFailed.getD batch false || !finished.validRunners) := by
    rw [← hafter]
    simp [RunnerView.answered, List.getD_eq_getElem?_getD, hlt]
  constructor
  case last =>
    rw [← hafter]
    simpa [RunnerView.answered] using h.last
  case own =>
    rw [hrequests]
    exact fun pending hmem => h.own pending (hperm.mem_iff.mpr (List.mem_cons_of_mem _ hmem))
  case urls =>
    rw [hreplies, hrequests, List.map_append, List.append_assoc]
    exact ((hperm.map Request.url).append_left _).symm.trans h.urls
  case pending =>
    intro _
    rw [hrequests, ← hpending, ← hafter]
    rfl
  case ids =>
    rw [hrunners, List.filter_append, idsOf_append, ← h.ids, ← hafter]
    rfl
  case onlineIds =>
    rw [hrunners, List.filter_append, onlineIdsOf, List.filter_append, idsOf_append, ← onlineIdsOf,
      ← onlineIdsOf, ← h.onlineIds, ← hafter]
    rfl
  case failed =>
    rw [hflag, hreplies, List.any_append, h.failed]
    simp
  case counts =>
    have hzero : view.pendingRunnerRequests - 1 = 0 ↔ rest = [] := by
      rw [hpending]
      simp
    by_cases hshown : rest = [] ∧ after.runnersFailed.getD batch false = false
    case pos =>
      refine Or.inr ⟨hrequests.trans hshown.1, hshown.2, ?_⟩
      rw [← hafter] at hshown ⊢
      exact ⟨if_pos ⟨hzero.mpr hshown.1, hshown.2⟩, if_pos ⟨hzero.mpr hshown.1, hshown.2⟩⟩
    case neg =>
      rw [← hafter] at hshown ⊢
      refine Or.inl ((if_neg fun hs => hshown ⟨hzero.mp hs.1, hs.2⟩).trans ?_)
      exact h.counts.resolve_right fun hr => hne hr.1

theorem RunnerView.Tracked.batch_lt (h : view.Tracked) {pending : Request} {batch : Nat}
    (hmem : pending ∈ view.requests) (hc : pending.continuation = .runners batch) :
    batch < view.runnersFailed.length := by
  obtain ⟨own, urls, -, hb⟩ := h.current.resolve_left fun hn => List.ne_nil_of_mem hmem hn.1
  obtain rfl : batch = own := Continuation.runners.inj (hc.symm.trans (hb.own _ hmem))
  exact hb.last ▸ Nat.lt_succ_self batch

/-- A reply to a runner request is one of the most recent call. -/
theorem RunnerView.Tracked.answered (h : view.Tracked) {rest : List Request} {finished : Finished}
    {batch : Nat} (hperm : view.requests.Perm (finished.started.request :: rest))
    (hc : finished.started.request.continuation = .runners batch) :
    ({ view with requests := rest, replies := view.replies ++ [finished] }.answered batch
      finished.validRunners finished.runners).Tracked := by
  have hmem : finished.started.request ∈ view.requests := hperm.mem_iff.mpr List.mem_cons_self
  obtain ⟨own, urls, hl, hb⟩ := h.current.resolve_left fun hn => List.ne_nil_of_mem hmem hn.1
  obtain rfl : batch = own := Continuation.runners.inj (hc.symm.trans (hb.own _ hmem))
  refine ⟨?_, Or.inr ⟨batch, urls, hl, hb.answered hperm hc⟩⟩
  intro other hf own ho
  show own < (view.runnersFailed.modify batch _).length
  rw [List.length_modify]
  rcases List.mem_append.mp (hf : other ∈ view.replies ++ [finished]) with hf | hf
  · exact h.known other hf own ho
  · obtain rfl := List.mem_singleton.mp hf
    obtain rfl : batch = own := Continuation.runners.inj (hc.symm.trans ho)
    exact hb.last ▸ Nat.lt_succ_self batch

/-- The order of the unfinished requests does not matter, and neither do other replies. -/
theorem RunnerView.Batch.congr {batch : Nat} {urls : List QUrl} (h : view.Batch batch urls)
    {requests : List Request} {replies : List Finished} (hperm : view.requests.Perm requests)
    (hr : RunnerView.repliesOf { view with requests, replies } batch = view.repliesOf batch) :
    RunnerView.Batch { view with requests, replies } batch urls := by
  have hnil : requests = [] ↔ view.requests = [] := by
    rw [← List.length_eq_zero_iff, ← hperm.length_eq, List.length_eq_zero_iff]
  constructor
  case last => exact h.last
  case own => exact fun pending hmem => h.own pending (hperm.mem_iff.mpr hmem)
  case urls =>
    rw [hr]
    exact ((hperm.map Request.url).append_left _).symm.trans h.urls
  case pending =>
    intro hn
    rw [← hperm.length_eq]
    exact h.pending (mt hnil.mpr hn)
  case ids => rw [RunnerView.runnersOf, hr]; exact h.ids
  case onlineIds => rw [RunnerView.runnersOf, hr]; exact h.onlineIds
  case failed => rw [hr]; exact h.failed
  case counts => exact h.counts.imp_right fun hc => ⟨hnil.mpr hc.1, hc.2⟩

end Tracked

section Step

theorem validRunner_of_mem {finished : Finished} (h : finished.validRunners) :
    ∀ runner ∈ finished.runners, validRunner runner := by
  obtain ⟨started, reply, outcome⟩ := finished
  cases outcome with
  | success body document =>
    simp only [Finished.validRunners, validRunners, Bool.and_eq_true, List.all_eq_true] at h
    exact h.2
  | failure error => exact absurd h Bool.false_ne_true

theorem RunnerView.Tracked.truthful (h : service.runnerView.Tracked) : service.Truthful := by
  intro ho ht
  have hcounts : service.onlineRunners ≠ -1 := by omega
  obtain ⟨batch, urls, hl, hb⟩ := h.current.resolve_left fun hn => hcounts hn.2
  obtain ⟨hr, hf, hon, htotal⟩ := hb.counts.resolve_left hcounts
  have hvalid : ∀ finished ∈ service.runnerView.repliesOf batch, finished.validRunners := by
    simpa using hb.failed.symm.trans hf
  have hfilter : (service.runnerView.runnersOf batch).filter validRunner =
      service.runnerView.runnersOf batch := by
    refine List.filter_eq_self.mpr fun runner hmem => ?_
    obtain ⟨finished, hfinished, hrunner⟩ := List.mem_flatMap.mp hmem
    exact validRunner_of_mem (hvalid finished hfinished) runner hrunner
  have hperm := hb.urls
  rw [hr, List.map_nil, List.append_nil] at hperm
  refine ⟨batch, urls, hl, hperm, hvalid, ?_, ?_⟩
  · rw [hb.onlineIds, hfilter] at hon
    exact hon
  · rw [hb.ids, hfilter] at htotal
    exact htotal

theorem refresh_runnerView : (service.refresh qt).runnerView = service.runnerView := by
  unfold refresh
  split
  · rfl
  · refine (request_runnerView_of_other rfl).trans ?_
    simp [setState, runnerView, latestRunners, runnerRequests, unfinished, replies,
      Call.latest, Call.reply?]

theorem selectProject_runnerView (index : Int) :
    (service.selectProject qt index).runnerView = service.runnerView := by
  unfold selectProject
  split
  · rfl
  · exact loadSelectedDetails_runnerView

variable {index : Nat} {started : StartedRequest} {reply : Reply} {now : QDateTime}

/-- The reply that is delivered, as it is recorded. -/
def finishedOf (qt : QtText) (service : ProjectsService) (started : StartedRequest) (reply : Reply) :
    Finished :=
  ⟨started, reply, service.outcomeOf qt (qt.urlText started.request.url) reply⟩

theorem settle_runnerView : (service.settle qt index started reply now).runnerView =
    { service.runnerView with
      requests := (service.settle qt index started reply now).runnerRequests
      replies := service.replies ++ [finishedOf qt service started reply] } := by
  obtain ⟨interval, etags, bodies, heq⟩ := settle_eq qt service index started reply now
  rw [heq]
  simp [runnerView, latestRunners, replies, Call.latest,
    Call.reply?, finishedOf]

theorem settle_runnerRequests (qt : QtText) (reply : Reply) (now : QDateTime)
    (hi : service.inFlight[index]? = some started) :
    service.runnerRequests.Perm
      ([started.request].filter (fun pending => pending.continuation.isRunners) ++
        (service.settle qt index started reply now).runnerRequests) := by
  have hperm := settle_unfinished qt reply now hi
  rw [runnerRequests, runnerRequests, ← List.filter_append, List.singleton_append]
  exact hperm.filter _

/-- A reply to another request leaves what is tracked. -/
theorem RunnerView.Tracked.settle_other (h : service.runnerView.Tracked)
    (hi : service.inFlight[index]? = some started)
    (hc : started.request.continuation.isRunners = false) :
    (service.settle qt index started reply now).runnerView.Tracked ∧
      (service.runnerRequests = [] →
        (service.settle qt index started reply now).runnerRequests = []) := by
  have hperm := settle_runnerRequests qt reply now hi
  rw [List.filter_singleton, hc, cond_false, List.nil_append] at hperm
  refine ⟨?_, fun hn => List.nil_perm.mp (hn ▸ hperm)⟩
  rw [settle_runnerView]
  constructor
  case known =>
    refine List.forall_mem_append.mpr ⟨h.known, List.forall_mem_singleton.mpr fun batch hb => ?_⟩
    exact absurd hc (by rw [show started.request.continuation = _ from hb]; simp [
      Continuation.isRunners])
  case current =>
    rcases h.current with hn | ⟨batch, urls, hl, hb⟩
    · have hnone : service.runnerRequests = [] := hn.1
      exact Or.inl ⟨List.nil_perm.mp (hnone ▸ hperm), hn.2⟩
    · have hne : started.request.continuation ≠ .runners batch := fun hb => by
        simp [hb, Continuation.isRunners] at hc
      exact Or.inr ⟨batch, urls, hl, hb.congr hperm (by
        simp [RunnerView.repliesOf, runnerView, finishedOf, hne])⟩

theorem RunnerView.Tracked.deliver_runners (h : service.runnerView.Tracked) {batch : Nat}
    (hi : service.inFlight[index]? = some started)
    (hc : started.request.continuation = .runners batch) :
    ((service.settle qt index started reply now).deliver qt (.runners batch) now
      (service.outcomeOf qt (qt.urlText started.request.url) reply)).runnerView.Tracked := by
  have hperm := settle_runnerRequests qt reply now hi
  rw [List.filter_singleton, hc, Continuation.isRunners, cond_true, List.singleton_append] at hperm
  have hanswered : ((service.settle qt index started reply now).runnerView.answered batch
      (finishedOf qt service started reply).validRunners
      (finishedOf qt service started reply).runners).Tracked := by
    rw [settle_runnerView]
    exact RunnerView.Tracked.answered h hperm hc
  unfold finishedOf at hanswered
  cases ho : service.outcomeOf qt (qt.urlText started.request.url) reply with
  | success body document =>
    rw [ho] at hanswered
    rw [ProjectsService.deliver, succeed, runnersSucceed_eq]
    exact hanswered
  | failure error =>
    rw [ho] at hanswered
    have hlt : batch < (service.settle qt index started reply now).runnersFailed.length := by
      rw [show (service.settle qt index started reply now).runnersFailed = service.runnersFailed from
        congrArg RunnerView.runnersFailed settle_runnerView]
      exact h.batch_lt (hperm.mem_iff.mpr List.mem_cons_self) hc
    rw [ProjectsService.deliver, fail, runnersFail_eq hlt]
    exact hanswered

theorem endsRefresh_settle {continuation : Continuation} {outcome : Outcome} :
    (service.settle qt index started reply now).endsRefresh qt continuation outcome =
      service.endsRefresh qt continuation outcome := by
  obtain ⟨interval, etags, bodies, heq⟩ := settle_eq qt service index started reply now
  rw [heq]
  cases continuation <;> cases outcome <;> rfl

theorem RunnerView.Tracked.step (h : service.runnerView.Tracked) {e : Event}
    (he : service.Undisturbed qt e) : (service.step qt e).runnerView.Tracked := by
  cases e with
  | refresh =>
    rw [ProjectsService.step, refresh_runnerView]
    exact h
  | selectProject index =>
    rw [ProjectsService.step, selectProject_runnerView]
    exact h
  | finished index reply now =>
    cases hi : service.inFlight[index]? with
    | none => simpa [ProjectsService.step, finished_of_none hi] using h
    | some started =>
      rw [ProjectsService.step, finished_of_some hi, startRequests_runnerView]
      cases hc : started.request.continuation.isRunners with
      | true =>
        obtain ⟨batch, hbatch⟩ : ∃ batch, started.request.continuation = .runners batch := by
          cases hs : started.request.continuation <;> simp_all [Continuation.isRunners]
        rw [hbatch]
        exact h.deliver_runners hi hbatch
      | false =>
        obtain ⟨hsettle, hnone⟩ :
            (service.settle qt index started reply now).runnerView.Tracked ∧ _ :=
          h.settle_other hi hc
        have hquiet : Quiet qt _ (service.settle qt index started reply now) _ :=
          Quiet.deliver now (service.outcomeOf qt (qt.urlText started.request.url) reply) hc
        rw [endsRefresh_settle] at hquiet
        rcases hquiet with hq | ⟨hends, mid, hm, hq⟩
        · rw [hq]
          exact hsettle
        · rw [hq, loadRunners_runnerView, hm]
          exact hsettle.anew (hnone (he started hi hends)) _

/-- The counts are truthful along every run in which no call of `loadRunners` finds a runner
request of an earlier one unfinished. -/
theorem truthful_of_undisturbed (owner : QString) (token : QByteArray) {es : List Event}
    (h : Throughout (step qt) (Undisturbed qt) (initial owner token) es) :
    Truthful (run (step qt) (initial owner token) es) := by
  have hinitial : (initial owner token).runnerView.Tracked :=
    ⟨fun _ hf => absurd hf List.not_mem_nil, Or.inl ⟨rfl, rfl⟩⟩
  exact (h.invariant (P := fun s : ProjectsService => s.runnerView.Tracked) hinitial
    fun _ _ he hs => hs.step he).truthful

end Step

section Sample

def runnersBody : QByteArray := toUtf8
  "\x7b\"runners\":[\x7b\"id\":1,\"status\":\"online\"\x7d,\x7b\"id\":2,\"status\":\"offline\"\x7d]\x7d"

def runnersText : QtText := { sampleText with
  fromJson body :=
    if body = runnersBody then
      some (.object [("runners", .array [.object [("id", .integer 1), ("status", .string "online")],
        .object [("id", .integer 2), ("status", .string "offline")]])])
    else sampleText.fromJson body }

def sampleToken : QByteArray := toUtf8 "token"

/-- A refresh with a token, behind so many other requests: the request for private
repositories fails. -/
def tokenRefresh (others : Nat) : List Event :=
  [.refresh, answer others repositoryBody [], .finished others { error := true } sampleTime,
    answer others runsBody []]

theorem truthful_sample :
    (run (step runnersText) (initial "o" sampleToken)
      (tokenRefresh 0 ++ [answer 0 runnersBody []])).Truthful ∧
    (run (step runnersText) (initial "o" sampleToken)
      (tokenRefresh 0 ++ [answer 0 runnersBody []])).totalRunners = 2 :=
  ⟨truthful_of_undisturbed "o" sampleToken (by decide +kernel), by decide +kernel⟩

/-- Another refresh ends while the runner request of the one before is in flight; its answer is
shown as the count of the second, which has no answer yet. -/
def overlapped : List Event :=
  tokenRefresh 0 ++ tokenRefresh 3 ++ [answer 0 runnersBody []]

theorem overlapped_untruthful :
    ¬ (run (step runnersText) (initial "o" sampleToken) overlapped).Truthful := by
  have hshown : 0 ≤ (run (step runnersText) (initial "o" sampleToken) overlapped).onlineRunners ∧
      0 ≤ (run (step runnersText) (initial "o" sampleToken) overlapped).totalRunners := by
    decide +kernel
  have hlatest : (run (step runnersText) (initial "o" sampleToken) overlapped).latestRunners =
      some (1, [runnersUrl "o/a"]) := by decide +kernel
  have hreplies : (run (step runnersText) (initial "o" sampleToken) overlapped).runnerReplies 1 = [] :=
    List.eq_nil_of_length_eq_zero (by decide +kernel)
  intro h
  obtain ⟨batch, urls, hl, hperm, -⟩ := h hshown.1 hshown.2
  obtain ⟨rfl, rfl⟩ : 1 = batch ∧ [runnersUrl "o/a"] = urls := by
    simpa using hlatest.symm.trans hl
  rw [hreplies] at hperm
  simpa using hperm.length_eq

end Sample

end ProjectsService

end RpiDashboard.Projects
