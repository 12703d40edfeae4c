import RpiDashboard.Projects.Panel
import RpiDashboard.Projects.RequestLaws

/-! The service refines the panel: every event changes what is shown as its changes do. -/

namespace RpiDashboard.Projects

open Qt

namespace ProjectsService

variable {qt : QtText} {service : ProjectsService} {now : QDateTime}

section Requests

theorem panel_congr {other : ProjectsService} (ho : other.others = service.others) :
    other.panel = service.panel := (congrArg panel ho :)

@[simp] theorem startRequests_panel : (service.startRequests qt).panel = service.panel :=
  panel_congr startRequests_others

@[simp] theorem request_panel {pending : Request} :
    (service.request qt pending).panel = service.panel :=
  panel_congr request_others

theorem requests_panel {α : Type*} (f : α → Request) (xs : List α) :
    (xs.foldl (fun service x => service.request qt (f x)) service).panel = service.panel :=
  panel_congr (requests_others f xs)

theorem loadRunners_panel : (service.loadRunners qt).panel = service.panel := by
  unfold loadRunners
  dsimp only
  split
  · rfl
  · exact requests_panel _ _

theorem finishRefresh_panel : (service.finishRefresh qt now).panel = service.panel :=
  loadRunners_panel

theorem failRefresh_panel {diagnostic : QString} :
    (service.failRefresh diagnostic).panel = service.panel := rfl

theorem refresh_panel : (service.refresh qt).panel = service.panel := by
  unfold refresh
  split
  · rfl
  · exact request_panel

theorem runnersSucceed_panel {batch : Nat} {document : QJsonValue} :
    (service.runnersSucceed batch document).panel = service.panel := by
  obtain ⟨failed, pending, ids, onlineIds, online, total, heq⟩ :=
    runnersSucceed_frame service batch document
  rw [heq]
  rfl

end Requests

section Selection

theorem loadSelectedDetails_panel :
    (service.loadSelectedDetails qt).panel = service.panel.showDetails := by
  have hrow : service.panel.selectedRow = service.selectedRow := rfl
  unfold loadSelectedDetails Panel.showDetails
  rw [hrow]
  cases service.selectedRow with
  | none => rfl
  | some row => exact request_panel.trans request_panel

theorem selectProject_panel (index : Int) :
    (service.selectProject qt index).panel = service.panel.select index := by
  unfold selectProject Panel.select
  split
  case isTrue h => exact (if_pos h).symm
  case isFalse h => exact loadSelectedDetails_panel.trans (if_neg h).symm

theorem replaceProjects_panel (rows : List Row) :
    (service.replaceProjects qt rows now).panel = service.panel.replace rows := by
  rw [replaceProjects, loadSelectedDetails_panel, finishRefresh_panel]
  rfl

theorem loadRuns_panel (repositories : List Repository) :
    (service.loadRuns qt repositories now).panel =
      if repositories = [] then { service.panel with projects := [] } else service.panel := by
  unfold loadRuns
  cases repositories with
  | nil => exact finishRefresh_panel
  | cons repository repositories => exact requests_panel _ _

end Selection

section Callbacks

theorem handed_panel {handed : Option (List Repository)} :
    run Panel.step service.panel (if handed = some [] then [.empty] else []) =
      handed.elim service.panel fun repositories => (service.loadRuns qt repositories now).panel := by
  cases handed with
  | none => rfl
  | some repositories =>
    rw [Option.elim_some, loadRuns_panel]
    cases repositories <;> rfl

theorem repositoriesSucceed_panel {page : Nat} {repositories : List Repository}
    {body : QByteArray} {document : QJsonValue} :
    (service.repositoriesSucceed qt page repositories document now).panel =
      (service.handed qt (.repositories page repositories) (.success body document)).elim
        service.panel fun repositories => (service.loadRuns qt repositories now).panel := by
  unfold repositoriesSucceed handed
  dsimp only
  by_cases hvalid : document.isArray && document.toArray.all (validRepository · false)
  case neg => simp [hvalid, failRefresh_panel]
  case pos =>
    by_cases hlength : document.toArray.length = 100
    case pos => simp [hvalid, hlength, discoverRepositories]
    case neg =>
      by_cases hauthenticated : service.authenticated
      case pos => simp [hvalid, hlength, hauthenticated, discoverPrivateRepositories]
      case neg => simp [hvalid, hlength, hauthenticated, activeRepositories]

theorem privateRepositoriesSucceed_panel {page : Nat} {accumulated : List Repository}
    {body : QByteArray} {document : QJsonValue} :
    (service.privateRepositoriesSucceed qt page accumulated document now).panel =
      (service.handed qt (.privateRepositories page accumulated) (.success body document)).elim
        service.panel fun repositories => (service.loadRuns qt repositories now).panel := by
  unfold privateRepositoriesSucceed handed
  dsimp only
  by_cases hvalid : document.isArray && document.toArray.all (validRepository · true)
  case neg => simp [hvalid, failRefresh_panel]
  case pos =>
    by_cases hlength : document.toArray.length = 100
    case pos => simp [hvalid, hlength, discoverPrivateRepositories]
    case neg => simp [hvalid, hlength, addPrivatePage]

/-- What the last callback does. -/
def endRuns (qt : QtText) (service : ProjectsService) (batch : Nat) (now : QDateTime) :
    Outcome → ProjectsService
  | .success _ _ =>
    let shared := service.runBatches.getD batch {}
    if shared.failed then service.failRefresh "GitHub returned invalid workflow run data"
    else service.replaceProjects qt shared.rows now
  | .failure error => service.failRefresh error

theorem deliver_runs (batch : Nat) (repository : Repository) (reply : Outcome) :
    service.deliver qt (.runs batch repository) now reply =
      let updated := service.updateBatch batch (collect qt repository now reply)
      if updated.pendingRunRequests = 0 then updated.endRuns qt batch now reply else updated := by
  cases reply <;> rfl

theorem deliver_runs_panel (batch : Nat) (repository : Repository) (outcome : Outcome) :
    (service.deliver qt (.runs batch repository) now outcome).panel =
      (service.completed qt now (.runs batch repository) outcome).elim service.panel
        service.panel.replace := by
  rw [deliver_runs]
  dsimp only
  cases outcome with
  | failure error => split <;> rfl
  | success body document =>
    split
    case isFalse hpending =>
      have hnone : service.completed qt now (.runs batch repository) (.success body document) =
          none := if_neg fun h => hpending h.1
      rw [hnone]
      rfl
    case isTrue hpending =>
      unfold endRuns
      dsimp only
      split
      case isTrue hfailed =>
        have hnone : service.completed qt now (.runs batch repository) (.success body document) =
            none := if_neg fun h => Bool.false_ne_true (h.2.symm.trans hfailed)
        rw [hnone]
        rfl
      case isFalse hfailed =>
        have hsome : service.completed qt now (.runs batch repository) (.success body document) =
            some (service.collected qt batch repository now (.success body document)).rows :=
          if_pos ⟨hpending, Bool.eq_false_iff.mpr hfailed⟩
        rw [hsome]
        exact replaceProjects_panel _

theorem jobsSucceed_panel {repository : QString} {runId : Int64} {document : QJsonValue} :
    (service.jobsSucceed qt repository runId document now).panel =
      run Panel.step service.panel (if validJobs document then
        [.detail repository runId (jobsDetail qt now ((jobsOf document).map QJsonValue.toObject)),
          .cards repository runId (jobCards qt now ((jobsOf document).map QJsonValue.toObject))]
        else [.clear repository]) := by
  by_cases hvalid : validJobs document
  case pos =>
    rw [if_pos hvalid]
    exact (congrArg panel (if_pos hvalid)).trans (apply_ite panel _ _ _)
  case neg =>
    rw [if_neg hvalid]
    exact (congrArg panel (if_neg hvalid)).trans (apply_ite panel _ _ _)

theorem artifactsSucceed_panel {repository : QString} {runId : Int64} {document : QJsonValue} :
    (service.artifactsSucceed qt repository runId document).panel =
      run Panel.step service.panel (if validArtifacts document then
        [.detail repository runId
          (artifactsDetail qt ((artifactsOf document).map QJsonValue.toObject))] else []) := by
  by_cases hvalid : validArtifacts document
  case pos =>
    rw [if_pos hvalid]
    exact congrArg panel (if_pos hvalid)
  case neg =>
    rw [if_neg hvalid]
    exact congrArg panel (if_neg hvalid)

theorem deliver_panel (continuation : Continuation) (outcome : Outcome) :
    (service.deliver qt continuation now outcome).panel =
      run Panel.step service.panel (service.changesOf qt continuation now outcome) := by
  cases continuation with
  | repositories page repositories =>
    cases outcome with
    | success body document => exact repositoriesSucceed_panel.trans handed_panel.symm
    | failure error => rfl
  | privateRepositories page accumulated =>
    cases outcome with
    | success body document => exact privateRepositoriesSucceed_panel.trans handed_panel.symm
    | failure error => exact (loadRuns_panel accumulated).trans (by cases accumulated <;> rfl)
  | runs batch repository =>
    have hchanges : service.changesOf qt (.runs batch repository) now outcome =
      ((service.completed qt now (.runs batch repository) outcome).map Change.replace).toList := rfl
    rw [deliver_runs_panel, hchanges]
    cases service.completed qt now (.runs batch repository) outcome <;> rfl
  | runners batch =>
    cases outcome with
    | success body document => exact runnersSucceed_panel
    | failure error => rfl
  | jobs repository runId =>
    cases outcome with
    | success body document => exact jobsSucceed_panel
    | failure error => exact apply_ite panel _ _ _
  | artifacts repository runId =>
    cases outcome with
    | success body document => exact artifactsSucceed_panel
    | failure error => rfl

end Callbacks

section Step

variable {index : Nat} {started : StartedRequest} {reply : Reply}

theorem settle_panel : (service.settle qt index started reply now).panel = service.panel := by
  obtain ⟨interval, etags, bodies, heq⟩ := settle_eq qt service index started reply now
  rw [heq]
  rfl

theorem settle_changesOf {continuation : Continuation} {outcome : Outcome} :
    (service.settle qt index started reply now).changesOf qt continuation now outcome =
      service.changesOf qt continuation now outcome := by
  obtain ⟨interval, etags, bodies, heq⟩ := settle_eq qt service index started reply now
  rw [heq]
  rfl

theorem step_panel (service : ProjectsService) (e : Event) :
    (service.step qt e).panel = run Panel.step service.panel (service.changes qt e) := by
  cases e with
  | refresh => exact refresh_panel
  | selectProject index => exact selectProject_panel index
  | finished index reply now =>
    cases hi : service.inFlight[index]? with
    | none => simp [step, changes, finished_of_none hi, hi]
    | some started =>
      simp only [step, changes, finished_of_some hi, hi]
      rw [startRequests_panel, deliver_panel, settle_panel, settle_changesOf]

/-- A run of the service is a run of the panel. -/
theorem run_panel (service : ProjectsService) (es : List Event) :
    (run (step qt) service es).panel =
      run Panel.step service.panel (emitted (step qt) (changes qt) service es) :=
  run_refines step_panel

end Step

end ProjectsService

end RpiDashboard.Projects
