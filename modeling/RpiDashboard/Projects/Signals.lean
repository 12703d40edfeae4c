import RpiDashboard.Projects.ProjectsService

/-! The signals of the projects service, each with the service as it is when it is sent, and a page
that reads the properties of `projects/projects_service.h` again when their signal is sent. -/

namespace RpiDashboard.Projects

open Qt

inductive Signal
  | selectedProjectIndexChanged | selectedProjectChanged | snapshotChanged | stateChanged
  deriving DecidableEq

abbrev Message := Signal × ProjectsService

section Properties

structure Status where
  state : ServiceState
  stale : Bool
  lastSuccessUtc : QDateTime
  diagnostics : QString

/-- The properties of the selected row; its age is told from `updatedAt` when it is shown. -/
structure SelectedProject where
  repository : QString := ""
  branch : QString := ""
  revision : QString := ""
  run : QString := ""
  updatedAt : QDateTime := {}
  health : QString := "unknown"
  historySuccessfulCount : Nat := 0
  historyCount : Nat := 0
  duration : QString := ""
  jobsSummary : QString := ""
  artifactSize : QString := ""
  deployStatus : QString := ""

structure Counts where
  tracked : Nat
  running : Nat
  failed : Nat
  aggregateHealth : QString

def countSuccessfulHistory (history : List HistoryEntry) : Nat :=
  history.countP HistoryEntry.successful

def selectedProject : Option Row → SelectedProject
  | none => {}
  | some row =>
    { repository := row.name
      branch := row.branch
      revision := row.detail.revision
      run := row.detail.runLabel
      updatedAt := row.detail.updatedAt
      health := row.health
      historySuccessfulCount := countSuccessfulHistory row.detail.history
      historyCount := row.detail.history.length
      duration := row.detail.duration.getD ""
      jobsSummary := row.detail.jobsSummary.getD ""
      artifactSize := row.detail.artifactSize.getD ""
      deployStatus := row.detail.deployStatus.getD "" }

/-- `QStringList::indexOf`. -/
def indexOfHealth (health : QString) : Int := if health ∈ ranks then ranks.idxOf health else -1

/-- The first of the worst. -/
def aggregateHealth : List QString → QString
  | [] => "unknown"
  | health :: rest =>
    rest.foldl (fun worst health =>
      if indexOfHealth health < indexOfHealth worst then health else worst) health

def countsOf (healths : List QString) : Counts where
  tracked := healths.length
  running := healths.count "running"
  failed := healths.count "failed"
  aggregateHealth := aggregateHealth healths

end Properties

namespace ProjectsService

section Properties

variable (service : ProjectsService)

def status : Status where
  state := service.state
  stale := service.stale
  lastSuccessUtc := service.lastSuccess
  diagnostics := service.diagnostics

def counts : Counts := countsOf (service.projects.map Row.health)

/-- `onlineRunnerCount` and `totalRunnerCount`. -/
def runnerCounts : Int × Int := (service.onlineRunners, service.totalRunners)

end Properties

section Sent

variable (qt : QtText) (service : ProjectsService) (now : QDateTime)

/-- Where nothing is asked for, the reset is announced. -/
def loadRunnersSent : List Message :=
  if service.runnerUrls.isEmpty then [(.snapshotChanged, service.resetRunners)] else []

def finishRefreshSent : List Message :=
  let service := service.refreshed now
  [(.stateChanged, service), (.snapshotChanged, service), (.selectedProjectChanged, service)] ++
    service.loadRunnersSent

def failRefreshSent (diagnostic : QString) : List Message :=
  [(.stateChanged, service.failRefresh diagnostic)]

def refreshSent : List Message :=
  if service.state = .loading ∧ 0 < service.activeRequests then []
  else
    let service := { service with
      refreshRequestCount := 0
      countingRefreshRequests := true
      calls := service.calls ++ [Call.refresh] }
    [(.stateChanged, service.setState .loading "")]

def loadRunsSent (repositories : List Repository) : List Message :=
  if repositories.isEmpty then { service with projects := [] }.finishRefreshSent now else []

def loadSelectedDetailsSent : List Message :=
  match service.selectedRow with
  | none => [(.selectedProjectChanged, { service with stages := [], history := [] })]
  | some _ => []

def selectProjectSent (index : Int) : List Message :=
  if index < 0 ∨ service.projects.length ≤ index ∨ index = service.selectedIndex then []
  else
    let service := { service with selectedIndex := index }
    let service := { service with selectedKey := (service.selectedRow.map Row.key).getD "" }
    [(.selectedProjectIndexChanged, service), (.selectedProjectChanged, service)] ++
      service.loadSelectedDetailsSent

def replaceProjectsSent (rows : List Row) : List Message :=
  let shown := service.showProjects rows
  (.selectedProjectIndexChanged, shown) ::
    (shown.finishRefreshSent now ++ (shown.finishRefresh qt now).loadSelectedDetailsSent)

def jobsSucceedSent (repository : QString) (runId : Int64) (document : QJsonValue) : List Message :=
  let jobs := (document.toObject.value "jobs").toArray
  if hasArray document "jobs" && jobs.all validJob then
    let after := service.jobsSucceed qt repository runId document now
    if after.shows repository runId then [(.selectedProjectChanged, after)] else []
  else []

def artifactsSucceedSent (repository : QString) (runId : Int64) (document : QJsonValue) :
    List Message :=
  let artifacts := (document.toObject.value "artifacts").toArray
  if hasArray document "artifacts" && artifacts.all validArtifact then
    let after := service.artifactsSucceed qt repository runId document
    if after.shows repository runId then [(.selectedProjectChanged, after)] else []
  else []

def repositoriesSucceedSent (repositories : List Repository) (document : QJsonValue) :
    List Message :=
  let array := document.toArray
  if document.isArray && array.all (validRepository · false) then
    let active := (array.map QJsonValue.toObject).filter fun object =>
      !(object.value "archived").toBool
    if array.length = 100 then []
    else if service.authenticated then []
    else service.loadRunsSent now (repositories ++ active.map repositoryOf)
  else service.failRefreshSent "GitHub returned invalid repository data"

def privateRepositoriesSucceedSent (accumulated : List Repository) (document : QJsonValue) :
    List Message :=
  let array := document.toArray
  if document.isArray && array.all (validRepository · true) then
    if array.length = 100 then []
    else service.loadRunsSent now
      ((array.map QJsonValue.toObject).foldl (service.addPrivate qt) accumulated)
  else service.failRefreshSent "GitHub returned invalid private repository data"

def runsSucceedSent (batch : Nat) (repository : Repository) (document : QJsonValue) : List Message :=
  let service := service.updateBatch batch fun shared =>
    { rows := shared.rows ++ (rowOf qt now repository (workflowRuns document)).toList
      failed := shared.failed || !validWorkflowRuns qt document }
  if service.pendingRunRequests = 0 then
    let shared := service.runBatches.getD batch {}
    if shared.failed then service.failRefreshSent "GitHub returned invalid workflow run data"
    else service.replaceProjectsSent qt now shared.rows
  else []

def runsFailSent (batch : Nat) (error : QString) : List Message :=
  let service := service.updateBatch batch fun shared => { shared with failed := true }
  if service.pendingRunRequests = 0 then service.failRefreshSent error else []

def runnersSucceedSent (batch : Nat) (document : QJsonValue) : List Message :=
  if service.pendingRunnerRequests - 1 = 0 then
    [(.snapshotChanged, service.runnersSucceed batch document)]
  else []

def runnersFailSent (batch : Nat) : List Message :=
  if service.pendingRunnerRequests - 1 = 0 then [(.snapshotChanged, service.runnersFail batch)]
  else []

/-- The signals of a callback, in order. -/
def deliverSent : Continuation → Outcome → List Message
  | .repositories _ repositories, .success _ document =>
    service.repositoriesSucceedSent now repositories document
  | .repositories _ _, .failure error => service.failRefreshSent error
  | .privateRepositories _ accumulated, .success _ document =>
    service.privateRepositoriesSucceedSent qt now accumulated document
  | .privateRepositories _ accumulated, .failure _ => service.loadRunsSent now accumulated
  | .runs batch repository, .success _ document =>
    service.runsSucceedSent qt now batch repository document
  | .runs batch _, .failure error => service.runsFailSent batch error
  | .runners batch, .success _ document => service.runnersSucceedSent batch document
  | .runners batch, .failure _ => service.runnersFailSent batch
  | .jobs repository runId, .success _ document =>
    service.jobsSucceedSent qt now repository runId document
  | .artifacts repository runId, .success _ document =>
    service.artifactsSucceedSent qt repository runId document
  | .jobs _ _, .failure _ | .artifacts _ _, .failure _ => []

def finishedSent (index : Nat) (reply : Reply) : List Message :=
  match service.inFlight[index]? with
  | none => []
  | some started =>
    (service.settle qt index started reply now).deliverSent qt now started.request.continuation
      (service.outcomeOf qt (qt.urlText started.request.url) reply)

end Sent

def sent (qt : QtText) (service : ProjectsService) : Event → List Message
  | .refresh => service.refreshSent
  | .selectProject index => service.selectProjectSent index
  | .finished index reply now => service.finishedSent qt now index reply

end ProjectsService

/-- What is shown of the properties, by the signals that announce them. -/
structure ProjectsPage where
  status : Status
  selectedProjectIndex : Int
  selected : SelectedProject
  counts : Counts
  runnerCounts : Int × Int

namespace ProjectsPage

def of (service : ProjectsService) : ProjectsPage where
  status := service.status
  selectedProjectIndex := service.selectedIndex
  selected := selectedProject service.selectedRow
  counts := service.counts
  runnerCounts := service.runnerCounts

/-- The properties of a signal are read again. -/
def hear (page : ProjectsPage) (message : Message) : ProjectsPage :=
  match message.1 with
  | .stateChanged => { page with status := message.2.status }
  | .selectedProjectIndexChanged => { page with selectedProjectIndex := message.2.selectedIndex }
  | .selectedProjectChanged => { page with selected := selectedProject message.2.selectedRow }
  | .snapshotChanged =>
    { page with counts := message.2.counts, runnerCounts := message.2.runnerCounts }

/-- The page shows the properties as they are; of the runners it may show earlier counts while
there are none. -/
structure Shows (page : ProjectsPage) (service : ProjectsService) : Prop where
  status : page.status = service.status
  selectedProjectIndex : page.selectedProjectIndex = service.selectedIndex
  selected : page.selected = selectedProject service.selectedRow
  counts : page.counts = service.counts
  runnerCounts : page.runnerCounts = service.runnerCounts ∨ service.runnerCounts = (-1, -1)

end ProjectsPage

end RpiDashboard.Projects
