import RpiDashboard.Projects.ProjectsService

/-! What the projects page shows, as a machine of its own: the rows, the selection, and the
cards and the history beside it.  An event of the service is a few changes of the panel. -/

namespace RpiDashboard.Projects

open Qt

structure Panel where
  projects : List Row
  stages : List Row
  history : List Row
  selectedIndex : Int
  selectedKey : QString

/-- What is loaded after the row: the last four details, and none of the others. -/
structure Insertion where
  insert : Detail → Detail
  loaded : ∀ detail, ∃ duration jobsSummary artifactSize deployStatus,
    insert detail = { detail with duration, jobsSummary, artifactSize, deployStatus }

inductive Change
  | select : Int → Change
  /-- A refresh finds no repository. -/
  | empty : Change
  /-- A refresh brings these rows. -/
  | replace : List Row → Change
  /-- Details of a run are loaded. -/
  | detail : QString → Int64 → Insertion → Change
  /-- The jobs of a run are loaded, or fail to. -/
  | cards : QString → Int64 → List Row → Change
  /-- The jobs of a repository cannot be read. -/
  | clear : QString → Change

namespace Panel

def selectedRow (panel : Panel) : Option Row :=
  if 0 ≤ panel.selectedIndex then panel.projects[panel.selectedIndex.toNat]? else none

def choose (panel : Panel) (index : Int) : Panel :=
  let panel := { panel with selectedIndex := index }
  { panel with selectedKey := (panel.selectedRow.map Row.key).getD "" }

/-- `loadSelectedDetails` but for its requests. -/
def showDetails (panel : Panel) : Panel :=
  match panel.selectedRow with
  | none => { panel with stages := [], history := [] }
  | some row => { panel with history := row.detail.history.map ProjectsService.historyRow }

def select (panel : Panel) (index : Int) : Panel :=
  if index < 0 ∨ panel.projects.length ≤ index ∨ index = panel.selectedIndex then panel
  else (panel.choose index).showDetails

def replace (panel : Panel) (rows : List Row) : Panel :=
  let rows := retainLoadedProjectDetails (sortProjectsByLatestExecution rows) panel.projects
  let index := ProjectsService.indexOfKey rows panel.selectedKey
  ({ panel with projects := rows }.choose index).showDetails

def shows (panel : Panel) (repository : QString) (runId : Int64) : Bool :=
  panel.selectedKey = repository && panel.selectedRow.any fun row => row.detail.runId = runId

def insertDetail (panel : Panel) (repository : QString) (runId : Int64)
    (insert : Detail → Detail) : Panel :=
  { panel with
    projects := Keyed.modify Row.key repository (fun row =>
      if row.detail.runId = runId then { row with detail := insert row.detail } else row)
      panel.projects }

def step (panel : Panel) : Change → Panel
  | .select index => panel.select index
  | .empty => { panel with projects := [] }
  | .replace rows => panel.replace rows
  | .detail repository runId insertion => panel.insertDetail repository runId insertion.insert
  | .cards repository runId cards =>
    if panel.shows repository runId then { panel with stages := cards } else panel
  | .clear repository =>
    if panel.selectedKey = repository then { panel with stages := [] } else panel

end Panel

section Jobs

variable (qt : QtText)

def jobsOf (document : QJsonValue) : List QJsonValue := (document.toObject.value "jobs").toArray

def validJobs (document : QJsonValue) : Bool :=
  hasArray document "jobs" && (jobsOf document).all validJob

def jobsDetail (now : QDateTime) (jobs : List QJsonObject) : Insertion where
  insert detail := { detail with
    jobsSummary := some (toString (successfulJobs jobs) ++ "/" ++ toString jobs.length)
    deployStatus := some (deployOf qt now jobs)
    duration := some (ProjectsService.duration detail) }
  loaded _ := ⟨_, _, _, _, rfl⟩

def artifactsOf (document : QJsonValue) : List QJsonValue :=
  (document.toObject.value "artifacts").toArray

def validArtifacts (document : QJsonValue) : Bool :=
  hasArray document "artifacts" && (artifactsOf document).all validArtifact

def artifactsDetail (artifacts : List QJsonObject) : Insertion where
  insert detail := { detail with
    artifactSize := some (bytesText qt (artifactBytes artifacts)) }
  loaded _ := ⟨_, _, _, _, rfl⟩

end Jobs

namespace ProjectsService

variable (qt : QtText)

def panel (service : ProjectsService) : Panel where
  projects := service.projects
  stages := service.stages
  history := service.history
  selectedIndex := service.selectedIndex
  selectedKey := service.selectedKey

/-- The active repositories on a page of the public ones. -/
def activeRepositories (document : QJsonValue) : List Repository :=
  ((document.toArray.map QJsonValue.toObject).filter fun object =>
    !(object.value "archived").toBool).map repositoryOf

/-- The repositories known after a page of the private ones. -/
def addPrivatePage (service : ProjectsService) (accumulated : List Repository)
    (document : QJsonValue) : List Repository :=
  (document.toArray.map QJsonValue.toObject).foldl (service.addPrivate qt) accumulated

/-- The repositories that a reply hands to `loadRuns`. -/
def handed (service : ProjectsService) : Continuation → Outcome → Option (List Repository)
  | .repositories _ repositories, .success _ document =>
    if (document.isArray && document.toArray.all (validRepository · false)) &&
        document.toArray.length ≠ 100 && !service.authenticated then
      some (repositories ++ activeRepositories document)
    else none
  | .privateRepositories _ accumulated, .success _ document =>
    if (document.isArray && document.toArray.all (validRepository · true)) &&
        document.toArray.length ≠ 100 then
      some (service.addPrivatePage qt accumulated document)
    else none
  | .privateRepositories _ accumulated, .failure _ => some accumulated
  | _, _ => none

/-- What a callback adds to what it shares with the others. -/
def collect (qt : QtText) (repository : Repository) (now : QDateTime) :
    Outcome → RunBatch → RunBatch
  | .success _ document => fun shared =>
    { rows := shared.rows ++ (rowOf qt now repository (workflowRuns document)).toList
      failed := shared.failed || !validWorkflowRuns qt document }
  | .failure _ => fun shared => { shared with failed := true }

/-- What the callbacks of a `loadRuns` share after one more reply. -/
def collected (service : ProjectsService) (batch : Nat) (repository : Repository)
    (now : QDateTime) (outcome : Outcome) : RunBatch :=
  (service.runBatches.modify batch (collect qt repository now outcome)).getD batch {}

/-- The rows of a `loadRuns` whose last reply this is, if none has failed. -/
def completed (service : ProjectsService) (now : QDateTime) :
    Continuation → Outcome → Option (List Row)
  | .runs batch repository, .success body document =>
    let shared := service.collected qt batch repository now (.success body document)
    if service.pendingRunRequests - 1 = 0 ∧ shared.failed = false then some shared.rows else none
  | _, _ => none

/-- What a reply changes. -/
def changesOf (service : ProjectsService) (continuation : Continuation) (now : QDateTime)
    (outcome : Outcome) : List Change :=
  match continuation with
  | .repositories _ _ | .privateRepositories _ _ =>
    if service.handed qt continuation outcome = some [] then [.empty] else []
  | .runs _ _ => ((service.completed qt now continuation outcome).map Change.replace).toList
  | .runners _ => []
  | .jobs repository runId =>
    match outcome with
    | .success _ document =>
      if validJobs document then
        let jobs := (jobsOf document).map QJsonValue.toObject
        [.detail repository runId (jobsDetail qt now jobs),
          .cards repository runId (jobCards qt now jobs)]
      else [.clear repository]
    | .failure _ => [.cards repository runId []]
  | .artifacts repository runId =>
    match outcome with
    | .success _ document =>
      if validArtifacts document then
        let artifacts := (artifactsOf document).map QJsonValue.toObject
        [.detail repository runId (artifactsDetail qt artifacts)]
      else []
    | .failure _ => []

def changes (service : ProjectsService) : Event → List Change
  | .refresh => []
  | .selectProject index => [.select index]
  | .finished index reply now =>
    match service.inFlight[index]? with
    | none => []
    | some started =>
      service.changesOf qt started.request.continuation now
        (service.outcomeOf qt (qt.urlText started.request.url) reply)

end ProjectsService

end RpiDashboard.Projects
