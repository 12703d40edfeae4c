import Mathlib.Data.Finset.Card
import RpiDashboard.Data.Keyed
import RpiDashboard.Data.Run
import RpiDashboard.Projects.ProjectsListModel

/-! The projects service (`projects/projects_service.cpp`).  A callback given to `request` is
a constructor of `Continuation` with what the lambda captures. -/

namespace RpiDashboard.Projects

open Qt

inductive Continuation
  | repositories : Nat → List Repository → Continuation
  | privateRepositories : Nat → List Repository → Continuation
  | runs : Nat → Repository → Continuation
  | runners : Nat → Continuation
  | jobs : QString → Int64 → Continuation
  | artifacts : QString → Int64 → Continuation
  deriving DecidableEq

structure Request where
  url : QUrl
  continuation : Continuation
  deriving DecidableEq

structure StartedRequest where
  request : Request
  ifNoneMatch : Option QByteArray
  deriving DecidableEq

/-- A finished reply; a header that is not there is empty, and so is the status. -/
structure Reply where
  error : Bool := false
  status : Int := 200
  etag : QByteArray := []
  body : QByteArray := []
  exceededLimit : Bool := false
  retryAfter : QByteArray := []
  rateLimitRemaining : QByteArray := []
  rateLimitReset : QByteArray := []
  deriving DecidableEq

inductive Outcome
  | success : QByteArray → QJsonValue → Outcome
  | failure : QString → Outcome

inductive ServiceState
  | loading | empty | ready | error
  deriving DecidableEq

/-- What the callbacks of one `loadRuns` share. -/
structure RunBatch where
  rows : List Row := []
  failed : Bool := false

structure Finished where
  started : StartedRequest
  reply : Reply
  outcome : Outcome

/-- A record of what has happened; nothing reads it. -/
inductive Call
  | refresh : Call
  | finishRefresh : Call
  | failRefresh : QString → Call
  | loadRunners : Nat → List QUrl → Call
  | finished : Finished → Call

/-- `inFlight` are the replies of the network that have not finished; `runBatches` and
`runnersFailed` hold what the callbacks of each `loadRuns` and each `loadRunners` share. -/
structure ProjectsService where
  owner : QString
  token : QByteArray
  projects : List Row := []
  stages : List Row := []
  history : List Row := []
  pollInterval : Int := 0
  requests : List Request := []
  inFlight : List StartedRequest := []
  activeRequests : Int := 0
  refreshRequestCount : Int := 0
  pendingRunRequests : Int := 0
  pendingRunnerRequests : Int := 0
  selectedIndex : Int := -1
  selectedKey : QString := ""
  state : ServiceState := .loading
  diagnostics : QString := ""
  lastSuccess : QDateTime := {}
  stale : Bool := false
  countingRefreshRequests : Bool := false
  onlineRunners : Int := -1
  totalRunners : Int := -1
  runnerIds : Finset Int64 := ∅
  onlineRunnerIds : Finset Int64 := ∅
  etags : List (QString × QByteArray) := []
  cachedBodies : List (QString × QByteArray) := []
  runBatches : List RunBatch := []
  runnersFailed : List Bool := []
  calls : List Call := []

def maximumConcurrentRequests : Int := 4
def authenticatedPollMs : Int := 60 * 1000
def anonymousMinimumPollMs : Int := 15 * 60 * 1000
def anonymousRequestBudgetPerHour : Int := 50
def maximumInt : Int := 2147483647

section Interval

def pollIntervalMs (authenticated : Bool) (requestCount : Int) : Int :=
  if authenticated then authenticatedPollMs
  else
    let measuredRequests := max 1 requestCount
    let budgetedInterval :=
      (measuredRequests * (60 * 60 * 1000) + anonymousRequestBudgetPerHour - 1) /
        anonymousRequestBudgetPerHour
    min (max anonymousMinimumPollMs budgetedInterval) maximumInt

def rateLimitBackoffMs (qt : QtText) (reply : Reply) (now : QDateTime) : Int :=
  let delay : Int :=
    if reply.status = 403 ∨ reply.status = 429 then
      match qt.toLongLong reply.retryAfter with
      | some seconds => if 0 < seconds.toInt then min seconds.toInt (maximumInt / 1000) * 1000 else 0
      | none => 0
    else 0
  let current := now.toMSecsSinceEpoch / 1000
  let delay : Int :=
    match qt.toLongLong reply.rateLimitRemaining, qt.toLongLong reply.rateLimitReset with
    | some remaining, some reset =>
      if remaining = 0 ∧ current < reset.toInt then
        max delay (min (reset.toInt - current) (maximumInt / 1000) * 1000)
      else delay
    | _, _ => delay
  min delay maximumInt

end Interval

section Cache

def cached (key : QString) (entries : List (QString × QByteArray)) : Option QByteArray :=
  (Keyed.find Prod.fst key entries).map Prod.snd

def store (key : QString) (value : QByteArray) (entries : List (QString × QByteArray)) :
    List (QString × QByteArray) :=
  (key, value) :: Keyed.erase Prod.fst key entries

end Cache

section Replies

def shouldReadReplyBody (error : Bool) (status : Int) (hasCachedBody : Bool) : Bool :=
  !error && (200 ≤ status && status < 300) && !(status = 304 && hasCachedBody)

/-- The reply is one to read: without error, and new or not modified. -/
def Reply.isAnswer (reply : Reply) : Bool :=
  !reply.exceededLimit && !reply.error &&
    (200 ≤ reply.status && reply.status < 300 || reply.status = 304)

end Replies

namespace ProjectsService

variable (qt : QtText)

section Requests

def start (service : ProjectsService) (pending : Request) : ProjectsService :=
  { service with
    inFlight := service.inFlight ++ [⟨pending, cached (qt.urlText pending.url) service.etags⟩]
    refreshRequestCount :=
      if service.countingRefreshRequests then service.refreshRequestCount + 1
      else service.refreshRequestCount
    activeRequests := service.activeRequests + 1 }

/-- The loop of `startRequests` over what is left of the queue. -/
def startLoop (service : ProjectsService) : List Request → ProjectsService
  | [] => { service with requests := [] }
  | pending :: rest =>
    if service.activeRequests < maximumConcurrentRequests then
      startLoop (service.start qt pending) rest
    else { service with requests := pending :: rest }

def startRequests (service : ProjectsService) : ProjectsService :=
  service.startLoop qt service.requests

def request (service : ProjectsService) (pending : Request) : ProjectsService :=
  { service with requests := service.requests ++ [pending] }.startRequests qt

end Requests

section Refresh

def authenticated (service : ProjectsService) : Bool := service.token ≠ []

def setState (service : ProjectsService) (state : ServiceState) (diagnostics : QString) :
    ProjectsService :=
  { service with state, diagnostics }

def selectedRow (service : ProjectsService) : Option Row :=
  if 0 ≤ service.selectedIndex then service.projects[service.selectedIndex.toNat]? else none

def runnersUrl (key : QString) : QUrl :=
  ⟨"https://api.github.com/repos/" ++ key ++ "/actions/runners?per_page=100", []⟩

/-- The requests of `loadRunners`: none without a token. -/
def runnerUrls (service : ProjectsService) : List QUrl :=
  if service.authenticated then service.projects.map fun row => runnersUrl row.key else []

def resetRunners (service : ProjectsService) : ProjectsService :=
  { service with
    onlineRunners := -1
    totalRunners := -1
    runnerIds := ∅
    onlineRunnerIds := ∅
    runnersFailed := service.runnersFailed ++ [false]
    calls := service.calls ++ [Call.loadRunners service.runnersFailed.length service.runnerUrls] }

def loadRunners (service : ProjectsService) : ProjectsService :=
  let batch := service.runnersFailed.length
  let urls := service.runnerUrls
  if urls.isEmpty then service.resetRunners
  else
    urls.foldl (fun service url => service.request qt ⟨url, .runners batch⟩)
      { service.resetRunners with pendingRunnerRequests := urls.length }

/-- `finishRefresh` up to the runners. -/
def refreshed (service : ProjectsService) (now : QDateTime) : ProjectsService :=
  let service := { service with
    lastSuccess := now
    stale := false
    countingRefreshRequests := false
    pollInterval := pollIntervalMs service.authenticated service.refreshRequestCount
    calls := service.calls ++ [Call.finishRefresh] }
  service.setState (if service.projects.isEmpty then .empty else .ready) ""

def finishRefresh (service : ProjectsService) (now : QDateTime) : ProjectsService :=
  (service.refreshed now).loadRunners qt

def failRefresh (service : ProjectsService) (diagnostic : QString) : ProjectsService :=
  let service := { service with
    countingRefreshRequests := false
    stale := !service.projects.isEmpty
    calls := service.calls ++ [Call.failRefresh diagnostic] }
  service.setState (if service.stale then .ready else .error) diagnostic

def repositoriesUrl (service : ProjectsService) (page : Nat) : QUrl :=
  ⟨"https://api.github.com/users/" ++ service.owner ++ "/repos",
    [("per_page", "100"), ("page", toString page), ("type", "owner")]⟩

def privateRepositoriesUrl (page : Nat) : QUrl :=
  ⟨"https://api.github.com/user/repos",
    [("per_page", "100"), ("page", toString page), ("affiliation", "owner")]⟩

def runsUrl (repository : Repository) : QUrl :=
  ⟨"https://api.github.com/repos/" ++ repository.key ++ "/actions/runs",
    [("branch", repository.branch), ("per_page", "20")]⟩

def discoverRepositories (service : ProjectsService) (page : Nat)
    (repositories : List Repository) : ProjectsService :=
  service.request qt ⟨service.repositoriesUrl page, .repositories page repositories⟩

def discoverPrivateRepositories (service : ProjectsService) (page : Nat)
    (repositories : List Repository) : ProjectsService :=
  service.request qt ⟨privateRepositoriesUrl page, .privateRepositories page repositories⟩

def refresh (service : ProjectsService) : ProjectsService :=
  if service.state = .loading ∧ 0 < service.activeRequests then service
  else
    let service := { service with
      refreshRequestCount := 0
      countingRefreshRequests := true
      calls := service.calls ++ [Call.refresh] }
    (service.setState .loading "").discoverRepositories qt 1 []

def loadRuns (service : ProjectsService) (repositories : List Repository) (now : QDateTime) :
    ProjectsService :=
  if repositories.isEmpty then { service with projects := [] }.finishRefresh qt now
  else
    let batch := service.runBatches.length
    let service := { service with
      pendingRunRequests := repositories.length
      runBatches := service.runBatches ++ [{}] }
    repositories.foldl (fun service repository =>
      service.request qt ⟨runsUrl repository, .runs batch repository⟩) service

end Refresh

section Details

def jobsUrl (repository : QString) (runId : Int64) : QUrl :=
  ⟨"https://api.github.com/repos/" ++ repository ++ "/actions/runs/" ++ toString runId.toInt ++
    "/jobs?per_page=100", []⟩

def artifactsUrl (repository : QString) (runId : Int64) : QUrl :=
  ⟨"https://api.github.com/repos/" ++ repository ++ "/actions/runs/" ++ toString runId.toInt ++
    "/artifacts?per_page=100", []⟩

def historyRow (entry : HistoryEntry) : Row where
  key := toString entry.number
  health := entry.health

def loadSelectedDetails (service : ProjectsService) : ProjectsService :=
  match service.selectedRow with
  | none => { service with stages := [], history := [] }
  | some row =>
    let service := { service with history := row.detail.history.map historyRow }
    let service := service.request qt ⟨jobsUrl row.key row.detail.runId, .jobs row.key row.detail.runId⟩
    service.request qt ⟨artifactsUrl row.key row.detail.runId, .artifacts row.key row.detail.runId⟩

def selectProject (service : ProjectsService) (index : Int) : ProjectsService :=
  if index < 0 ∨ service.projects.length ≤ index ∨ index = service.selectedIndex then service
  else
    let service := { service with selectedIndex := index }
    let service := { service with selectedKey := (service.selectedRow.map Row.key).getD "" }
    service.loadSelectedDetails qt

/-- The selected row is still the one that a request was made for. -/
def shows (service : ProjectsService) (repository : QString) (runId : Int64) : Bool :=
  service.selectedKey = repository && service.selectedRow.any fun row => row.detail.runId = runId

/-- Adds details to the row of a repository, if it is still of the same run. -/
def insertDetail (service : ProjectsService) (repository : QString) (runId : Int64)
    (insert : Detail → Detail) : ProjectsService :=
  { service with
    projects := Keyed.modify Row.key repository (fun row =>
      if row.detail.runId = runId then { row with detail := insert row.detail } else row)
      service.projects }

def duration (detail : Detail) : QString :=
  if detail.createdAt.isValid && detail.updatedAt.isValid then
    toString ((detail.createdAt.secsTo detail.updatedAt).tdiv 60) ++ "m"
  else ""

def jobsSucceed (service : ProjectsService) (repository : QString) (runId : Int64)
    (document : QJsonValue) (now : QDateTime) : ProjectsService :=
  let jobs := (document.toObject.value "jobs").toArray
  if hasArray document "jobs" && jobs.all validJob then
    let jobs := jobs.map QJsonValue.toObject
    let service := service.insertDetail repository runId fun detail => { detail with
      jobsSummary := some (toString (successfulJobs jobs) ++ "/" ++ toString jobs.length)
      deployStatus := some (deployOf qt now jobs)
      duration := some (duration detail) }
    if service.shows repository runId then { service with stages := jobCards qt now jobs }
    else service
  else if service.selectedKey = repository then { service with stages := [] }
  else service

def artifactsSucceed (service : ProjectsService) (repository : QString) (runId : Int64)
    (document : QJsonValue) : ProjectsService :=
  let artifacts := (document.toObject.value "artifacts").toArray
  if hasArray document "artifacts" && artifacts.all validArtifact then
    service.insertDetail repository runId fun detail => { detail with
      artifactSize := some (bytesText qt (artifactBytes (artifacts.map QJsonValue.toObject))) }
  else service

end Details

section Callbacks

def repositoriesSucceed (service : ProjectsService) (page : Nat) (repositories : List Repository)
    (document : QJsonValue) (now : QDateTime) : ProjectsService :=
  let array := document.toArray
  if document.isArray && array.all (validRepository · false) then
    let objects := array.map QJsonValue.toObject
    let active := objects.filter fun object => !(object.value "archived").toBool
    let repositories := repositories ++ active.map repositoryOf
    if array.length = 100 then service.discoverRepositories qt (page + 1) repositories
    else if service.authenticated then service.discoverPrivateRepositories qt 1 repositories
    else service.loadRuns qt repositories now
  else service.failRefresh "GitHub returned invalid repository data"

/-- A private repository of the owner that is not known yet is added. -/
def addPrivate (service : ProjectsService) (accumulated : List Repository) (object : QJsonObject) :
    List Repository :=
  if (object.value "archived").toBool ||
      !qt.sameLetters ((object.value "owner").toObject.value "login").toString service.owner ||
      accumulated.any fun known => known.key = (object.value "full_name").toString then accumulated
  else accumulated ++ [repositoryOf object]

def privateRepositoriesSucceed (service : ProjectsService) (page : Nat)
    (accumulated : List Repository) (document : QJsonValue) (now : QDateTime) : ProjectsService :=
  let array := document.toArray
  if document.isArray && array.all (validRepository · true) then
    let accumulated := (array.map QJsonValue.toObject).foldl (service.addPrivate qt) accumulated
    if array.length = 100 then service.discoverPrivateRepositories qt (page + 1) accumulated
    else service.loadRuns qt accumulated now
  else service.failRefresh "GitHub returned invalid private repository data"

/-- The last row with the key that was selected, the first row if there is none. -/
def indexOfKey (rows : List Row) (key : QString) : Nat :=
  rows.zipIdx.foldl (fun selected (row, index) => if row.key = key then index else selected) 0

/-- The rows of a refresh take the place of the ones before, and the selection stays on its key. -/
def showProjects (service : ProjectsService) (rows : List Row) : ProjectsService :=
  let rows := retainLoadedProjectDetails (sortProjectsByLatestExecution rows) service.projects
  let service := { service with
    projects := rows, selectedIndex := indexOfKey rows service.selectedKey }
  { service with selectedKey := (service.selectedRow.map Row.key).getD "" }

def replaceProjects (service : ProjectsService) (rows : List Row) (now : QDateTime) :
    ProjectsService :=
  ((service.showProjects rows).finishRefresh qt now).loadSelectedDetails qt

def updateBatch (service : ProjectsService) (batch : Nat) (update : RunBatch → RunBatch) :
    ProjectsService :=
  { service with
    runBatches := service.runBatches.modify batch update
    pendingRunRequests := service.pendingRunRequests - 1 }

def runsSucceed (service : ProjectsService) (batch : Nat) (repository : Repository)
    (document : QJsonValue) (now : QDateTime) : ProjectsService :=
  let service := service.updateBatch batch fun shared =>
    { rows := shared.rows ++ (rowOf qt now repository (workflowRuns document)).toList
      failed := shared.failed || !validWorkflowRuns qt document }
  if service.pendingRunRequests = 0 then
    let shared := service.runBatches.getD batch {}
    if shared.failed then service.failRefresh "GitHub returned invalid workflow run data"
    else service.replaceProjects qt shared.rows now
  else service

def runsFail (service : ProjectsService) (batch : Nat) (error : QString) : ProjectsService :=
  let service := service.updateBatch batch fun shared => { shared with failed := true }
  if service.pendingRunRequests = 0 then service.failRefresh error else service

def insertRunner (service : ProjectsService) (runner : QJsonValue) : ProjectsService :=
  if validRunner runner then
    { service with
      runnerIds := insert (runnerId runner) service.runnerIds
      onlineRunnerIds :=
        if runnerOnline runner then insert (runnerId runner) service.onlineRunnerIds
        else service.onlineRunnerIds }
  else service

def runnersSucceed (service : ProjectsService) (batch : Nat) (document : QJsonValue) :
    ProjectsService :=
  let service := (runnersOf document).foldl insertRunner service
  let service := { service with
    runnersFailed := service.runnersFailed.modify batch (· || !validRunners document)
    pendingRunnerRequests := service.pendingRunnerRequests - 1 }
  if service.pendingRunnerRequests = 0 && !service.runnersFailed.getD batch false then
    { service with
      totalRunners := service.runnerIds.card
      onlineRunners := service.onlineRunnerIds.card }
  else service

def runnersFail (service : ProjectsService) (batch : Nat) : ProjectsService :=
  { service with
    runnersFailed := service.runnersFailed.modify batch fun _ => true
    pendingRunnerRequests := service.pendingRunnerRequests - 1 }

def succeed (service : ProjectsService) (document : QJsonValue) (now : QDateTime) :
    Continuation → ProjectsService
  | .repositories page repositories =>
    service.repositoriesSucceed qt page repositories document now
  | .privateRepositories page accumulated =>
    service.privateRepositoriesSucceed qt page accumulated document now
  | .runs batch repository => service.runsSucceed qt batch repository document now
  | .runners batch => service.runnersSucceed batch document
  | .jobs repository runId => service.jobsSucceed qt repository runId document now
  | .artifacts repository runId => service.artifactsSucceed qt repository runId document

def fail (service : ProjectsService) (error : QString) (now : QDateTime) :
    Continuation → ProjectsService
  | .repositories _ _ => service.failRefresh error
  | .privateRepositories _ accumulated => service.loadRuns qt accumulated now
  | .runs batch _ => service.runsFail batch error
  | .runners batch => service.runnersFail batch
  | .jobs repository runId =>
    if service.shows repository runId then { service with stages := [] } else service
  | .artifacts _ _ => service

def deliver (service : ProjectsService) (continuation : Continuation) (now : QDateTime) :
    Outcome → ProjectsService
  | .success _ document => service.succeed qt document now continuation
  | .failure error => service.fail qt error now continuation

end Callbacks

section Replies

def bodyOf (service : ProjectsService) (key : QString) (reply : Reply) : QByteArray :=
  match cached key service.cachedBodies with
  | some body =>
    if reply.status = 304 then body
    else if shouldReadReplyBody reply.error reply.status true then reply.body else []
  | none => if shouldReadReplyBody reply.error reply.status false then reply.body else []

def outcomeOf (service : ProjectsService) (key : QString) (reply : Reply) : Outcome :=
  if reply.isAnswer then
    let body := service.bodyOf key reply
    match qt.fromJson body with
    | some document => .success body document
    | none => .failure "GitHub returned malformed JSON"
  else if reply.exceededLimit then .failure "GitHub response exceeded 4 MiB"
  else .failure ("GitHub request failed (" ++ toString reply.status ++ ")")

/-- The tag of an answer is kept with its body. -/
def remember (service : ProjectsService) (key : QString) (reply : Reply) :
    Outcome → ProjectsService
  | .success body _ =>
    if reply.etag = [] then service
    else { service with
      etags := store key reply.etag service.etags
      cachedBodies := store key body service.cachedBodies }
  | .failure _ => service

def backOff (service : ProjectsService) (reply : Reply) (now : QDateTime) : ProjectsService :=
  let delay := rateLimitBackoffMs qt reply now
  if reply.isAnswer || reply.exceededLimit || delay ≤ 0 then service
  else { service with pollInterval := max service.pollInterval delay }

/-- The bookkeeping of a finished request, before its callback. -/
def settle (service : ProjectsService) (index : Nat) (started : StartedRequest) (reply : Reply)
    (now : QDateTime) : ProjectsService :=
  let key := qt.urlText started.request.url
  let outcome := service.outcomeOf qt key reply
  let service := { service with
    activeRequests := service.activeRequests - 1
    inFlight := service.inFlight.eraseIdx index
    calls := service.calls ++ [Call.finished ⟨started, reply, outcome⟩] }
  (service.remember key reply outcome).backOff qt reply now

/-- The handler of `finished`, for the request at this place in flight. -/
def finished (service : ProjectsService) (index : Nat) (reply : Reply) (now : QDateTime) :
    ProjectsService :=
  match service.inFlight[index]? with
  | none => service
  | some started =>
    let outcome := service.outcomeOf qt (qt.urlText started.request.url) reply
    let service := service.settle qt index started reply now
    (service.deliver qt started.request.continuation now outcome).startRequests qt

end Replies

/-- The constructor. -/
def initial (owner : QString) (token : QByteArray) : ProjectsService where
  owner := owner
  token := token
  pollInterval := pollIntervalMs (token ≠ []) 0

/-- A tick of the poll timer and the first refresh of the constructor are refreshes. -/
inductive Event
  | refresh : Event
  | selectProject : Int → Event
  | finished : Nat → Reply → QDateTime → Event

def step (service : ProjectsService) : Event → ProjectsService
  | .refresh => service.refresh qt
  | .selectProject index => service.selectProject qt index
  | .finished index reply now => service.finished qt index reply now

end ProjectsService

end RpiDashboard.Projects
