import Mathlib.Data.List.Sort
import RpiDashboard.Numeric.Arithmetic
import RpiDashboard.Projects.ProjectHealth

/-! The rows of the project, stage and history lists, and how the replies of GitHub are read
into them (`projects/projects_service.cpp`). -/

namespace RpiDashboard.Projects

open Numeric Qt

structure HistoryEntry where
  health : QString
  successful : Bool
  number : Int
  deriving DecidableEq

/-- The details of a row.  The last four are there once they have been loaded; `runId` is
kept as the integer that every reader converts it to. -/
structure Detail where
  runId : Int64 := 0
  revision : QString := ""
  runLabel : QString := ""
  updatedAt : QDateTime := {}
  createdAt : QDateTime := {}
  history : List HistoryEntry := []
  duration : Option QString := none
  jobsSummary : Option QString := none
  artifactSize : Option QString := none
  deployStatus : Option QString := none
  deriving DecidableEq

structure Row where
  key : QString
  name : QString := ""
  branch : QString := ""
  age : QString := ""
  health : QString := ""
  status : QString := ""
  detail : Detail := {}
  deriving DecidableEq

structure Repository where
  key : QString
  name : QString
  branch : QString
  deriving DecidableEq

section Time

def ageText (timestamp now : QDateTime) : QString :=
  if timestamp.isValid then
    let minutes := (timestamp.secsTo now).tdiv 60
    if minutes < 60 then toString (max 0 minutes) ++ "m ago"
    else if minutes < 1440 then toString (minutes / 60) ++ "h ago"
    else toString (minutes / 1440) ++ "d ago"
  else ""

def bytesText (qt : QtText) (bytes : Int64) : QString :=
  let bytes := bytes.toInt
  if bytes < 1024 then toString bytes ++ " B"
  else if bytes < 1024 * 1024 then
    qt.fixed ((Double.ofInt bytes).div (.ofInt 1024)) 1 ++ " KiB"
  else qt.fixed ((Double.ofInt bytes).div (.ofInt (1024 * 1024))) 1 ++ " MiB"

def date (qt : QtText) (value : QJsonValue) : QDateTime := qt.fromIsoDate value.toString

end Time

section Payload

def hasArray (document : QJsonValue) (name : QString) : Bool :=
  document.isObject && (document.toObject.value name).isArray

def validRepository (value : QJsonValue) (requireOwner : Bool) : Bool :=
  let object := value.toObject
  let named (key : QString) : Bool :=
    (object.value key).isString && (object.value key).toString ≠ ""
  value.isObject && named "full_name" && named "name" && named "default_branch" &&
    (object.value "archived").isBool &&
    (!requireOwner || (object.value "owner").isObject &&
      ((object.value "owner").toObject.value "login").isString)

def repositoryOf (object : QJsonObject) : Repository where
  key := (object.value "full_name").toString
  name := (object.value "name").toString
  branch := (object.value "default_branch").toString

def conclusionHealth (qt : QtText) (now : QDateTime) (object : QJsonObject) : QString :=
  healthKey (healthForRun (object.value "status").toString (object.value "conclusion").toString
    (date qt (object.value "updated_at")) now)

def isDeployName (qt : QtText) (name : QString) : Bool :=
  let lower := qt.toLower name
  contains lower "deploy" || contains lower "release" || contains lower "publish"

def validRun (qt : QtText) (value : QJsonValue) : Bool :=
  value.isObject && (value.toObject.value "id").isDouble &&
    (value.toObject.value "run_number").isDouble &&
    (date qt (value.toObject.value "updated_at")).isValid

def workflowRuns (document : QJsonValue) : List QJsonValue :=
  (document.toObject.value "workflow_runs").toArray

/-- A payload that does not set the failure flag of its refresh. -/
def validWorkflowRuns (qt : QtText) (document : QJsonValue) : Bool :=
  hasArray document "workflow_runs" && (workflowRuns document).all (validRun qt)

def historyEntry (qt : QtText) (now : QDateTime) (run : QJsonObject) : HistoryEntry where
  health := conclusionHealth qt now run
  successful := (run.value "conclusion").toString = "success"
  number := (run.value "run_number").toInt

/-- The row of a repository, from its runs, the latest first. -/
def rowOf (qt : QtText) (now : QDateTime) (repository : Repository) (runs : List QJsonValue) :
    Option Row :=
  match runs with
  | [] => none
  | first :: _ =>
    let latest := first.toObject
    let updated := date qt (latest.value "updated_at")
    some {
      key := repository.key
      name := repository.name
      branch := repository.branch
      age := ageText updated now
      health := conclusionHealth qt now latest
      status := (latest.value "status").toString
      detail := {
        runId := (latest.value "id").toLongLong
        revision := truncate (latest.value "head_sha").toString 7
        runLabel := "#" ++ toString (latest.value "run_number").toInt
        updatedAt := updated
        createdAt := date qt (latest.value "created_at")
        history := runs.map fun run => historyEntry qt now run.toObject } }

def validRunner (value : QJsonValue) : Bool :=
  value.isObject && (value.toObject.value "id").isDouble &&
    (value.toObject.value "status").isString

def runnersOf (document : QJsonValue) : List QJsonValue :=
  (document.toObject.value "runners").toArray

/-- A payload that does not set the failure flag of its `loadRunners`. -/
def validRunners (document : QJsonValue) : Bool :=
  hasArray document "runners" && (runnersOf document).all validRunner

def runnerId (value : QJsonValue) : Int64 := (value.toObject.value "id").toInteger

def runnerOnline (value : QJsonValue) : Bool :=
  (value.toObject.value "status").toString = "online"

def validJob (value : QJsonValue) : Bool :=
  value.isObject && (value.toObject.value "name").isString &&
    (value.toObject.value "status").isString

def validArtifact (value : QJsonValue) : Bool :=
  value.isObject && (value.toObject.value "expired").isBool &&
    (value.toObject.value "size_in_bytes").isDouble

end Payload

section Order

/-- The comparison of `sortProjectsByLatestExecution`. -/
def earlier (left right : Row) : Bool :=
  if left.detail.updatedAt.same right.detail.updatedAt then QString.lt left.key right.key
  else right.detail.updatedAt.lt left.detail.updatedAt

def sortProjectsByLatestExecution (rows : List Row) : List Row :=
  rows.insertionSort fun left right => !earlier right left

def retain (loaded previous : Option QString) : Option QString :=
  if previous.isSome then previous else loaded

/-- The details loaded for the row before are kept until they are loaded anew. -/
def retainLoadedProjectDetails (refreshed previous : List Row) : List Row :=
  refreshed.map fun row =>
    match previous.find? fun before => before.key = row.key with
    | none => row
    | some before =>
      { row with detail := { row.detail with
          duration := retain row.detail.duration before.detail.duration
          jobsSummary := retain row.detail.jobsSummary before.detail.jobsSummary
          artifactSize := retain row.detail.artifactSize before.detail.artifactSize
          deployStatus := retain row.detail.deployStatus before.detail.deployStatus } }

end Order

section Jobs

/-- The health texts from the worst on. -/
def ranks : List QString := ["failed", "attention", "running", "stale", "unknown", "healthy"]

def worse (health candidate : QString) : QString :=
  if ranks.idxOf candidate < ranks.idxOf health then candidate else health

def jobCard (qt : QtText) (now : QDateTime) (index : Nat) (job : QJsonObject) : Row where
  key := toString index
  name := (job.value "name").toString
  health := conclusionHealth qt now job
  status := (job.value "status").toString

/-- The cards of the stages: up to four jobs, or three and one for all the others. -/
def jobCards (qt : QtText) (now : QDateTime) (jobs : List QJsonObject) : List Row :=
  let shown := if jobs.length ≤ 4 then jobs else jobs.take 3
  let cards := shown.zipIdx.map fun (job, index) => jobCard qt now index job
  if jobs.length ≤ 4 then cards
  else cards ++ [{
    key := "more"
    name := "+" ++ toString (jobs.length - 3) ++ " jobs"
    health := (jobs.drop 3).foldl (fun worst job => worse worst (conclusionHealth qt now job))
      "healthy" }]

def successfulJobs (jobs : List QJsonObject) : Nat :=
  jobs.countP fun job => (job.value "conclusion").toString = "success"

/-- The health of the last job on a card that is a deployment. -/
def deployOf (qt : QtText) (now : QDateTime) (jobs : List QJsonObject) : QString :=
  let shown := if jobs.length ≤ 4 then jobs else jobs.take 3
  shown.foldl (fun deploy job =>
    if isDeployName qt (job.value "name").toString then conclusionHealth qt now job else deploy) "—"

/-- The bytes of the artifacts that have not expired, in 64 bits. -/
def artifactBytes (artifacts : List QJsonObject) : Int64 :=
  artifacts.foldl (fun bytes artifact =>
    if (artifact.value "expired").toBool then bytes
    else bytes + (artifact.value "size_in_bytes").toInteger) 0

end Jobs

end RpiDashboard.Projects
