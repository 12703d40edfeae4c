import RpiDashboard.Data.Least
import RpiDashboard.Projects.LateReplyLaws

/-! What the cards of the stages say about all jobs of a run. -/

namespace RpiDashboard.Projects

open Qt

section Loops

variable (qt : QtText) (now : QDateTime) (jobs : List QJsonObject)

/-- What the loop over the shown jobs carries. -/
structure StageLoop where
  cards : List Row := []
  successful : Nat := 0
  deploy : QString := "—"

def successOf (job : QJsonObject) : Nat :=
  if (job.value "conclusion").toString = "success" then 1 else 0

def shownCount (jobCount : Nat) : Nat := if jobCount ≤ 4 then jobCount else min 3 jobCount

def showJob (loop : StageLoop) (index : Nat) (job : QJsonObject) : StageLoop where
  cards := loop.cards ++ [jobCard qt now index job]
  successful := loop.successful + successOf job
  deploy := if isDeployName qt (job.value "name").toString then conclusionHealth qt now job
    else loop.deploy

/-- The first loop. -/
def shownLoop : StageLoop :=
  (List.range (shownCount jobs.length)).foldl
    (fun loop index => showJob qt now loop index (jobs.getD index [])) {}

/-- The second loop, over the jobs that have no card. -/
def successfulLoop : Nat :=
  (List.range' (shownCount jobs.length) (jobs.length - shownCount jobs.length)).foldl
    (fun successful index => successful + successOf (jobs.getD index []))
    (shownLoop qt now jobs).successful

/-- The third loop, from the fourth job on. -/
def hiddenHealth : QString :=
  (List.range' 3 (jobs.length - 3)).foldl
    (fun worst index => worse worst (conclusionHealth qt now (jobs.getD index []))) "healthy"

def stageCards : List Row :=
  if 4 < jobs.length then (shownLoop qt now jobs).cards ++ [{
    key := "more"
    name := "+" ++ toString (jobs.length - 3) ++ " jobs"
    health := hiddenHealth qt now jobs }]
  else (shownLoop qt now jobs).cards

end Loops

section Indices

variable {qt : QtText} {now : QDateTime} {jobs : List QJsonObject} {σ : Type}

/-- A loop over indices from one on goes over the jobs from there on. -/
theorem foldl_range' (step : σ → QJsonObject → σ) (state : σ) (start : Nat) :
    (List.range' start (jobs.length - start)).foldl
      (fun state index => step state (jobs.getD index [])) state =
      (jobs.drop start).foldl step state := by
  have hmap : (List.range' start (jobs.length - start)).map (jobs.getD · []) = jobs.drop start := by
    refine List.ext_getElem (by simp) fun i hi hi' => ?_
    simp at hi hi'
    simp [List.getD_eq_getElem?_getD, List.getElem?_eq_getElem (l := jobs) (i := start + i) (by omega)]
  rw [← hmap, List.foldl_map]

theorem foldl_range (step : σ → Nat → QJsonObject → σ) (state : σ) {count : Nat}
    (hcount : count ≤ jobs.length) :
    (List.range count).foldl (fun state index => step state index (jobs.getD index [])) state =
      (jobs.take count).zipIdx.foldl (fun state job => step state job.2 job.1) state := by
  have hmap : (List.range count).map (fun index => (jobs.getD index [], index)) =
      (jobs.take count).zipIdx := by
    refine List.ext_getElem (by simp [hcount]) fun i hi hi' => ?_
    simp at hi hi'
    simp [List.getD_eq_getElem?_getD, List.getElem?_eq_getElem (l := jobs) (i := i) (by omega)]
  rw [← hmap, List.foldl_map]

theorem successfulJobs_cons (job : QJsonObject) :
    successfulJobs (job :: jobs) = successOf job + successfulJobs jobs := by
  rw [successfulJobs, List.countP_cons, Nat.add_comm]
  simp [successOf, successfulJobs]

theorem foldl_showJob (loop : StageLoop) (start : Nat) :
    (jobs.zipIdx start).foldl (fun loop job => showJob qt now loop job.2 job.1) loop = {
      cards := loop.cards ++ (jobs.zipIdx start).map fun (job, index) => jobCard qt now index job
      successful := loop.successful + successfulJobs jobs
      deploy := jobs.foldl (fun deploy job => if isDeployName qt (job.value "name").toString then
        conclusionHealth qt now job else deploy) loop.deploy } := by
  induction jobs generalizing loop start with
  | nil => simp [successfulJobs]
  | cons job jobs ih =>
    rw [List.zipIdx_cons, List.foldl_cons, ih, successfulJobs_cons]
    simp [showJob, Nat.add_assoc]

theorem foldl_successful (successful : Nat) : jobs.foldl
    (fun successful job => successful + successOf job) successful =
      successful + successfulJobs jobs := by
  induction jobs generalizing successful with
  | nil => rfl
  | cons job jobs ih => rw [List.foldl_cons, ih, successfulJobs_cons, Nat.add_assoc]

theorem take_shownCount :
    jobs.take (shownCount jobs.length) = if jobs.length ≤ 4 then jobs else jobs.take 3 := by
  rw [shownCount]
  split
  · exact List.take_length
  · rw [Nat.min_eq_left (by omega)]

theorem shownCount_le : shownCount jobs.length ≤ jobs.length := by
  rw [shownCount]
  split <;> omega

theorem shownLoop_eq : shownLoop qt now jobs = {
    cards := (jobs.take (shownCount jobs.length)).zipIdx.map fun (job, index) =>
      jobCard qt now index job
    successful := successfulJobs (jobs.take (shownCount jobs.length))
    deploy := deployOf qt now jobs } := by
  rw [shownLoop, foldl_range _ _ shownCount_le, foldl_showJob, deployOf, take_shownCount]
  simp

/-- The three loops make the cards, the count and the deployment that the service shows. -/
theorem loops_eq (qt : QtText) (now : QDateTime) (jobs : List QJsonObject) :
    stageCards qt now jobs = jobCards qt now jobs ∧
    successfulLoop qt now jobs = successfulJobs jobs ∧
    (shownLoop qt now jobs).deploy = deployOf qt now jobs := by
  refine ⟨?_, ?_, by rw [shownLoop_eq]⟩
  · have hhidden : hiddenHealth qt now jobs =
        (jobs.drop 3).foldl (fun worst job => worse worst (conclusionHealth qt now job)) "healthy" :=
      foldl_range' (fun worst job => worse worst (conclusionHealth qt now job)) "healthy" 3
    rw [stageCards, jobCards, shownLoop_eq, hhidden, take_shownCount]
    by_cases hfew : jobs.length ≤ 4
    · simp [hfew, Nat.not_lt.mpr hfew]
    · simp [hfew, Nat.not_le.mp hfew]
  · rw [successfulLoop, foldl_range' (fun successful job => successful + successOf job),
      foldl_successful, shownLoop_eq]
    simp only [successfulJobs, ← List.countP_append, List.take_append_drop]

end Indices

section Summary

variable {qt : QtText} {now : QDateTime} {jobs : List QJsonObject}

def rankOf (health : QString) : Nat := ranks.idxOf health

/-- The worst of some health texts. -/
def Worst (healths : List QString) (health : QString) : Prop := Least rankOf healths health

/-- How many jobs have a card of their own. -/
def direct (jobCount : Nat) : Nat := if jobCount ≤ 4 then jobCount else 3

/-- What a list of cards says about the jobs. -/
structure Summarises (qt : QtText) (now : QDateTime) (jobs : List QJsonObject)
    (cards : List Row) : Prop where
  count : cards.length = min jobs.length 4
  shown : ∀ index < direct jobs.length, ∃ card job,
    cards[index]? = some card ∧ jobs[index]? = some job ∧
      card.name = (job.value "name").toString ∧ card.status = (job.value "status").toString ∧
      card.health = conclusionHealth qt now job
  hidden : 4 < jobs.length → ∃ card, cards[3]? = some card ∧
    card.name = "+" ++ toString (jobs.length - 3) ++ " jobs" ∧
    Worst ((jobs.drop 3).map (conclusionHealth qt now)) card.health
  worst : ∀ health, Worst (cards.map Row.health) health ↔
    Worst (jobs.map (conclusionHealth qt now)) health

theorem conclusionHealth_mem (qt : QtText) (now : QDateTime) (job : QJsonObject) : conclusionHealth qt now job ∈ ranks := by
  have hkey : ∀ health, healthKey health ∈ ranks := by
    intro health
    cases health <;> decide
  exact hkey _

theorem ranks_injOn {healths : List QString} (h : ∀ health ∈ healths, health ∈ ranks) :
    Set.InjOn rankOf {health | health ∈ healths} := by
  intro a ha b hb hab
  exact (List.idxOf_inj (h a ha)).mp hab

/-- From `healthy` on, the loop finds the worst of the jobs, if there is one. -/
theorem worst_foldl (qt : QtText) (now : QDateTime) (hne : jobs ≠ []) : Worst (jobs.map (conclusionHealth qt now))
    (jobs.foldl (fun worst job => worse worst (conclusionHealth qt now job)) "healthy") := by
  have hworse : worse = lesser rankOf := rfl
  have hfold : jobs.foldl (fun worst job => worse worst (conclusionHealth qt now job)) "healthy" =
      (jobs.map (conclusionHealth qt now)).foldl (lesser rankOf) "healthy" := by
    rw [List.foldl_map, hworse]
  have hmem : ∀ health ∈ jobs.map (conclusionHealth qt now), health ∈ ranks :=
    List.forall_mem_map.mpr fun job _ => conclusionHealth_mem qt now job
  obtain ⟨hworst, hle⟩ := least_foldl rankOf "healthy"
    (jobs.map (conclusionHealth qt now))
  rw [hfold]
  refine ⟨?_, (List.forall_mem_cons.mp hle).2⟩
  rcases List.mem_cons.mp hworst with hhealthy | hworst
  · obtain ⟨job, rest, rfl⟩ := List.exists_cons_of_ne_nil hne
    have hfirst : conclusionHealth qt now job ∈ (job :: rest).map (conclusionHealth qt now) :=
      List.mem_map_of_mem List.mem_cons_self
    have hlast : rankOf (conclusionHealth qt now job) < 6 :=
      List.idxOf_lt_length_of_mem (hmem _ hfirst)
    have hrank := hle _ (List.mem_cons_of_mem _ hfirst)
    have hfive : rankOf "healthy" = 5 := by decide
    rw [hhealthy, hfive] at hrank
    have hsame : rankOf (conclusionHealth qt now job) = rankOf "healthy" := by
      rw [hfive]
      omega
    have heq : conclusionHealth qt now job = "healthy" :=
      (List.idxOf_inj (hmem _ hfirst)).mp hsame
    rwa [hhealthy, ← heq]
  · exact hworst

theorem map_health_cards : (jobs.zipIdx.map fun (job, index) => jobCard qt now index job).map
    Row.health = jobs.map (conclusionHealth qt now) := by
  have hfst : jobs.zipIdx.map Prod.fst = jobs := List.zipIdx_map_fst 0 jobs
  rw [List.map_map]
  conv_rhs => rw [← hfst, List.map_map]
  rfl

theorem shown_getElem {index : Nat} (hindex : index < jobs.length) :
    (jobs.zipIdx.map fun (job, index) => jobCard qt now index job)[index]? =
      some (jobCard qt now index jobs[index]) := by
  simp [hindex]

/-- The card of the jobs from the fourth on. -/
def hiddenCard (qt : QtText) (now : QDateTime) (jobs : List QJsonObject) : Row where
  key := "more"
  name := "+" ++ toString (jobs.length - 3) ++ " jobs"
  health := (jobs.drop 3).foldl (fun worst job => worse worst (conclusionHealth qt now job)) "healthy"

theorem summarises_jobCards : Summarises qt now jobs (jobCards qt now jobs) := by
  by_cases hfew : jobs.length ≤ 4
  case pos =>
    have hcards : jobCards qt now jobs =
        jobs.zipIdx.map fun (job, index) => jobCard qt now index job := by
      simp [jobCards, hfew]
    rw [hcards]
    refine ⟨by simp [hfew], fun index hindex => ?_, fun hmany => absurd hfew (by omega),
      fun health => ?_⟩
    · rw [direct, if_pos hfew] at hindex
      exact ⟨_, _, shown_getElem hindex, List.getElem?_eq_getElem hindex, rfl, rfl, rfl⟩
    · rw [map_health_cards]
  case neg =>
    have hcards : jobCards qt now jobs =
        ((jobs.take 3).zipIdx.map fun (job, index) => jobCard qt now index job) ++
          [hiddenCard qt now jobs] := by
      simp [jobCards, hiddenCard, hfew]
    have hthree : (jobs.take 3).length = 3 := by simp; omega
    have hhidden : jobs.drop 3 ≠ [] := by
      rw [ne_eq, List.drop_eq_nil_iff]
      omega
    rw [hcards]
    refine ⟨by simp; omega, fun index hindex => ?_, fun _ => ?_, fun health => ?_⟩
    · rw [direct, if_neg hfew] at hindex
      have hshown : index < (jobs.take 3).length := by omega
      have hjob : jobs[index]? = some (jobs.take 3)[index] := by
        rw [← List.getElem?_eq_getElem hshown, List.getElem?_take_of_lt hindex]
      refine ⟨jobCard qt now index (jobs.take 3)[index], _, ?_, hjob, rfl, rfl, rfl⟩
      rw [List.getElem?_append_left (by simpa using hshown)]
      exact shown_getElem hshown
    · refine ⟨hiddenCard qt now jobs, ?_, rfl, worst_foldl qt now hhidden⟩
      rw [List.getElem?_append_right (by simp)]
      simp [hthree]
    · have hinj : Set.InjOn rankOf {health | health ∈
          (jobs.take 3).map (conclusionHealth qt now) ++ (jobs.drop 3).map (conclusionHealth qt now)} := by
        rw [← List.map_append, List.take_append_drop]
        exact ranks_injOn (List.forall_mem_map.mpr fun job _ => conclusionHealth_mem qt now job)
      have hone := (worst_foldl qt now hhidden).append_iff (y := health) hinj
      rw [← List.map_append, List.take_append_drop] at hone
      rw [List.map_append, map_health_cards]
      exact hone

end Summary

section Deployment

variable {qt : QtText} {now : QDateTime} {jobs : List QJsonObject}

def Deploys (qt : QtText) (job : QJsonObject) : Prop :=
  isDeployName qt (job.value "name").toString

/-- A deploy status that takes all jobs into account. -/
structure Considers (qt : QtText) (now : QDateTime) (jobs : List QJsonObject)
    (status : Option QString) : Prop where
  unavailable : status = some "—" ↔ ∀ job ∈ jobs, ¬ Deploys qt job
  health : status ≠ some "—" →
    ∃ job ∈ jobs, Deploys qt job ∧ status = some (conclusionHealth qt now job)

theorem foldl_deploy (qt : QtText) (now : QDateTime) (deploy : QString) (jobs : List QJsonObject) :
    ((∀ job ∈ jobs, ¬ Deploys qt job) ∧ jobs.foldl (fun deploy job =>
      if isDeployName qt (job.value "name").toString then conclusionHealth qt now job
      else deploy) deploy = deploy) ∨
    ∃ job ∈ jobs, Deploys qt job ∧ jobs.foldl (fun deploy job =>
      if isDeployName qt (job.value "name").toString then conclusionHealth qt now job
      else deploy) deploy = conclusionHealth qt now job := by
  induction jobs generalizing deploy with
  | nil => exact .inl ⟨by simp, rfl⟩
  | cons job jobs ih =>
    rw [List.foldl_cons]
    split
    case isTrue hdeploys =>
      rcases ih (conclusionHealth qt now job) with ⟨-, hfold⟩ | ⟨other, hother, hname, hfold⟩
      · exact .inr ⟨job, List.mem_cons_self, hdeploys, hfold⟩
      · exact .inr ⟨other, List.mem_cons_of_mem job hother, hname, hfold⟩
    case isFalse hdeploys =>
      rcases ih deploy with ⟨hnone, hfold⟩ | ⟨other, hother, hname, hfold⟩
      · exact .inl ⟨List.forall_mem_cons.mpr ⟨hdeploys, hnone⟩, hfold⟩
      · exact .inr ⟨other, List.mem_cons_of_mem job hother, hname, hfold⟩

theorem conclusionHealth_ne (job : QJsonObject) : conclusionHealth qt now job ≠ "—" := by
  intro heq
  have hmem := conclusionHealth_mem qt now job
  rw [heq] at hmem
  exact absurd hmem (by decide)

theorem considers_iff : Considers qt now jobs (some (deployOf qt now jobs)) ↔
    jobs.length ≤ 4 ∨ ((∃ job ∈ jobs, Deploys qt job) → ∃ job ∈ jobs.take 3, Deploys qt job) := by
  have hshown : ∀ job ∈ (if jobs.length ≤ 4 then jobs else jobs.take 3), job ∈ jobs := by
    intro job hjob
    split at hjob
    · exact hjob
    · exact List.mem_of_mem_take hjob
  have hcases := foldl_deploy qt now "—"
    (if jobs.length ≤ 4 then jobs else jobs.take 3)
  rw [← deployOf] at hcases
  generalize deployOf qt now jobs = deploy at hcases
  constructor
  · rintro ⟨hunavailable, -⟩
    refine or_iff_not_imp_left.mpr fun hmany ⟨job, hjob, hdeploys⟩ => ?_
    rw [if_neg hmany] at hcases
    rcases hcases with ⟨-, rfl⟩ | ⟨other, hother, hname, -⟩
    · exact absurd hdeploys (hunavailable.mp rfl job hjob)
    · exact ⟨other, hother, hname⟩
  · intro hcondition
    rcases hcases with ⟨hnone, rfl⟩ | ⟨job, hjob, hdeploys, rfl⟩
    · have hall : ∀ job ∈ jobs, ¬ Deploys qt job := by
        intro job hjob hdeploys
        rcases hcondition with hfew | hsome
        · rw [if_pos hfew] at hnone
          exact hnone job hjob hdeploys
        · obtain ⟨other, hother, hname⟩ := hsome ⟨job, hjob, hdeploys⟩
          have hmem : other ∈ (if jobs.length ≤ 4 then jobs else jobs.take 3) := by
            split
            · exact List.mem_of_mem_take hother
            · exact hother
          exact hnone other hmem hname
      exact ⟨⟨fun _ => hall, fun _ => rfl⟩, fun hne => absurd rfl hne⟩
    · have hne : conclusionHealth qt now job ≠ "—" := conclusionHealth_ne job
      refine ⟨⟨fun h => absurd (Option.some_inj.mp h) hne,
        fun hnone => absurd hdeploys (hnone job (hshown job hjob))⟩, fun _ => ?_⟩
      exact ⟨job, hshown job hjob, hdeploys, rfl⟩

end Deployment

section Service

variable {qt : QtText} {service : ProjectsService} {repository : QString} {runId : Int64}
  {document : QJsonValue} {now : QDateTime} {row : Row}

def jobObjects (document : QJsonValue) : List QJsonObject :=
  (jobsOf document).map QJsonValue.toObject

theorem jobsSucceed_valid (qt : QtText) (service : ProjectsService) (repository : QString)
    (runId : Int64) (now : QDateTime) (hvalid : validJobs document) :
    (service.jobsSucceed qt repository runId document now).panel =
      (service.panel.insertDetail repository runId
        (jobsDetail qt now (jobObjects document)).insert).step
          (.cards repository runId (jobCards qt now (jobObjects document))) := by
  rw [ProjectsService.jobsSucceed_panel, if_pos hvalid]
  rfl

theorem jobsSucceed_stages (hvalid : validJobs document)
    (hshows : service.shows repository runId) :
    (service.jobsSucceed qt repository runId document now).stages =
      jobCards qt now (jobObjects document) := by
  have hstages := congrArg Panel.stages
    (jobsSucceed_valid qt service repository runId now hvalid)
  have hshown : service.panel.shows repository runId := hshows
  rw [Panel.step, Panel.insertDetail_shows, if_pos hshown] at hstages
  exact hstages

theorem jobsSucceed_row (hvalid : validJobs document)
    (hrow : Keyed.find Row.key repository service.projects = some row)
    (hrun : row.detail.runId = runId) :
    Keyed.find Row.key repository (service.jobsSucceed qt repository runId document now).projects =
      some { row with detail := (jobsDetail qt now (jobObjects document)).insert row.detail } := by
  have hprojects := congrArg Panel.projects
    (jobsSucceed_valid qt service repository runId now hvalid)
  have hstep (panel : Panel) (cards : List Row) :
      (panel.step (.cards repository runId cards)).projects = panel.projects := by
    rw [Panel.step]
    split <;> rfl
  rw [hstep] at hprojects
  have hprojects' : (service.jobsSucceed qt repository runId document now).projects =
      (service.panel.insertDetail repository runId
        (jobsDetail qt now (jobObjects document)).insert).projects := hprojects
  rw [hprojects', Panel.insertDetail, Keyed.find_modify_self]
  · have hfind : Keyed.find Row.key repository service.panel.projects = some row := hrow
    rw [hfind, Option.map_some, if_pos hrun]
  · intro row
    split <;> rfl

end Service

section Sample

/-- The details of a run, on a page that shows it. -/
def sampleService : ProjectsService := { ProjectsService.initial "o" [] with
  projects := [{ key := "o/a", detail := { runId := 7 } }]
  selectedKey := "o/a"
  selectedIndex := 0 }

def sampleJobs (names : List QString) : QJsonValue :=
  .object [("jobs", .array (names.map fun name =>
    .object [("name", .string name), ("status", .string "queued")]))]

end Sample

/-- A valid reply with the jobs of a run: the cards that the loops make say what there is to say
about all jobs, and the row counts the successful ones. -/
theorem stage_cards_summarise (qt : QtText) (service : ProjectsService) (repository : QString)
    (runId : Int64) (document : QJsonValue) (now : QDateTime) (hvalid : validJobs document) :
    (service.shows repository runId →
      (service.jobsSucceed qt repository runId document now).stages =
          stageCards qt now (jobObjects document) ∧
        Summarises qt now (jobObjects document) (stageCards qt now (jobObjects document))) ∧
    successfulLoop qt now (jobObjects document) = (jobObjects document).countP
      (fun job => (job.value "conclusion").toString = "success") ∧
    ∀ row, Keyed.find Row.key repository service.projects = some row → row.detail.runId = runId →
      ∃ loaded, Keyed.find Row.key repository
          (service.jobsSucceed qt repository runId document now).projects = some loaded ∧
        loaded.detail.jobsSummary = some (toString (successfulLoop qt now (jobObjects document)) ++
          "/" ++ toString (jobObjects document).length) := by
  obtain ⟨hcards, hsuccessful, -⟩ := loops_eq qt now (jobObjects document)
  refine ⟨fun hshows => ?_, hsuccessful, fun row hrow hrun => ?_⟩
  · rw [hcards]
    exact ⟨jobsSucceed_stages hvalid hshows, summarises_jobCards⟩
  · rw [hsuccessful]
    exact ⟨_, jobsSucceed_row hvalid hrow hrun, rfl⟩

theorem stage_cards_sample :
    (sampleService.jobsSucceed ProjectsService.sampleText "o/a" 7
        (sampleJobs ["build", "test", "lint", "pack", "deploy"]) ProjectsService.sampleTime).stages =
      stageCards ProjectsService.sampleText ProjectsService.sampleTime
        (jobObjects (sampleJobs ["build", "test", "lint", "pack", "deploy"])) :=
  ((stage_cards_summarise ProjectsService.sampleText sampleService "o/a" 7
    (sampleJobs ["build", "test", "lint", "pack", "deploy"]) ProjectsService.sampleTime
    (by decide +kernel)).1 (by decide +kernel)).1

/-- The deploy status takes all jobs into account just if all have cards, or one of the first three
is a deployment if any is. -/
theorem deploy_considers_iff (qt : QtText) (service : ProjectsService) (repository : QString)
    (runId : Int64) (document : QJsonValue) (now : QDateTime) (row : Row)
    (hvalid : validJobs document)
    (hrow : Keyed.find Row.key repository service.projects = some row)
    (hrun : row.detail.runId = runId) :
    (∃ loaded, Keyed.find Row.key repository
        (service.jobsSucceed qt repository runId document now).projects = some loaded ∧
      Considers qt now (jobObjects document) loaded.detail.deployStatus) ↔
    (jobObjects document).length ≤ 4 ∨ ((∃ job ∈ jobObjects document, Deploys qt job) →
      ∃ job ∈ (jobObjects document).take 3, Deploys qt job) := by
  rw [jobsSucceed_row hvalid hrow hrun, ← considers_iff]
  constructor
  · rintro ⟨loaded, hloaded, hconsiders⟩
    obtain rfl := Option.some_inj.mp hloaded
    exact hconsiders
  · exact fun hconsiders => ⟨_, rfl, hconsiders⟩

theorem deploy_considers_sample :
    (∃ loaded, Keyed.find Row.key "o/a" (sampleService.jobsSucceed ProjectsService.sampleText "o/a"
        7 (sampleJobs ["build", "deploy"]) ProjectsService.sampleTime).projects = some loaded ∧
      Considers ProjectsService.sampleText ProjectsService.sampleTime
        (jobObjects (sampleJobs ["build", "deploy"])) loaded.detail.deployStatus) :=
  (deploy_considers_iff ProjectsService.sampleText sampleService "o/a" 7
    (sampleJobs ["build", "deploy"]) ProjectsService.sampleTime
    { key := "o/a", detail := { runId := 7 } } (by decide +kernel) (by decide +kernel) rfl).mpr
    (.inl (by decide))

/-- The fifth of five jobs is the only deployment. -/
theorem deploy_missed : ¬ ∃ loaded, Keyed.find Row.key "o/a"
      (sampleService.jobsSucceed ProjectsService.sampleText "o/a" 7
        (sampleJobs ["build", "test", "lint", "pack", "deploy"])
        ProjectsService.sampleTime).projects = some loaded ∧
    Considers ProjectsService.sampleText ProjectsService.sampleTime
      (jobObjects (sampleJobs ["build", "test", "lint", "pack", "deploy"]))
      loaded.detail.deployStatus := by
  rintro ⟨loaded, hloaded, hconsiders⟩
  have hstatus : (Keyed.find Row.key "o/a"
      (sampleService.jobsSucceed ProjectsService.sampleText "o/a" 7
        (sampleJobs ["build", "test", "lint", "pack", "deploy"])
        ProjectsService.sampleTime).projects).map (·.detail.deployStatus) = some (some "—") := by
    decide +kernel
  rw [hloaded, Option.map_some, Option.some_inj] at hstatus
  have hdeploys : Deploys ProjectsService.sampleText
      [("name", .string "deploy"), ("status", .string "queued")] := by
    unfold Deploys
    decide +kernel
  exact hconsiders.unavailable.mp hstatus _ (List.mem_of_getElem? (i := 4) rfl) hdeploys

end RpiDashboard.Projects
