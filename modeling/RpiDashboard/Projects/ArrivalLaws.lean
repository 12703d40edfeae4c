import Mathlib.Data.Prod.Lex
import RpiDashboard.Data.Sorted
import RpiDashboard.Projects.CacheLaws
import RpiDashboard.Projects.PanelLaws
import RpiDashboard.Qt.TextLaws

/-! Laws of `loadRuns`: what the replies do together does not depend on the order in which
they arrive, and they replace the projects all at once or not at all. -/

namespace RpiDashboard.Projects

open Qt

def Call.isFinished : Call → Bool
  | .finished _ => true
  | _ => false

/-- The end of a refresh, good or bad. -/
def Call.isEnd : Call → Bool
  | .finishRefresh => true
  | .failRefresh _ => true
  | _ => false

/-- The call without its diagnostic. -/
def Call.silent : Call → Call
  | .failRefresh _ => .failRefresh ""
  | call => call

/-- The outcome of a request for runs that does not set the failure flag. -/
def Outcome.validRuns (qt : QtText) : Outcome → Bool
  | .success _ document => validWorkflowRuns qt document
  | .failure _ => false

def Outcome.workflowRuns : Outcome → List QJsonValue
  | .success _ document => Projects.workflowRuns document
  | .failure _ => []

/-- The rows of the repositories with a run, given the outcome for each. -/
def rowsOf (qt : QtText) (outcome : Repository → Outcome) (now : QDateTime)
    (repositories : List Repository) : List Row :=
  repositories.filterMap fun repository => rowOf qt now repository (outcome repository).workflowRuns

/-- The latest run first, and by key among runs of one instant. -/
def LatestFirst (left right : Row) : Prop :=
  right.detail.updatedAt.lt left.detail.updatedAt ∨
    left.detail.updatedAt.same right.detail.updatedAt ∧ QString.lt left.key right.key

section Order

/-- The same as the order of a key. -/
def orderKey (row : Row) : Lex (Intᵒᵈ × List Nat) :=
  toLex (OrderDual.toDual row.detail.updatedAt.toMSecsSinceEpoch, utf16 row.key)

theorem same_iff {s t : QDateTime} (hs : s.isValid) (ht : t.isValid) :
    s.same t ↔ s.toMSecsSinceEpoch = t.toMSecsSinceEpoch := by
  obtain ⟨ms, hms⟩ := Option.isSome_iff_exists.mp hs
  obtain ⟨mt, hmt⟩ := Option.isSome_iff_exists.mp ht
  simp [QDateTime.same, QDateTime.toMSecsSinceEpoch, hms, hmt]

theorem earlier_iff {left right : Row} (hl : left.detail.updatedAt.isValid)
    (hr : right.detail.updatedAt.isValid) :
    earlier left right ↔ orderKey left < orderKey right := by
  rw [orderKey, orderKey, Prod.Lex.toLex_lt_toLex]
  unfold earlier
  by_cases h : left.detail.updatedAt.same right.detail.updatedAt
  case pos =>
    have heq := (same_iff hl hr).mp h
    simp [h, heq, QString.lt]
  case neg =>
    have hne : left.detail.updatedAt.toMSecsSinceEpoch ≠ right.detail.updatedAt.toMSecsSinceEpoch :=
      mt (same_iff hl hr).mpr h
    simp [h, hne, QDateTime.lt, OrderDual.toDual_lt_toDual]

/-- The rows are sorted, and rows with different keys in one way only. -/
theorem sortProjectsByLatestExecution_eq {rows : List Row}
    (h : ∀ row ∈ rows, row.detail.updatedAt.isValid) :
    sortProjectsByLatestExecution rows = sortOn orderKey rows := by
  refine insertionSort_eq_sortOn orderKey fun left hl right hr => ?_
  rw [← not_lt, ← earlier_iff (h right hr) (h left hl), Bool.not_eq_true, Bool.not_eq_eq_eq_not,
    Bool.not_true]

theorem sortProjectsByLatestExecution_of_perm {rows others : List Row} (hperm : rows.Perm others)
    (h : ∀ row ∈ rows, row.detail.updatedAt.isValid) (hkeys : (rows.map Row.key).Nodup) :
    sortProjectsByLatestExecution rows = sortProjectsByLatestExecution others := by
  rw [sortProjectsByLatestExecution_eq h,
    sortProjectsByLatestExecution_eq fun row hrow => h row (hperm.mem_iff.mpr hrow)]
  refine sortOn_eq_of_perm orderKey hperm fun left hl right hr heq => ?_
  have hkey : left.key = right.key := by
    refine utf16_injective ?_
    exact congrArg (fun key => (ofLex key).2) heq
  exact List.inj_on_of_nodup_map hkeys hl hr hkey

theorem latestFirst_of_earlier {left right : Row} (h : earlier left right) :
    LatestFirst left right := by
  unfold earlier at h
  split at h
  case isTrue hs => exact Or.inr ⟨hs, h⟩
  case isFalse => exact Or.inl h

theorem sortProjectsByLatestExecution_perm {rows : List Row} :
    (sortProjectsByLatestExecution rows).Perm rows :=
  List.perm_insertionSort _ rows

theorem sortProjectsByLatestExecution_pairwise {rows : List Row}
    (h : ∀ row ∈ rows, row.detail.updatedAt.isValid) (hkeys : (rows.map Row.key).Nodup) :
    (sortProjectsByLatestExecution rows).Pairwise LatestFirst := by
  have hne : (sortProjectsByLatestExecution rows).Pairwise fun left right =>
      left.key ≠ right.key :=
    List.pairwise_map.mp ((sortProjectsByLatestExecution_perm.map Row.key).nodup_iff.mpr hkeys)
  have hle : (sortProjectsByLatestExecution rows).Pairwise fun left right =>
      orderKey left ≤ orderKey right := by
    rw [sortProjectsByLatestExecution_eq h]
    exact sortOn_pairwise orderKey rows
  refine (hle.and hne).imp_of_mem fun {left right} hl hr hlr => latestFirst_of_earlier ?_
  have hvalid : ∀ row ∈ sortProjectsByLatestExecution rows, row.detail.updatedAt.isValid :=
    fun row hrow => h row (sortProjectsByLatestExecution_perm.mem_iff.mp hrow)
  refine (earlier_iff (hvalid left hl) (hvalid right hr)).mpr (lt_of_le_of_ne hlr.1 fun heq => ?_)
  exact hlr.2 (utf16_injective (congrArg (fun key => (ofLex key).2) heq))

/-- Details are all that is retained. -/
theorem retainLoadedProjectDetails_eq (rows previous : List Row) : ∃ f : Row → Row,
    retainLoadedProjectDetails rows previous = rows.map f ∧
      ∀ row, (f row).key = row.key ∧ (f row).detail.updatedAt = row.detail.updatedAt := by
  refine ⟨_, rfl, fun row => ?_⟩
  dsimp only
  split <;> exact ⟨rfl, rfl⟩

theorem retainLoadedProjectDetails_keys (rows previous : List Row) :
    (retainLoadedProjectDetails rows previous).map Row.key = rows.map Row.key := by
  obtain ⟨f, heq, hf⟩ := retainLoadedProjectDetails_eq rows previous
  rw [heq, List.map_map]
  exact List.map_congr_left fun row _ => (hf row).1

theorem retainLoadedProjectDetails_pairwise {rows : List Row} (previous : List Row)
    (h : rows.Pairwise LatestFirst) :
    (retainLoadedProjectDetails rows previous).Pairwise LatestFirst := by
  obtain ⟨f, heq, hf⟩ := retainLoadedProjectDetails_eq rows previous
  rw [heq, List.pairwise_map]
  refine h.imp fun {left right} hlr => ?_
  unfold LatestFirst
  rw [(hf left).1, (hf left).2, (hf right).1, (hf right).2]
  exact hlr

end Order

section Rows

variable {qt : QtText} {outcome : Repository → Outcome} {now : QDateTime}
  {repositories : List Repository}

theorem rowOf_eq_none_iff {repository : Repository} {runs : List QJsonValue} :
    rowOf qt now repository runs = none ↔ runs = [] := by
  cases runs <;> simp [rowOf]

theorem rowOf_key {repository : Repository} {runs : List QJsonValue} {row : Row}
    (h : rowOf qt now repository runs = some row) : row.key = repository.key := by
  cases runs with
  | nil => cases h
  | cons run runs => cases h; rfl

/-- There is one row for each repository with a run. -/
theorem rowsOf_keys : (rowsOf qt outcome now repositories).map Row.key =
    (repositories.filter fun repository => (outcome repository).workflowRuns ≠ []).map
      Repository.key := by
  induction repositories with
  | nil => rfl
  | cons repository repositories ih =>
    unfold rowsOf at ih ⊢
    rw [List.filterMap_cons]
    cases h : rowOf qt now repository (outcome repository).workflowRuns with
    | none =>
      rw [ih, List.filter_cons_of_neg (by simp [rowOf_eq_none_iff.mp h])]
    | some row =>
      have hne : (outcome repository).workflowRuns ≠ [] := fun hn => by
        rw [rowOf_eq_none_iff.mpr hn] at h
        cases h
      rw [List.filter_cons_of_pos (by simpa using hne), List.map_cons, List.map_cons, ih,
        rowOf_key h]

theorem rowsOf_nodup (h : (repositories.map Repository.key).Nodup) :
    ((rowsOf qt outcome now repositories).map Row.key).Nodup := by
  rw [rowsOf_keys]
  exact h.sublist (List.filter_sublist.map _)

theorem rowsOf_isValid (h : ∀ repository ∈ repositories, (outcome repository).validRuns qt) :
    ∀ row ∈ rowsOf qt outcome now repositories, row.detail.updatedAt.isValid := by
  intro row hrow
  obtain ⟨repository, hmem, heq⟩ := List.mem_filterMap.mp hrow
  have hvalid := h repository hmem
  cases ho : outcome repository with
  | failure error => simp [ho, Outcome.validRuns] at hvalid
  | success body document =>
    rw [ho, Outcome.workflowRuns] at heq
    cases hruns : Projects.workflowRuns document with
    | nil => simp [hruns, rowOf] at heq
    | cons run runs =>
      rw [hruns] at heq
      have hrun : validRun qt run := by
        simp [ho, Outcome.validRuns, validWorkflowRuns, hruns] at hvalid
        exact hvalid.2.1
      cases heq
      simp only [validRun, Bool.and_eq_true] at hrun
      exact hrun.2

end Rows

namespace ProjectsService

variable {qt : QtText} {service : ProjectsService}

/-- What callbacks leave behind: everything but the state of the network, the replies
themselves, and what the callbacks of one `loadRuns` share. -/
def effect (service : ProjectsService) : ProjectsService :=
  { service with
    requests := service.unfinished.filter fun pending => !pending.continuation.isRuns
    inFlight := []
    activeRequests := 0
    refreshRequestCount := 0
    pollInterval := 0
    etags := []
    cachedBodies := []
    runBatches := []
    calls := service.calls.filter fun call => !call.isFinished }

/-- The same without the text of the diagnostic. -/
def silent (service : ProjectsService) : ProjectsService :=
  { service with diagnostics := "", calls := service.calls.map Call.silent }

/-- The ends of the refreshes so far. -/
def ended (service : ProjectsService) : List Call := service.calls.filter Call.isEnd

/-- The event answers the request of a `loadRuns` for the runs of a repository, at this time and
with the outcome for the repository. -/
def Answers (qt : QtText) (batch : Nat) (outcome : Repository → Outcome) (now : QDateTime)
    (service : ProjectsService) (e : Event) : Prop :=
  ∃ index reply started repository, e = .finished index reply now ∧
    service.inFlight[index]? = some started ∧
    started.request.continuation = .runs batch repository ∧
    service.outcomeOf qt (qt.urlText started.request.url) reply = outcome repository

/-- The repository whose runs an event brings. -/
def answered (service : ProjectsService) : Event → List Repository
  | .finished index _ _ =>
    match (service.inFlight[index]?).map fun started => started.request.continuation with
    | some (Continuation.runs _ repository) => [repository]
    | _ => []
  | _ => []

/-- The replies to one `loadRuns` in the order in which they arrive, one for each repository. -/
structure Arrival (qt : QtText) (service : ProjectsService) (repositories : List Repository)
    (outcome : Repository → Outcome) (now : QDateTime) where
  events : List Event
  answers : Throughout (step qt) (Answers qt service.runBatches.length outcome now)
    (service.loadRuns qt repositories now) events
  once : (emitted (step qt) answered (service.loadRuns qt repositories now) events).Perm
    repositories

/-- The service after the last of them. -/
def Arrival.result {repositories : List Repository} {outcome : Repository → Outcome}
    {now : QDateTime} (arrival : Arrival qt service repositories outcome now) : ProjectsService :=
  run (step qt) (service.loadRuns qt repositories now) arrival.events

/-- The projects have been replaced, at the end of one good refresh. -/
structure Replaced (qt : QtText) (service : ProjectsService) (repositories : List Repository)
    (outcome : Repository → Outcome) (now : QDateTime) (after : ProjectsService) : Prop where
  ended : after.ended = service.ended ++ [Call.finishRefresh]
  projects : after.projects = retainLoadedProjectDetails
    (sortProjectsByLatestExecution (rowsOf qt outcome now repositories)) service.projects
  keys : (after.projects.map Row.key).Perm ((repositories.filter fun repository =>
    (outcome repository).workflowRuns ≠ []).map Repository.key)
  sorted : after.projects.Pairwise LatestFirst

/-- One refresh has failed, and what is shown is as before. -/
structure Retained (service after : ProjectsService) : Prop where
  ended : ∃ diagnostic, after.ended = service.ended ++ [Call.failRefresh diagnostic]
  projects : after.projects = service.projects
  selectedIndex : after.selectedIndex = service.selectedIndex
  selectedKey : after.selectedKey = service.selectedKey
  lastSuccess : after.lastSuccess = service.lastSuccess

section Effect

theorem effect_congr {other : ProjectsService} (ho : other.others = service.others)
    (hr : other.effect.requests = service.effect.requests) : other.effect = service.effect := by
  have heffect : { other.others.effect with requests := other.effect.requests } =
      { service.others.effect with requests := service.effect.requests } := by
    rw [ho, hr]
  exact heffect

@[simp] theorem startRequests_effect : (service.startRequests qt).effect = service.effect :=
  effect_congr startRequests_others (by simp only [effect, startRequests_unfinished])

theorem request_effect {pending : Request} :
    (service.request qt pending).effect = { service.effect with
      requests := service.effect.requests ++
        [pending].filter fun pending => !pending.continuation.isRuns } := by
  have hr : (service.request qt pending).effect.requests = service.effect.requests ++
      [pending].filter fun pending => !pending.continuation.isRuns := by
    simp only [effect, request_unfinished, List.filter_append]
  have ho : (service.request qt pending).others = service.others := request_others
  have heffect : { (service.request qt pending).others.effect with
        requests := (service.request qt pending).effect.requests } =
      { service.others.effect with
        requests := service.effect.requests ++
          [pending].filter fun pending => !pending.continuation.isRuns } := by
    rw [ho, hr]
  exact heffect

theorem requests_effect (qt : QtText) (service : ProjectsService) {α : Type*} (f : α → Request)
    (xs : List α) :
    (xs.foldl (fun service x => service.request qt (f x)) service).effect =
      { service.effect with
        requests := service.effect.requests ++
          (xs.map f).filter fun pending => !pending.continuation.isRuns } := by
  induction xs generalizing service with
  | nil => simp
  | cons x xs ih =>
    rw [List.foldl_cons, ih, request_effect]
    simp only [List.map_cons, List.append_assoc, ← List.filter_append, List.singleton_append]

/-- A request for runs that has finished is not looked at any more. -/
theorem settle_effect {index : Nat} {started : StartedRequest} {reply : Reply} {now : QDateTime}
    (hi : service.inFlight[index]? = some started)
    (hc : started.request.continuation.isRuns) :
    (service.settle qt index started reply now).effect = service.effect := by
  obtain ⟨interval, etags, bodies, heq⟩ := settle_eq qt service index started reply now
  obtain ⟨hlt, hget⟩ := List.getElem?_eq_some_iff.mp hi
  have hunfinished :
      ((service.inFlight.eraseIdx index).map StartedRequest.request).filter
          (fun pending => !pending.continuation.isRuns) =
        (service.inFlight.map StartedRequest.request).filter
          fun pending => !pending.continuation.isRuns := by
    conv_rhs => rw [← List.take_append_drop index service.inFlight, List.drop_eq_getElem_cons hlt]
    simp [List.eraseIdx_eq_take_drop_succ, hget, hc]
  rw [heq]
  simp [effect, unfinished, Call.isFinished, hunfinished]

theorem resetRunners_effect : service.resetRunners.effect = service.effect.resetRunners := by
  simp [resetRunners, effect, unfinished, Call.isFinished, runnerUrls, authenticated]

theorem refreshed_effect (now : QDateTime) :
    (service.refreshed now).effect = { service.effect.refreshed now with pollInterval := 0 } := by
  simp [refreshed, setState, effect, unfinished, Call.isFinished]

theorem failRefresh_effect (diagnostic : QString) :
    (service.failRefresh diagnostic).effect = service.effect.failRefresh diagnostic := by
  simp [failRefresh, setState, effect, unfinished, Call.isFinished]

theorem showProjects_effect (rows : List Row) :
    (service.showProjects rows).effect = service.effect.showProjects rows := rfl

variable {a b : ProjectsService}

theorem requests_congr (qt : QtText) (h : a.effect = b.effect) {α : Type*} (f : α → Request)
    (xs : List α) :
    (xs.foldl (fun service x => service.request qt (f x)) a).effect =
      (xs.foldl (fun service x => service.request qt (f x)) b).effect := by
  rw [requests_effect, requests_effect, h]

theorem request_congr (h : a.effect = b.effect) (pending : Request) :
    (a.request qt pending).effect = (b.request qt pending).effect := by
  rw [request_effect, request_effect, h]

theorem loadRunners_congr (h : a.effect = b.effect) :
    (a.loadRunners qt).effect = (b.loadRunners qt).effect := by
  have hurls : a.runnerUrls = b.runnerUrls := (congrArg runnerUrls h :)
  have hbatch : a.runnersFailed.length = b.runnersFailed.length :=
    (congrArg (fun service => service.runnersFailed.length) h :)
  have hreset : a.resetRunners.effect = b.resetRunners.effect := by
    rw [resetRunners_effect, resetRunners_effect, h]
  unfold loadRunners
  dsimp only
  rw [hurls, hbatch]
  split
  · exact hreset
  · refine requests_congr qt ?_ _ _
    exact congrArg (fun service => { service with
      pendingRunnerRequests := b.runnerUrls.length }) hreset

theorem finishRefresh_congr (h : a.effect = b.effect) (now : QDateTime) :
    (a.finishRefresh qt now).effect = (b.finishRefresh qt now).effect := by
  refine loadRunners_congr ?_
  rw [refreshed_effect, refreshed_effect, h]

theorem loadSelectedDetails_congr (h : a.effect = b.effect) :
    (a.loadSelectedDetails qt).effect = (b.loadSelectedDetails qt).effect := by
  have hrow : a.selectedRow = b.selectedRow := (congrArg selectedRow h :)
  unfold loadSelectedDetails
  rw [hrow]
  split
  · exact congrArg (fun service => { service with stages := [], history := [] }) h
  case h_2 row _ =>
    refine request_congr (request_congr ?_ _) _
    exact congrArg (fun service => { service with history := row.detail.history.map historyRow }) h

theorem replaceProjects_congr (h : a.effect = b.effect) (rows : List Row) (now : QDateTime) :
    (a.replaceProjects qt rows now).effect = (b.replaceProjects qt rows now).effect := by
  refine loadSelectedDetails_congr (finishRefresh_congr ?_ now)
  rw [showProjects_effect, showProjects_effect, h]

theorem failRefresh_congr (h : a.effect = b.effect) (diagnostic : QString) :
    (a.failRefresh diagnostic).effect = (b.failRefresh diagnostic).effect := by
  rw [failRefresh_effect, failRefresh_effect, h]

end Effect

section Underway

variable {outcome : Repository → Outcome} {now : QDateTime} {repositories answers : List Repository}

/-- Some repositories have been answered, but not all: nothing has happened yet. -/
structure Underway (qt : QtText) (service : ProjectsService) (outcome : Repository → Outcome)
    (now : QDateTime) (repositories : List Repository) (current : ProjectsService)
    (answers : List Repository) : Prop where
  same : current.effect =
    { service.effect with pendingRunRequests := repositories.length - answers.length }
  batch : current.runBatches[service.runBatches.length]? = some {
    rows := rowsOf qt outcome now answers
    failed := answers.any fun repository => !(outcome repository).validRuns qt }
  short : answers.length < repositories.length

/-- All have been answered: the projects have been replaced, or the refresh has failed. -/
def Settled (qt : QtText) (service : ProjectsService) (outcome : Repository → Outcome)
    (now : QDateTime) (answers : List Repository) (after : ProjectsService) : Prop :=
  if answers.all fun repository => (outcome repository).validRuns qt then
    after.effect = ({ service with pendingRunRequests := 0 }.replaceProjects qt
      (rowsOf qt outcome now answers) now).effect
  else ∃ diagnostic,
    after.effect = ({ service with pendingRunRequests := 0 }.failRefresh diagnostic).effect

theorem underway_loadRuns (h : repositories ≠ []) : Underway qt service outcome now repositories
    (service.loadRuns qt repositories now) [] := by
  have hempty : ¬ repositories.isEmpty := by simpa using h
  constructor
  case same =>
    rw [loadRuns, if_neg hempty, requests_effect,
      List.filter_eq_nil_iff.mpr (by simp [Continuation.isRuns])]
    simp [effect, unfinished]
  case batch =>
    have hb : (service.loadRuns qt repositories now).runBatches =
        service.runBatches ++ [({} : RunBatch)] := by
      rw [loadRuns, if_neg hempty]
      exact (congrArg runBatches (requests_others _ repositories) :)
    rw [hb, List.getElem?_concat_length]
    rfl
  case short => exact List.length_pos_iff.mpr h

theorem collect_eq (qt : QtText) (outcome : Repository → Outcome) (now : QDateTime)
    (answers : List Repository) (repository : Repository) :
    collect qt repository now (outcome repository) {
      rows := rowsOf qt outcome now answers
      failed := answers.any fun repository => !(outcome repository).validRuns qt } = {
      rows := rowsOf qt outcome now (answers ++ [repository])
      failed := (answers ++ [repository]).any fun repository =>
        !(outcome repository).validRuns qt } := by
  have hrow : [repository].filterMap (fun repository =>
      rowOf qt now repository (outcome repository).workflowRuns) =
        (rowOf qt now repository (outcome repository).workflowRuns).toList := by
    cases h : rowOf qt now repository (outcome repository).workflowRuns <;> simp [h]
  rw [rowsOf, rowsOf, List.filterMap_append, hrow, List.any_append]
  cases h : outcome repository with
  | success body document => simp [collect, h, Outcome.validRuns, Outcome.workflowRuns]
  | failure error => simp [collect, h, Outcome.validRuns, Outcome.workflowRuns, rowOf]

section Answer

variable {current : ProjectsService} {repository : Repository}

/-- Before its end, a callback has updated the counter and what it shares. -/
theorem Underway.updated (h : Underway qt service outcome now repositories current answers)
    {mid : ProjectsService} (he : mid.effect = current.effect)
    (hb : mid.runBatches = current.runBatches) (repository : Repository) :
    let updated := mid.updateBatch service.runBatches.length
      (collect qt repository now (outcome repository))
    updated.effect = { service.effect with
      pendingRunRequests := repositories.length - (answers ++ [repository]).length } ∧
    updated.runBatches[service.runBatches.length]? = some {
      rows := rowsOf qt outcome now (answers ++ [repository])
      failed := (answers ++ [repository]).any fun repository =>
        !(outcome repository).validRuns qt } := by
  constructor
  · have hpending : mid.pendingRunRequests = repositories.length - answers.length :=
      congrArg pendingRunRequests (he.trans h.same)
    have heffect : { mid.effect with pendingRunRequests := mid.pendingRunRequests - 1 } =
        { service.effect with pendingRunRequests := mid.pendingRunRequests - 1 } := by
      rw [he, h.same]
    have hlength : (repositories.length : Int) - (answers ++ [repository]).length =
        mid.pendingRunRequests - 1 := by
      rw [hpending, List.length_append, List.length_singleton]
      omega
    rw [hlength]
    exact heffect
  · rw [updateBatch, List.getElem?_modify_eq, hb, h.batch]
    exact congrArg some (collect_eq qt outcome now answers repository)

theorem settled_endRuns {updated : ProjectsService}
    (he : updated.effect = { service.effect with pendingRunRequests := 0 })
    (hb : updated.runBatches[service.runBatches.length]? = some {
      rows := rowsOf qt outcome now (answers ++ [repository])
      failed := (answers ++ [repository]).any fun repository =>
        !(outcome repository).validRuns qt }) :
    Settled qt service outcome now (answers ++ [repository])
      (updated.endRuns qt service.runBatches.length now (outcome repository)) := by
  have heffect : updated.effect = { service with pendingRunRequests := 0 }.effect := he
  have hshared := congrArg (fun shared : Option RunBatch => shared.getD {}) hb
  rw [← List.getD_eq_getElem?_getD, Option.getD_some] at hshared
  have hvalid : ((answers ++ [repository]).all fun repository => (outcome repository).validRuns qt) =
      !(answers ++ [repository]).any fun repository => !(outcome repository).validRuns qt := by
    simp [List.all_eq_not_any_not]
  unfold Settled
  rw [hvalid]
  cases ho : outcome repository with
  | success body document =>
    simp only [endRuns, hshared]
    cases hf : (answers ++ [repository]).any fun repository => !(outcome repository).validRuns qt with
    | true => exact ⟨_, failRefresh_congr heffect _⟩
    | false => exact replaceProjects_congr heffect _ now
  | failure error =>
    have hf : (answers ++ [repository]).any fun repository => !(outcome repository).validRuns qt := by
      simp [ho, Outcome.validRuns]
    rw [hf]
    exact ⟨error, failRefresh_congr heffect error⟩

theorem Underway.step (h : Underway qt service outcome now repositories current answers)
    {e : Event} (he : Answers qt service.runBatches.length outcome now current e) :
    ∃ repository, current.answered e = [repository] ∧
      if answers.length + 1 < repositories.length then
        Underway qt service outcome now repositories (current.step qt e) (answers ++ [repository])
      else Settled qt service outcome now (answers ++ [repository]) (current.step qt e) := by
  obtain ⟨index, reply, started, repository, rfl, hi, hc, ho⟩ := he
  refine ⟨repository, by simp [answered, hi, hc], ?_⟩
  obtain ⟨interval, etags, bodies, heq⟩ := settle_eq qt current index started reply now
  have hsettle : (current.settle qt index started reply now).effect = current.effect :=
    settle_effect hi (by rw [hc]; rfl)
  obtain ⟨hupdated, hbatch⟩ := h.updated hsettle (congrArg runBatches heq :) repository
  have hlength : (answers ++ [repository]).length = answers.length + 1 := List.length_append
  rw [ProjectsService.step, finished_of_some hi, hc, ho, deliver_runs]
  dsimp only
  generalize (current.settle qt index started reply now).updateBatch _ _ = updated at hupdated hbatch
  have hpending : updated.pendingRunRequests =
      (repositories.length : Int) - (answers ++ [repository]).length :=
    (congrArg pendingRunRequests hupdated :)
  have hshort := h.short
  split
  case isTrue hlt =>
    rw [if_neg (by rw [hpending, hlength]; omega)]
    constructor
    case same => rw [startRequests_effect, hupdated]
    case batch =>
      have hb : (updated.startRequests qt).runBatches = updated.runBatches :=
        (congrArg runBatches (startRequests_others : (updated.startRequests qt).others = _) :)
      rwa [hb]
    case short => exact hlength ▸ hlt
  case isFalse hge =>
    have hzero : (repositories.length : Int) - (answers ++ [repository]).length = 0 := by omega
    rw [if_pos (by rw [hpending, hzero])]
    rw [hzero] at hupdated
    have hsettled := settled_endRuns hupdated hbatch
    unfold Settled at hsettled ⊢
    rwa [startRequests_effect]

end Answer

/-- The last answer settles the refresh, in whatever order the others came. -/
theorem Underway.settles {es : List Event} {current : ProjectsService}
    (h : Underway qt service outcome now repositories current answers)
    (hanswers : Throughout (ProjectsService.step qt)
      (Answers qt service.runBatches.length outcome now) current es)
    (honce : (answers ++ emitted (ProjectsService.step qt) answered current es).Perm
      repositories) :
    Settled qt service outcome now
      (answers ++ emitted (ProjectsService.step qt) answered current es)
      (run (ProjectsService.step qt) current es) := by
  induction es generalizing current answers with
  | nil =>
    have hlength := honce.length_eq
    rw [emitted, List.append_nil] at hlength
    exact absurd hlength (ne_of_lt h.short)
  | cons e es ih =>
    obtain ⟨repository, hanswered, hstep⟩ := h.step hanswers.1
    have hassoc : answers ++ emitted (ProjectsService.step qt) answered current (e :: es) =
        answers ++ [repository] ++
          emitted (ProjectsService.step qt) answered (current.step qt e) es := by
      rw [emitted, hanswered, List.append_assoc]
    rw [hassoc] at honce ⊢
    split at hstep
    case isTrue => exact ih hstep hanswers.2 honce
    case isFalse hge =>
      cases es with
      | nil => simpa [emitted] using hstep
      | cons next es =>
        obtain ⟨index, reply, started, other, rfl, hi, hc, -⟩ := hanswers.2.1
        have hlength := honce.length_eq
        simp [emitted, answered, hi, hc] at hlength
        omega

/-- No repository is no request. -/
theorem Arrival.events_of_nil {a : Arrival qt service [] outcome now} : a.events = [] := by
  obtain ⟨es, hanswers, honce⟩ := a
  cases es with
  | nil => rfl
  | cons e es =>
    obtain ⟨index, reply, started, repository, rfl, hi, hc, -⟩ := hanswers.1
    simp [emitted, answered, hi, hc] at honce

/-- The answers, in the order in which they arrive. -/
def Arrival.order (a : Arrival qt service repositories outcome now) : List Repository :=
  emitted (ProjectsService.step qt) answered (service.loadRuns qt repositories now) a.events

theorem Arrival.order_perm (a : Arrival qt service repositories outcome now) :
    a.order.Perm repositories := a.once

theorem Arrival.settled (a : Arrival qt service repositories outcome now)
    (h : repositories ≠ []) : Settled qt service outcome now a.order a.result :=
  (underway_loadRuns h).settles a.answers a.once

end Underway

section Result

variable {outcome : Repository → Outcome} {now : QDateTime} {repositories : List Repository}

/-- What a refresh shows, and its end. -/
def shown (service : ProjectsService) : List Row × List Call := (service.projects, service.ended)

theorem request_shown {pending : Request} :
    (service.request qt pending).shown = service.shown :=
  (congrArg shown (request_others : (service.request qt pending).others = _) :)

theorem loadRunners_shown : (service.loadRunners qt).shown = service.shown := by
  have hreset : service.resetRunners.shown = service.shown := by
    simp [resetRunners, shown, ended, Call.isEnd]
  unfold loadRunners
  dsimp only
  split
  · exact hreset
  · exact (congrArg shown (requests_others _ _) :).trans hreset

theorem finishRefresh_shown : (service.finishRefresh qt now).shown =
    (service.projects, service.ended ++ [Call.finishRefresh]) := by
  refine loadRunners_shown.trans ?_
  simp [refreshed, setState, shown, ended, Call.isEnd]

theorem loadSelectedDetails_shown : (service.loadSelectedDetails qt).shown = service.shown := by
  unfold loadSelectedDetails
  split
  · rfl
  · exact request_shown.trans request_shown

theorem replaceProjects_shown (rows : List Row) :
    (service.replaceProjects qt rows now).shown =
      (retainLoadedProjectDetails (sortProjectsByLatestExecution rows) service.projects,
        service.ended ++ [Call.finishRefresh]) :=
  loadSelectedDetails_shown.trans finishRefresh_shown

theorem effect_shown : service.effect.shown = service.shown := by
  have hfilter : (service.calls.filter fun call => !call.isFinished).filter Call.isEnd =
      service.calls.filter Call.isEnd := by
    rw [List.filter_filter]
    refine List.filter_congr fun call _ => ?_
    cases call <;> rfl
  exact congrArg (service.projects, ·) hfilter

theorem Replaced.of_shown {after : ProjectsService}
    (hkeys : (repositories.map Repository.key).Nodup)
    (hvalid : ∀ repository ∈ repositories, (outcome repository).validRuns qt)
    (h : after.shown = (retainLoadedProjectDetails
      (sortProjectsByLatestExecution (rowsOf qt outcome now repositories)) service.projects,
        service.ended ++ [Call.finishRefresh])) :
    Replaced qt service repositories outcome now after := by
  obtain ⟨hprojects, hended⟩ := Prod.mk.inj h
  refine ⟨hended, hprojects, ?_, ?_⟩
  · rw [hprojects, retainLoadedProjectDetails_keys, ← rowsOf_keys]
    exact sortProjectsByLatestExecution_perm.map Row.key
  · rw [hprojects]
    exact retainLoadedProjectDetails_pairwise _
      (sortProjectsByLatestExecution_pairwise (rowsOf_isValid hvalid) (rowsOf_nodup hkeys))

theorem Retained.of_effect {after : ProjectsService} {diagnostic : QString}
    (h : after.effect = ({ service with pendingRunRequests := 0 }.failRefresh diagnostic).effect) :
    Retained service after := by
  have hended : after.ended = service.ended ++ [Call.failRefresh diagnostic] := by
    have hshown := (congrArg shown h).symm.trans effect_shown
    rw [effect_shown] at hshown
    rw [← (Prod.mk.inj hshown).2]
    simp [failRefresh, setState, ProjectsService.ended, Call.isEnd]
  constructor
  case ended => exact ⟨diagnostic, hended⟩
  case projects => exact (congrArg ProjectsService.projects h :)
  case selectedIndex => exact (congrArg ProjectsService.selectedIndex h :)
  case selectedKey => exact (congrArg ProjectsService.selectedKey h :)
  case lastSuccess => exact (congrArg ProjectsService.lastSuccess h :)

/-- The rows are the same for every order. -/
theorem replaceProjects_of_perm {order : List Repository} (hperm : order.Perm repositories)
    (hkeys : (repositories.map Repository.key).Nodup)
    (hvalid : ∀ repository ∈ repositories, (outcome repository).validRuns qt) :
    service.replaceProjects qt (rowsOf qt outcome now order) now =
      service.replaceProjects qt (rowsOf qt outcome now repositories) now := by
  have hsort : sortProjectsByLatestExecution (rowsOf qt outcome now order) =
      sortProjectsByLatestExecution (rowsOf qt outcome now repositories) :=
    (sortProjectsByLatestExecution_of_perm (hperm.symm.filterMap _) (rowsOf_isValid hvalid)
      (rowsOf_nodup hkeys)).symm
  unfold replaceProjects showProjects
  rw [hsort]

theorem Arrival.effect_of_valid (a : Arrival qt service repositories outcome now)
    (hn : repositories ≠ []) (hkeys : (repositories.map Repository.key).Nodup)
    (hvalid : ∀ repository ∈ repositories, (outcome repository).validRuns qt) :
    a.result.effect = ({ service with pendingRunRequests := 0 }.replaceProjects qt
      (rowsOf qt outcome now repositories) now).effect := by
  have hsettled := a.settled hn
  unfold Settled at hsettled
  rw [if_pos (List.all_eq_true.mpr fun repository hmem =>
    hvalid repository (a.order_perm.mem_iff.mp hmem))] at hsettled
  rw [hsettled, replaceProjects_of_perm a.order_perm hkeys hvalid]

theorem Arrival.effect_of_invalid (a : Arrival qt service repositories outcome now)
    (hinvalid : ¬ ∀ repository ∈ repositories, (outcome repository).validRuns qt) :
    ∃ diagnostic, a.result.effect =
      ({ service with pendingRunRequests := 0 }.failRefresh diagnostic).effect := by
  have hn : repositories ≠ [] := fun hn => hinvalid (hn ▸ fun _ hmem => absurd hmem List.not_mem_nil)
  have hsettled := a.settled hn
  unfold Settled at hsettled
  rwa [if_neg] at hsettled
  intro hall
  exact hinvalid fun repository hmem =>
    List.all_eq_true.mp hall repository (a.order_perm.mem_iff.mpr hmem)

theorem failRefresh_silent (diagnostic other : QString) :
    (service.failRefresh diagnostic).effect.silent = (service.failRefresh other).effect.silent := by
  rw [failRefresh_effect, failRefresh_effect]
  simp [failRefresh, setState, silent, Call.silent]

/-- What the replies to one `loadRuns` do is the same for every order in which they arrive,
the text of the diagnostic apart: they replace the projects all at once or not at all. -/
theorem loadRuns_atomic (hkeys : (repositories.map Repository.key).Nodup)
    (a b : Arrival qt service repositories outcome now) :
    a.result.effect.silent = b.result.effect.silent ∧
    ((∀ repository ∈ repositories, (outcome repository).validRuns qt) →
      a.result.effect = b.result.effect ∧
        Replaced qt service repositories outcome now a.result) ∧
    ((¬ ∀ repository ∈ repositories, (outcome repository).validRuns qt) →
      Retained service a.result) := by
  by_cases hvalid : ∀ repository ∈ repositories, (outcome repository).validRuns qt
  case pos =>
    have hboth : a.result.effect = b.result.effect ∧
        Replaced qt service repositories outcome now a.result := by
      by_cases hn : repositories = []
      case pos =>
        subst hn
        have ha : a.result = service.loadRuns qt [] now := by
          rw [Arrival.result, Arrival.events_of_nil, run_nil]
        have hb : b.result = service.loadRuns qt [] now := by
          rw [Arrival.result, Arrival.events_of_nil, run_nil]
        rw [ha, hb]
        exact ⟨rfl, .of_shown hkeys hvalid finishRefresh_shown⟩
      case neg =>
        have ha := a.effect_of_valid hn hkeys hvalid
        refine ⟨ha.trans (b.effect_of_valid hn hkeys hvalid).symm, .of_shown hkeys hvalid ?_⟩
        rw [← effect_shown, ha, effect_shown]
        exact replaceProjects_shown _
    exact ⟨congrArg silent hboth.1, fun _ => hboth, fun hinvalid => absurd hvalid hinvalid⟩
  case neg =>
    obtain ⟨diagnostic, ha⟩ := a.effect_of_invalid hvalid
    obtain ⟨other, hb⟩ := b.effect_of_invalid hvalid
    refine ⟨?_, fun h => absurd h hvalid, fun _ => .of_effect ha⟩
    rw [ha, hb]
    exact failRefresh_silent diagnostic other

end Result

section Sample

def firstRepository : Repository := { key := "o/a", name := "a", branch := "main" }
def secondRepository : Repository := { key := "o/b", name := "b", branch := "main" }

def runsSuccess : Outcome :=
  .success runsBody (.object [("workflow_runs", .array [.object [("id", .integer 7),
    ("run_number", .integer 1), ("updated_at", .string "2025-06-15T12:00:00Z")]])])

def unavailable : Reply := { error := true, status := 503 }

def firstFails (repository : Repository) : Outcome :=
  if repository = firstRepository then .failure "GitHub request failed (503)"
  else .success noJobsBody (.object [("jobs", .array [])])

abbrev SampleArrival (outcome : Repository → Outcome) : Type :=
  Arrival sampleText (initial "o" []) [firstRepository, secondRepository] outcome sampleTime

def firstRequest : StartedRequest := ⟨⟨runsUrl firstRepository, .runs 0 firstRepository⟩, none⟩
def secondRequest : StartedRequest := ⟨⟨runsUrl secondRepository, .runs 0 secondRepository⟩, none⟩

def inOrder : SampleArrival fun _ => runsSuccess where
  events := [answer 0 runsBody [], answer 0 runsBody []]
  answers :=
    ⟨⟨0, { body := runsBody }, firstRequest, firstRepository, rfl, by decide +kernel, rfl, rfl⟩,
      ⟨0, { body := runsBody }, secondRequest, secondRepository, rfl, by decide +kernel, rfl, rfl⟩,
      trivial⟩
  once := by decide +kernel

def reversed : SampleArrival fun _ => runsSuccess where
  events := [answer 1 runsBody [], answer 0 runsBody []]
  answers :=
    ⟨⟨1, { body := runsBody }, secondRequest, secondRepository, rfl, by decide +kernel, rfl, rfl⟩,
      ⟨0, { body := runsBody }, firstRequest, firstRepository, rfl, by decide +kernel, rfl, rfl⟩,
      trivial⟩
  once := by decide +kernel

theorem loadRuns_sample : inOrder.result.effect = reversed.result.effect ∧
    Replaced sampleText (initial "o" []) [firstRepository, secondRepository] (fun _ => runsSuccess)
      sampleTime inOrder.result :=
  (loadRuns_atomic (by decide) inOrder reversed).2.1 (by decide +kernel)

def failureFirst : SampleArrival firstFails where
  events := [.finished 0 unavailable sampleTime, answer 0 noJobsBody []]
  answers :=
    ⟨⟨0, unavailable, firstRequest, firstRepository, rfl, by decide +kernel, rfl, rfl⟩,
      ⟨0, { body := noJobsBody }, secondRequest, secondRepository, rfl, by decide +kernel, rfl, rfl⟩,
      trivial⟩
  once := by decide +kernel

def failureLast : SampleArrival firstFails where
  events := [answer 1 noJobsBody [], .finished 0 unavailable sampleTime]
  answers :=
    ⟨⟨1, { body := noJobsBody }, secondRequest, secondRepository, rfl, by decide +kernel, rfl, rfl⟩,
      ⟨0, unavailable, firstRequest, firstRepository, rfl, by decide +kernel, rfl, rfl⟩, trivial⟩
  once := by decide +kernel

/-- The diagnostic tells of the reply that came last. -/
theorem diagnostics_by_order : failureFirst.result.effect ≠ failureLast.result.effect := by
  intro h
  have hdiagnostics : failureFirst.result.diagnostics = failureLast.result.diagnostics :=
    (congrArg diagnostics h :)
  have hapart : failureFirst.result.diagnostics ≠ failureLast.result.diagnostics := by
    decide +kernel
  exact hapart hdiagnostics

end Sample

end ProjectsService

end RpiDashboard.Projects
