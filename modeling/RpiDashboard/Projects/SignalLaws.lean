import RpiDashboard.Data.Bindings
import RpiDashboard.Projects.SelectionLaws
import RpiDashboard.Projects.Signals

/-! Laws of the projects service's signals: a page that reads the properties again when they are
announced shows them. -/

namespace RpiDashboard.Projects

open Qt

namespace Panel

variable {panel : Panel}

/-- Details of a run that is not shown are not those of the selected row. -/
theorem insertDetail_selectedRow_of_hidden (h : panel.Synced) {repository : QString}
    {runId : Int64} (hhidden : panel.shows repository runId = false) (insert : Detail → Detail) :
    (panel.insertDetail repository runId insert).selectedRow = panel.selectedRow := by
  by_cases hindex : 0 ≤ panel.selectedIndex
  case neg => simp [selectedRow, insertDetail, hindex]
  case pos =>
    have hrow : panel.selectedRow = panel.projects[panel.selectedIndex.toNat]? := if_pos hindex
    have hafter : (panel.insertDetail repository runId insert).selectedRow =
        (panel.insertDetail repository runId insert).projects[panel.selectedIndex.toNat]? :=
      if_pos hindex
    rw [hafter, insertDetail_getElem?, ← hrow]
    cases hselected : panel.selectedRow with
    | none => rfl
    | some row =>
      rw [Option.map_some, if_neg]
      rintro ⟨hfirst, hrun⟩
      have hkey : row.key = repository := Keyed.key_of_findIdx hfirst (hrow ▸ hselected)
      have hselectedKey : panel.selectedKey = repository := (h row hselected).symm.trans hkey
      simp [shows, hselected, hselectedKey, hrun] at hhidden

end Panel

namespace ProjectsService

variable {qt : QtText} {service other : ProjectsService} {now : QDateTime}

/-- All that a page shows. -/
def face (service : ProjectsService) : Status × Int × SelectedProject × Counts × Int × Int :=
  (service.status, service.selectedIndex, selectedProject service.selectedRow, service.counts,
    service.runnerCounts)

theorem face_congr (ho : other.others = service.others) : other.face = service.face :=
  (congrArg face ho :)

@[simp] theorem startRequests_face : (service.startRequests qt).face = service.face :=
  face_congr startRequests_others

@[simp] theorem request_face {pending : Request} :
    (service.request qt pending).face = service.face :=
  face_congr request_others

theorem requests_face {α : Type*} (f : α → Request) (xs : List α) :
    (xs.foldl (fun service x => service.request qt (f x)) service).face = service.face :=
  face_congr (requests_others f xs)

theorem settle_face {index : Nat} {started : StartedRequest} {reply : Reply} :
    (service.settle qt index started reply now).face = service.face := by
  obtain ⟨interval, etags, bodies, heq⟩ := settle_eq qt service index started reply now
  rw [heq]
  rfl

end ProjectsService

namespace ProjectsPage

open ProjectsService

variable {qt : QtText} {service other : ProjectsService} {now : QDateTime} {page : ProjectsPage}

theorem Shows.congr (h : page.Shows service) (heq : other.face = service.face) :
    page.Shows other := by
  simp only [face, Prod.mk.injEq] at heq
  obtain ⟨hstatus, hindex, hselected, hcounts, hrunners⟩ := heq
  exact ⟨h.status.trans hstatus.symm, h.selectedProjectIndex.trans hindex.symm,
    h.selected.trans hselected.symm, h.counts.trans hcounts.symm, hrunners ▸ h.runnerCounts⟩

section Refresh

theorem Shows.loadRunners (h : page.Shows service) :
    (service.loadRunnersSent.foldl hear page).Shows (service.loadRunners qt) := by
  unfold loadRunnersSent ProjectsService.loadRunners
  dsimp only
  split
  case isTrue =>
    exact ⟨h.status, h.selectedProjectIndex, h.selected, rfl, Or.inr rfl⟩
  case isFalse =>
    have hreset : page.Shows { service.resetRunners with
        pendingRunnerRequests := service.runnerUrls.length } :=
      ⟨h.status, h.selectedProjectIndex, h.selected, h.counts, Or.inr rfl⟩
    exact hreset.congr (requests_face _ _)

/-- The end of a refresh announces all but the index. -/
theorem shows_finishRefresh (hindex : page.selectedProjectIndex = service.selectedIndex) :
    ((service.finishRefreshSent now).foldl hear page).Shows (service.finishRefresh qt now) := by
  rw [finishRefreshSent, List.foldl_append]
  refine Shows.loadRunners ⟨rfl, hindex, rfl, rfl, Or.inl rfl⟩

theorem Shows.failRefresh (h : page.Shows service) (diagnostic : QString) :
    ((service.failRefreshSent diagnostic).foldl hear page).Shows
      (service.failRefresh diagnostic) :=
  ⟨rfl, h.selectedProjectIndex, h.selected, h.counts, h.runnerCounts⟩

theorem Shows.refresh (h : page.Shows service) :
    (service.refreshSent.foldl hear page).Shows (service.refresh qt) := by
  unfold refreshSent ProjectsService.refresh
  split
  case isTrue => exact h
  case isFalse =>
    refine Shows.congr ?_ request_face
    exact ⟨rfl, h.selectedProjectIndex, h.selected, h.counts, h.runnerCounts⟩

theorem Shows.loadRuns (h : page.Shows service) (repositories : List Repository) :
    ((service.loadRunsSent now repositories).foldl hear page).Shows
      (service.loadRuns qt repositories now) := by
  unfold loadRunsSent ProjectsService.loadRuns
  split
  case isTrue => exact shows_finishRefresh h.selectedProjectIndex
  case isFalse => exact h.congr (requests_face _ _)

end Refresh

section Selection

theorem Shows.loadSelectedDetails (h : page.Shows service) :
    (service.loadSelectedDetailsSent.foldl hear page).Shows (service.loadSelectedDetails qt) := by
  unfold loadSelectedDetailsSent ProjectsService.loadSelectedDetails
  cases hrow : service.selectedRow with
  | none => exact ⟨h.status, h.selectedProjectIndex, rfl, h.counts, h.runnerCounts⟩
  | some row => exact h.congr (request_face.trans request_face)

theorem Shows.selectProject (h : page.Shows service) (index : Int) :
    ((service.selectProjectSent index).foldl hear page).Shows (service.selectProject qt index) := by
  unfold selectProjectSent ProjectsService.selectProject
  split
  case isTrue => exact h
  case isFalse =>
    rw [List.foldl_append]
    exact Shows.loadSelectedDetails ⟨h.status, rfl, rfl, h.counts, h.runnerCounts⟩

theorem shows_replaceProjects (page : ProjectsPage) (rows : List Row) :
    ((service.replaceProjectsSent qt now rows).foldl hear page).Shows
      (service.replaceProjects qt rows now) := by
  rw [replaceProjectsSent, List.foldl_cons, List.foldl_append]
  exact (shows_finishRefresh rfl).loadSelectedDetails

end Selection

section Details

variable {repository : QString} {runId : Int64} {document : QJsonValue}

theorem insertDetail_counts (service : ProjectsService) (repository : QString) (runId : Int64)
    (insert : Detail → Detail) :
    (service.insertDetail repository runId insert).counts = service.counts := by
  refine congrArg countsOf (Keyed.map_modify fun row => ?_)
  split <;> rfl

/-- Loaded details are announced where they are shown. -/
theorem Shows.loaded (h : page.Shows service) (hsynced : service.panel.Synced)
    (insertion : Insertion)
    (hface : other.face = (service.insertDetail repository runId insertion.insert).face)
    (hshows : other.shows repository runId =
      (service.insertDetail repository runId insertion.insert).shows repository runId) :
    ((if other.shows repository runId then [((.selectedProjectChanged, other) : Message)]
      else []).foldl hear page).Shows other := by
  have hcounts := insertDetail_counts service repository runId insertion.insert
  split
  case isTrue =>
    simp only [face, Prod.mk.injEq] at hface
    obtain ⟨hstatus, hindex, -, hcounts', hrunners⟩ := hface
    refine ⟨?_, ?_, rfl, ?_, ?_⟩
    · exact h.status.trans hstatus.symm
    · exact h.selectedProjectIndex.trans hindex.symm
    · exact h.counts.trans (hcounts'.trans hcounts).symm
    · exact hrunners ▸ h.runnerCounts
  case isFalse hhidden =>
    refine Shows.congr ?_ hface
    rw [hshows, Bool.not_eq_true] at hhidden
    have hbefore : service.panel.shows repository runId = false :=
      (Panel.insertDetail_shows service.panel repository runId insertion).symm.trans hhidden
    have hrow := Panel.insertDetail_selectedRow_of_hidden hsynced hbefore insertion.insert
    exact ⟨h.status, h.selectedProjectIndex, h.selected.trans (congrArg selectedProject hrow).symm,
      h.counts.trans hcounts.symm, h.runnerCounts⟩

theorem Shows.jobsSucceed (h : page.Shows service) (hsynced : service.panel.Synced)
    (repository : QString) (runId : Int64) (document : QJsonValue) :
    ((service.jobsSucceedSent qt now repository runId document).foldl hear page).Shows
      (service.jobsSucceed qt repository runId document now) := by
  unfold jobsSucceedSent
  dsimp only
  split
  case isTrue hvalid =>
    have hafter : service.jobsSucceed qt repository runId document now = _ := if_pos hvalid
    rw [hafter]
    refine h.loaded hsynced (jobsDetail qt now ((jobsOf document).map QJsonValue.toObject)) ?_ ?_
    · split <;> rfl
    · split <;> rfl
  case isFalse hvalid =>
    have hafter : service.jobsSucceed qt repository runId document now = _ := if_neg hvalid
    rw [hafter]
    split
    · exact h.congr rfl
    · exact h

theorem Shows.artifactsSucceed (h : page.Shows service) (hsynced : service.panel.Synced)
    (repository : QString) (runId : Int64) (document : QJsonValue) :
    ((service.artifactsSucceedSent qt repository runId document).foldl hear page).Shows
      (service.artifactsSucceed qt repository runId document) := by
  unfold artifactsSucceedSent
  dsimp only
  split
  case isTrue hvalid =>
    have hafter : service.artifactsSucceed qt repository runId document = _ := if_pos hvalid
    rw [hafter]
    exact h.loaded hsynced (artifactsDetail qt ((artifactsOf document).map QJsonValue.toObject))
      rfl rfl
  case isFalse hvalid =>
    have hafter : service.artifactsSucceed qt repository runId document = _ := if_neg hvalid
    rw [hafter]
    exact h

end Details

section Callbacks

theorem runnersSucceed_unfinished {batch : Nat} {document : QJsonValue}
    (h : service.pendingRunnerRequests - 1 ≠ 0) :
    (service.runnersSucceed batch document).face = service.face := by
  obtain ⟨ids, onlineIds, heq⟩ := insertRunners_frame service (runnersOf document)
  unfold ProjectsService.runnersSucceed
  dsimp only
  rw [heq, if_neg]
  · rfl
  · simp [h]

theorem Shows.runnersSucceed (h : page.Shows service) (batch : Nat) (document : QJsonValue) :
    ((service.runnersSucceedSent batch document).foldl hear page).Shows
      (service.runnersSucceed batch document) := by
  unfold runnersSucceedSent
  split
  case isTrue =>
    obtain ⟨failed, pending, ids, onlineIds, online, total, heq⟩ :=
      runnersSucceed_frame service batch document
    rw [heq]
    exact ⟨h.status, h.selectedProjectIndex, h.selected, rfl, Or.inl rfl⟩
  case isFalse hpending => exact h.congr (runnersSucceed_unfinished hpending)

theorem Shows.runnersFail (h : page.Shows service) (batch : Nat) :
    ((service.runnersFailSent batch).foldl hear page).Shows (service.runnersFail batch) := by
  unfold runnersFailSent
  split
  case isTrue => exact ⟨h.status, h.selectedProjectIndex, h.selected, rfl, Or.inl rfl⟩
  case isFalse => exact h.congr rfl

theorem Shows.repositoriesSucceed (h : page.Shows service) (number : Nat)
    (repositories : List Repository) (document : QJsonValue) :
    ((service.repositoriesSucceedSent now repositories document).foldl hear page).Shows
      (service.repositoriesSucceed qt number repositories document now) := by
  unfold repositoriesSucceedSent ProjectsService.repositoriesSucceed
  dsimp only
  split
  · split
    · exact h.congr request_face
    split
    · exact h.congr request_face
    · exact h.loadRuns _
  · exact h.failRefresh _

theorem Shows.privateRepositoriesSucceed (h : page.Shows service) (number : Nat)
    (accumulated : List Repository) (document : QJsonValue) :
    ((service.privateRepositoriesSucceedSent qt now accumulated document).foldl hear page).Shows
      (service.privateRepositoriesSucceed qt number accumulated document now) := by
  unfold privateRepositoriesSucceedSent ProjectsService.privateRepositoriesSucceed
  dsimp only
  split
  · split
    · exact h.congr request_face
    · exact h.loadRuns _
  · exact h.failRefresh _

theorem Shows.updateBatch (h : page.Shows service) (batch : Nat) (update : RunBatch → RunBatch) :
    page.Shows (service.updateBatch batch update) := h.congr rfl

theorem Shows.runsSucceed (h : page.Shows service) (batch : Nat) (repository : Repository)
    (document : QJsonValue) :
    ((service.runsSucceedSent qt now batch repository document).foldl hear page).Shows
      (service.runsSucceed qt batch repository document now) := by
  unfold runsSucceedSent ProjectsService.runsSucceed
  dsimp only
  split
  · split
    · exact (h.updateBatch batch _).failRefresh _
    · exact shows_replaceProjects page _
  · exact h.updateBatch batch _

theorem Shows.runsFail (h : page.Shows service) (batch : Nat) (error : QString) :
    ((service.runsFailSent batch error).foldl hear page).Shows (service.runsFail batch error) := by
  unfold runsFailSent ProjectsService.runsFail
  dsimp only
  split
  · exact (h.updateBatch batch _).failRefresh error
  · exact h.updateBatch batch _

theorem Shows.deliver (h : page.Shows service) (hsynced : service.panel.Synced)
    (continuation : Continuation) (outcome : Outcome) :
    ((service.deliverSent qt now continuation outcome).foldl hear page).Shows
      (service.deliver qt continuation now outcome) := by
  cases continuation with
  | repositories number repositories =>
    cases outcome with
    | success body document => exact h.repositoriesSucceed number repositories document
    | failure error => exact h.failRefresh error
  | privateRepositories number accumulated =>
    cases outcome with
    | success body document => exact h.privateRepositoriesSucceed number accumulated document
    | failure error => exact h.loadRuns accumulated
  | runs batch repository =>
    cases outcome with
    | success body document => exact h.runsSucceed batch repository document
    | failure error => exact h.runsFail batch error
  | runners batch =>
    cases outcome with
    | success body document => exact h.runnersSucceed batch document
    | failure error => exact h.runnersFail batch
  | jobs repository runId =>
    cases outcome with
    | success body document => exact h.jobsSucceed hsynced repository runId document
    | failure error =>
      refine h.congr ?_
      show face (if _ then _ else _) = _
      split <;> rfl
  | artifacts repository runId =>
    cases outcome with
    | success body document => exact h.artifactsSucceed hsynced repository runId document
    | failure error => exact h

end Callbacks

theorem Shows.step (h : page.Shows service) (hsynced : service.panel.Synced) (e : Event) :
    ((service.sent qt e).foldl hear page).Shows (service.step qt e) := by
  cases e with
  | refresh => exact h.refresh
  | selectProject index => exact h.selectProject index
  | finished index reply now =>
    cases hi : service.inFlight[index]? with
    | none => simpa [sent, ProjectsService.step, finishedSent, finished_of_none hi, hi] using h
    | some started =>
      simp only [sent, ProjectsService.step, finishedSent, finished_of_some hi, hi]
      refine Shows.congr ?_ startRequests_face
      have hsettled : (service.settle qt index started reply now).panel.Synced := by
        rwa [settle_panel]
      exact (h.congr settle_face).deliver hsettled _ _

end ProjectsPage

namespace ProjectsService

theorem initial_synced (owner : QString) (token : QByteArray) :
    (initial owner token).panel.Synced := by
  intro row hrow
  cases hrow

/-- For every order of refreshes, selections and replies, a page that reads the properties of the
service again when they are announced shows them; the counts of the runners may be earlier ones
while the service has none. -/
theorem projects_page_shows (qt : QtText) (owner : QString) (token : QByteArray)
    (es : List Event) :
    ((emitted (step qt) (sent qt) (initial owner token) es).foldl ProjectsPage.hear
      (.of (initial owner token))).Shows (run (step qt) (initial owner token) es) := by
  refine (heard_run (Q := fun _ _ => True)
    (R := fun (page : ProjectsPage) (service : ProjectsService) =>
      page.Shows service ∧ service.panel.Synced)
    (throughout_of_forall fun _ _ _ => trivial) ?_ ?_).1
  · exact ⟨⟨rfl, rfl, rfl, rfl, Or.inl rfl⟩, initial_synced owner token⟩
  · intro page service e _ ⟨hshows, hsynced⟩
    refine ⟨hshows.step hsynced e, ?_⟩
    rw [step_panel]
    exact run_invariant hsynced fun _ change _ h => h.step change

end ProjectsService

end RpiDashboard.Projects
