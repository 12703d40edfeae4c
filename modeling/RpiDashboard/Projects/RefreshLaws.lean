import RpiDashboard.Projects.RequestLaws

/-! Laws of the refresh: discovery, then the runs of every repository, one refresh at a time. -/

namespace RpiDashboard.Projects

open Qt

namespace Continuation

def isDiscovery : Continuation → Bool
  | .repositories _ _ => true
  | .privateRepositories _ _ => true
  | _ => false

def isRefresh (continuation : Continuation) : Bool :=
  continuation.isDiscovery || continuation.isRuns

end Continuation

/-- Whether a refresh is open; none once two were open together, or one has ended twice. -/
def Call.track : Option Bool → Call → Option Bool
  | some false, .refresh => some true
  | some true, .finishRefresh => some false
  | some true, .failRefresh _ => some false
  | state, .loadRunners _ _ => state
  | state, .finished _ => state
  | _, _ => none

namespace ProjectsService

variable {qt : QtText} {service : ProjectsService}

def openRefresh (service : ProjectsService) : Option Bool :=
  service.calls.foldl Call.track (some false)

/-- The unfinished requests of the refresh. -/
def refreshing (service : ProjectsService) : List Continuation :=
  (service.unfinished.map Request.continuation).filter Continuation.isRefresh

/-- What holds of the refresh between events. -/
structure OneRefresh (service : ProjectsService) : Prop where
  filled : service.Filled
  /-- One page of the discovery, or runs requested together. -/
  single : service.refreshing = [] ∨
    (∃ continuation, service.refreshing = [continuation] ∧ continuation.isDiscovery) ∨
    ∃ batch, ∀ continuation ∈ service.refreshing, ∃ repository, continuation = .runs batch repository
  pending : service.pendingRunRequests = service.refreshing.countP Continuation.isRuns
  /-- Started refreshes have ended once, but for the one whose requests are unfinished. -/
  ended : service.openRefresh = some (!service.refreshing.isEmpty)

/-- The part of the service that a refresh goes through. -/
structure Pipeline where
  refreshing : List Continuation
  state : ServiceState
  pendingRunRequests : Int
  batches : Nat
  openRefresh : Option Bool

def pipeline (service : ProjectsService) : Pipeline where
  refreshing := service.refreshing
  state := service.state
  pendingRunRequests := service.pendingRunRequests
  batches := service.runBatches.length
  openRefresh := service.openRefresh

inductive Stage (service : ProjectsService) : Prop
  | idle : service.refreshing = [] → service.pendingRunRequests = 0 →
    service.openRefresh = some false →
    service.state ≠ .loading ∨ service.unfinished = [] ∧ service.projects = [] → Stage service
  | discovery (continuation : Continuation) : service.refreshing = [continuation] →
    continuation.isDiscovery → service.pendingRunRequests = 0 → service.openRefresh = some true →
    service.state = .loading → Stage service
  | running : service.refreshing ≠ [] →
    (∀ continuation ∈ service.refreshing,
      ∃ repository, continuation = .runs (service.runBatches.length - 1) repository) →
    service.pendingRunRequests = service.refreshing.length → service.openRefresh = some true →
    service.state = .loading → Stage service

section Pipeline

/-- Only the refresh requests among the unfinished, and the fields besides. -/
theorem pipeline_congr {other : ProjectsService} (hr : other.refreshing = service.refreshing)
    (hs : other.state = service.state)
    (hp : other.pendingRunRequests = service.pendingRunRequests)
    (hb : other.runBatches.length = service.runBatches.length)
    (ho : other.openRefresh = service.openRefresh) : other.pipeline = service.pipeline := by
  simp only [pipeline, hr, hs, hp, hb, ho]

@[simp] theorem startRequests_pipeline :
    (service.startRequests qt).pipeline = service.pipeline := by
  have ho : (service.startRequests qt).others = service.others := startRequests_others
  refine pipeline_congr ?_ (congrArg state ho :) (congrArg pendingRunRequests ho :)
    (congrArg (fun s => s.runBatches.length) ho :) (congrArg openRefresh ho :)
  simp only [refreshing, startRequests_unfinished]

theorem refreshing_append {other : ProjectsService} {later : List Request}
    (h : other.unfinished = service.unfinished ++ later) :
    other.refreshing =
      service.refreshing ++ (later.map Request.continuation).filter Continuation.isRefresh := by
  rw [refreshing, h, List.map_append, List.filter_append, refreshing]

theorem request_pipeline {pending : Request} :
    (service.request qt pending).pipeline = { service.pipeline with
      refreshing := service.refreshing ++ [pending.continuation].filter Continuation.isRefresh } := by
  rw [request, startRequests_pipeline]
  have hu : unfinished { service with requests := service.requests ++ [pending] } =
      service.unfinished ++ [pending] := (List.append_assoc _ _ _).symm
  simp only [pipeline, refreshing_append hu]
  rfl

/-- Requests that are not of the refresh leave it alone. -/
theorem request_pipeline_of_other {pending : Request}
    (h : pending.continuation.isRefresh = false) :
    (service.request qt pending).pipeline = service.pipeline := by
  rw [request_pipeline, List.filter_singleton, h]
  simp [pipeline]

theorem requests_pipeline (qt : QtText) (service : ProjectsService) {α : Type*} (f : α → Request)
    (xs : List α) :
    (xs.foldl (fun service x => service.request qt (f x)) service).pipeline =
      { service.pipeline with
        refreshing := service.refreshing ++
          (xs.map fun x => (f x).continuation).filter Continuation.isRefresh } := by
  induction xs generalizing service with
  | nil => simp [pipeline]
  | cons x xs ih =>
    rw [List.foldl_cons, ih, request_pipeline]
    have hr : (service.request qt (f x)).refreshing = _ :=
      congrArg Pipeline.refreshing request_pipeline
    rw [hr]
    simp only [List.map_cons, List.append_assoc, ← List.filter_append, List.singleton_append]

theorem loadRunners_pipeline : (service.loadRunners qt).pipeline = service.pipeline := by
  have hreset : service.resetRunners.pipeline = service.pipeline :=
    pipeline_congr rfl rfl rfl rfl (by simp [openRefresh, resetRunners, Call.track])
  unfold loadRunners
  dsimp only
  split
  · exact hreset
  · rw [requests_pipeline, List.filter_eq_nil_iff.mpr (by simp [Continuation.isRefresh,
      Continuation.isDiscovery, Continuation.isRuns]), List.append_nil]
    exact hreset

/-- The refresh ends, one way or the other. -/
def Pipeline.Ends (before after : Pipeline) : Prop :=
  ∃ state, state ≠ .loading ∧ after = { before with state, openRefresh := some false }

theorem failRefresh_pipeline (diagnostic : QString) (h : service.openRefresh = some true) :
    service.pipeline.Ends (service.failRefresh diagnostic).pipeline := by
  have ho : (service.failRefresh diagnostic).openRefresh = some false := by
    rw [openRefresh] at h
    simp [openRefresh, failRefresh, setState, h, Call.track]
  refine ⟨(service.failRefresh diagnostic).state, ?_, ?_⟩
  · unfold failRefresh setState
    dsimp only
    split <;> simp
  · rw [← ho]
    rfl

theorem finishRefresh_pipeline (now : QDateTime) (h : service.openRefresh = some true) :
    service.pipeline.Ends (service.finishRefresh qt now).pipeline := by
  have ho : (service.refreshed now).openRefresh = some false := by
    rw [openRefresh] at h
    simp [openRefresh, refreshed, setState, h, Call.track]
  rw [finishRefresh, loadRunners_pipeline]
  refine ⟨(service.refreshed now).state, ?_, ?_⟩
  · unfold refreshed setState
    dsimp only
    split <;> simp
  · rw [← ho]
    rfl

theorem loadSelectedDetails_pipeline :
    (service.loadSelectedDetails qt).pipeline = service.pipeline := by
  unfold loadSelectedDetails
  split
  · rfl
  · rw [request_pipeline_of_other rfl, request_pipeline_of_other rfl]
    rfl

/-- What the callbacks of other requests can change: the details of the projects and the
runners. -/
theorem deliver_frame_of_other (qt : QtText) (service : ProjectsService)
    {continuation : Continuation} (now : QDateTime) (outcome : Outcome)
    (h : continuation.isRefresh = false) :
    ∃ projects stages failed pending ids onlineIds online total,
      projects.map Row.key = service.projects.map Row.key ∧
      service.deliver qt continuation now outcome = { service with
        projects, stages
        runnersFailed := failed
        pendingRunnerRequests := pending
        runnerIds := ids
        onlineRunnerIds := onlineIds
        onlineRunners := online
        totalRunners := total } := by
  cases continuation with
  | repositories page repositories => cases h
  | privateRepositories page accumulated => cases h
  | runs batch repository => cases h
  | runners batch =>
    cases outcome with
    | success body document =>
      obtain ⟨failed, pending, ids, onlineIds, online, total, heq⟩ :=
        runnersSucceed_frame service batch document
      exact ⟨_, _, _, _, _, _, _, _, rfl, heq⟩
    | failure error => exact ⟨_, _, _, _, _, _, _, _, rfl, rfl⟩
  | jobs repository runId =>
    cases outcome with
    | success body document =>
      obtain ⟨projects, stages, hkeys, heq⟩ :=
        jobsSucceed_frame qt service repository runId document now
      exact ⟨_, _, _, _, _, _, _, _, hkeys, heq⟩
    | failure error =>
      simp only [deliver, fail]
      split <;> exact ⟨_, _, _, _, _, _, _, _, rfl, rfl⟩
  | artifacts repository runId =>
    cases outcome with
    | success body document =>
      obtain ⟨projects, hkeys, heq⟩ := artifactsSucceed_frame qt service repository runId document
      exact ⟨_, _, _, _, _, _, _, _, hkeys, heq⟩
    | failure error => exact ⟨_, _, _, _, _, _, _, _, rfl, rfl⟩

/-- The callbacks of other requests leave the refresh alone. -/
theorem deliver_pipeline_of_other {continuation : Continuation} (now : QDateTime)
    (outcome : Outcome) (h : continuation.isRefresh = false) :
    (service.deliver qt continuation now outcome).pipeline = service.pipeline := by
  obtain ⟨_, _, _, _, _, _, _, _, -, heq⟩ := deliver_frame_of_other qt service now outcome h
  rw [heq]
  rfl

end Pipeline

section Stage

variable {now : QDateTime} {outcome : Outcome}

/-- In the middle of a callback: the refresh is open, and none of its requests is unfinished. -/
structure Between (service : ProjectsService) : Prop where
  refreshing : service.refreshing = []
  pending : service.pendingRunRequests = 0
  ended : service.openRefresh = some true
  state : service.state = .loading

theorem Stage.of_ends {other : ProjectsService} (h : service.Between)
    (he : service.pipeline.Ends other.pipeline) : other.Stage := by
  obtain ⟨state, hs, heq⟩ := he
  simp only [pipeline, Pipeline.mk.injEq] at heq
  obtain ⟨hr, hstate, hp, -, ho⟩ := heq
  exact .idle (hr.trans h.refreshing) (hp.trans h.pending) ho (Or.inl (hstate ▸ hs))

/-- The order of the unfinished requests does not matter. -/
theorem Stage.congr {other : ProjectsService} {refreshing : List Continuation} (h : service.Stage)
    (hn : service.state ≠ .loading ∨ service.refreshing ≠ [])
    (hr : service.refreshing.Perm refreshing)
    (hp : other.pipeline = { service.pipeline with refreshing }) : other.Stage := by
  simp only [pipeline, Pipeline.mk.injEq] at hp
  obtain ⟨rfl, hs, hp, hb, ho⟩ := hp
  cases h with
  | idle h₁ h₂ h₃ _ =>
    refine .idle (List.nil_perm.mp (h₁ ▸ hr)) (hp.trans h₂) (ho.trans h₃) (Or.inl ?_)
    rw [hs]
    exact hn.resolve_right (not_not_intro h₁)
  | discovery continuation h₁ h₂ h₃ h₄ h₅ =>
    exact .discovery continuation (List.singleton_perm.mp (h₁ ▸ hr)).symm h₂ (hp.trans h₃)
      (ho.trans h₄) (hs.trans h₅)
  | running h₁ h₂ h₃ h₄ h₅ =>
    refine .running (fun h => h₁ (List.perm_nil.mp (h ▸ hr))) ?_ ?_ (ho.trans h₄) (hs.trans h₅)
    · rw [hb]
      exact fun continuation hmem => h₂ continuation (hr.mem_iff.mpr hmem)
    · rw [hp, h₃, hr.length_eq]

theorem Stage.startRequests (h : service.Stage) : (service.startRequests qt).Stage := by
  have hp : (service.startRequests qt).pipeline = service.pipeline := startRequests_pipeline
  have hu : (service.startRequests qt).unfinished = service.unfinished := startRequests_unfinished
  have ho : (service.startRequests qt).others = service.others := startRequests_others
  have hprojects : (service.startRequests qt).projects = service.projects := (congrArg projects ho :)
  cases h with
  | idle h₁ h₂ h₃ h₄ =>
    simp only [pipeline, Pipeline.mk.injEq] at hp
    obtain ⟨hr, hs, hp, hb, ho⟩ := hp
    exact .idle (hr.trans h₁) (hp.trans h₂) (ho.trans h₃) (by rw [hs, hu, hprojects]; exact h₄)
  | discovery continuation h₁ h₂ h₃ h₄ h₅ =>
    exact (Stage.discovery continuation h₁ h₂ h₃ h₄ h₅).congr (Or.inr (by simp [h₁]))
      (List.Perm.refl _) hp
  | running h₁ h₂ h₃ h₄ h₅ =>
    exact (Stage.running h₁ h₂ h₃ h₄ h₅).congr (Or.inr h₁) (List.Perm.refl _) hp

theorem Between.failRefresh (h : service.Between) (diagnostic : QString) :
    (service.failRefresh diagnostic).Stage :=
  .of_ends h (failRefresh_pipeline diagnostic h.ended)

theorem Between.request (h : service.Between) {pending : Request}
    (hd : pending.continuation.isDiscovery) : (service.request qt pending).Stage := by
  have hp : (service.request qt pending).pipeline = _ := request_pipeline
  simp only [pipeline, Pipeline.mk.injEq] at hp
  obtain ⟨hr, hs, hp, -, ho⟩ := hp
  have hr : (service.request qt pending).refreshing = [pending.continuation] := by
    rw [hr, h.refreshing, List.filter_singleton, Continuation.isRefresh, hd]
    rfl
  exact .discovery pending.continuation hr hd (hp.trans h.pending) (ho.trans h.ended)
    (hs.trans h.state)

theorem Between.finishRefresh (h : service.Between) : (service.finishRefresh qt now).Stage :=
  .of_ends h (finishRefresh_pipeline now h.ended)

theorem Between.loadRuns (h : service.Between) (repositories : List Repository) :
    (service.loadRuns qt repositories now).Stage := by
  unfold ProjectsService.loadRuns
  split
  case isTrue =>
    have hb : Between { service with projects := [] } :=
      ⟨h.refreshing, h.pending, h.ended, h.state⟩
    exact hb.finishRefresh
  case isFalse hne =>
    let prepared : ProjectsService := { service with
      pendingRunRequests := repositories.length
      runBatches := service.runBatches ++ [{}] }
    have hp := requests_pipeline qt prepared
      (fun repository => ⟨runsUrl repository, .runs service.runBatches.length repository⟩)
      repositories
    simp only [pipeline, Pipeline.mk.injEq] at hp
    obtain ⟨hr, hs, hp, hb, ho⟩ := hp
    have hrefreshing : prepared.refreshing = [] := h.refreshing
    have hbatches : prepared.runBatches.length - 1 = service.runBatches.length := by
      simp [prepared]
    rw [hrefreshing, List.nil_append, List.filter_eq_self.mpr (by simp [Continuation.isRefresh,
      Continuation.isRuns])] at hr
    refine .running ?_ ?_ ?_ (ho.trans h.ended) (hs.trans h.state)
    · rw [hr]
      simpa using hne
    · rw [hr, hb, hbatches]
      simp
    · rw [hp, hr, List.length_map]

/-- In the middle of the callback of a runs request, which is still counted. -/
structure Among (service : ProjectsService) : Prop where
  refreshing : ∀ continuation ∈ service.refreshing,
    ∃ repository, continuation = .runs (service.runBatches.length - 1) repository
  pending : service.pendingRunRequests = service.refreshing.length + 1
  ended : service.openRefresh = some true
  state : service.state = .loading

theorem Among.updateBatch (h : service.Among) (batch : Nat) (update : RunBatch → RunBatch) :
    (service.updateBatch batch update).pendingRunRequests = service.refreshing.length := by
  have hp := h.pending
  show service.pendingRunRequests - 1 = _
  omega

theorem Among.between (h : service.Among) {batch : Nat} {update : RunBatch → RunBatch}
    (hz : (service.updateBatch batch update).pendingRunRequests = 0) :
    (service.updateBatch batch update).Between := by
  rw [h.updateBatch] at hz
  have hr : service.refreshing = [] := List.length_eq_zero_iff.mp (Int.ofNat_eq_zero.mp hz)
  exact ⟨hr, by rw [h.updateBatch, hr]; rfl, h.ended, h.state⟩

theorem Among.running (h : service.Among) {batch : Nat} {update : RunBatch → RunBatch}
    (hz : (service.updateBatch batch update).pendingRunRequests ≠ 0) :
    (service.updateBatch batch update).Stage := by
  have hb : (service.updateBatch batch update).runBatches.length = service.runBatches.length :=
    List.length_modify ..
  refine .running (fun hr => hz ?_) ?_ (h.updateBatch batch update) h.ended h.state
  · rw [h.updateBatch, show service.refreshing = [] from hr]
    rfl
  · rw [hb]
    exact h.refreshing

theorem Between.replaceProjects (h : service.Between) (rows : List Row) :
    (service.replaceProjects qt rows now).Stage := by
  refine .of_ends h ?_
  rw [ProjectsService.replaceProjects, loadSelectedDetails_pipeline]
  exact finishRefresh_pipeline now h.ended

theorem Among.runsSucceed (h : service.Among) (batch : Nat) (repository : Repository)
    (document : QJsonValue) : (service.runsSucceed qt batch repository document now).Stage := by
  unfold ProjectsService.runsSucceed
  dsimp only
  split
  case isTrue hz =>
    split
    · exact (h.between hz).failRefresh _
    · exact (h.between hz).replaceProjects _
  case isFalse hz => exact h.running hz

theorem Among.runsFail (h : service.Among) (batch : Nat) (error : QString) :
    (service.runsFail batch error).Stage := by
  unfold ProjectsService.runsFail
  dsimp only
  split
  case isTrue hz => exact (h.between hz).failRefresh _
  case isFalse hz => exact h.running hz

theorem Between.deliver (h : service.Between) {continuation : Continuation}
    (hd : continuation.isDiscovery) :
    (service.deliver qt continuation now outcome).Stage := by
  cases continuation with
  | repositories page repositories =>
    cases outcome with
    | success body document =>
      simp only [ProjectsService.deliver, succeed, repositoriesSucceed]
      split
      · split
        · exact h.request rfl
        · split
          · exact h.request rfl
          · exact h.loadRuns _
      · exact h.failRefresh _
    | failure error => exact h.failRefresh error
  | privateRepositories page accumulated =>
    cases outcome with
    | success body document =>
      simp only [ProjectsService.deliver, succeed, privateRepositoriesSucceed]
      split
      · split
        · exact h.request rfl
        · exact h.loadRuns _
      · exact h.failRefresh _
    | failure error => exact h.loadRuns accumulated
  | runs batch repository => cases hd
  | runners batch => cases hd
  | jobs repository runId => cases hd
  | artifacts repository runId => cases hd

theorem Among.deliver (h : service.Among) (batch : Nat) (repository : Repository) :
    (service.deliver qt (.runs batch repository) now outcome).Stage := by
  cases outcome with
  | success body document => exact h.runsSucceed batch repository document
  | failure error => exact h.runsFail batch error

end Stage

section Step

variable {index : Nat} {started : StartedRequest} {reply : Reply} {now : QDateTime}

theorem settle_refreshing (hi : service.inFlight[index]? = some started) :
    service.refreshing.Perm ([started.request.continuation].filter Continuation.isRefresh ++
      (service.settle qt index started reply now).refreshing) := by
  have hperm := (settle_unfinished qt reply now hi).map
    Request.continuation
  rw [List.map_cons] at hperm
  rw [refreshing, refreshing, ← List.filter_append, List.singleton_append]
  exact hperm.filter _

@[simp] theorem track_finished (state : Option Bool) (finished : Finished) :
    Call.track state (.finished finished) = state := by
  cases state with
  | none => rfl
  | some state => cases state <;> rfl

/-- What the bookkeeping leaves as it is. -/
theorem settle_pipeline : (service.settle qt index started reply now).pipeline =
    { service.pipeline with
      refreshing := (service.settle qt index started reply now).refreshing } := by
  obtain ⟨interval, etags, bodies, heq⟩ := settle_eq qt service index started reply now
  rw [heq]
  simp [pipeline, openRefresh]

end Step

/-- Past the guard of `refresh` no refresh is under way. -/
theorem Stage.idle_of_unguarded (h : service.Stage) (hf : service.Filled)
    (hguard : ¬ (service.state = .loading ∧ 0 < service.activeRequests)) :
    service.refreshing = [] ∧ service.pendingRunRequests = 0 ∧
      service.openRefresh = some false := by
  have hbusy : service.state = .loading → service.refreshing ≠ [] → False := by
    intro hs hr
    refine hguard ⟨hs, hf.active_pos fun hu => hr ?_⟩
    simp [refreshing, hu]
  cases h with
  | idle hr hp ho _ => exact ⟨hr, hp, ho⟩
  | discovery continuation hr _ _ _ hs => exact (hbusy hs (by simp [hr])).elim
  | running hr _ _ _ hs => exact (hbusy hs hr).elim

theorem Stage.refresh (h : service.Stage) (hf : service.Filled) : (service.refresh qt).Stage := by
  unfold ProjectsService.refresh
  split
  case isTrue => exact h
  case isFalse hguard =>
    obtain ⟨hr, hp, ho⟩ := h.idle_of_unguarded hf hguard
    have hb : Between (setState { service with
        refreshRequestCount := 0
        countingRefreshRequests := true
        calls := service.calls ++ [Call.refresh] } .loading "") := by
      refine ⟨hr, hp, ?_, rfl⟩
      rw [openRefresh] at ho
      simp [openRefresh, setState, ho, Call.track]
    exact hb.request rfl

theorem Stage.selectProject (h : service.Stage) (index : Int) :
    (service.selectProject qt index).Stage := by
  unfold ProjectsService.selectProject
  split
  case isTrue => exact h
  case isFalse hindex =>
    refine h.congr ?_ (List.Perm.refl _) loadSelectedDetails_pipeline
    by_contra hn
    simp only [not_or, not_not, ne_eq] at hn
    cases h with
    | idle hr hp ho hs =>
      obtain ⟨-, hempty⟩ := hs.resolve_left (not_not_intro hn.1)
      simp [hempty] at hindex
      omega
    | discovery continuation hr => simp [hn.2] at hr
    | running hr => exact hr hn.2

section Finished

variable {index : Nat} {started : StartedRequest} {reply : Reply} {now : QDateTime}
  {outcome : Outcome}

/-- The callback of a request that is not of the refresh. -/
theorem Stage.finished_other (h : service.Stage) (hi : service.inFlight[index]? = some started)
    (hc : started.request.continuation.isRefresh = false) :
    ((service.settle qt index started reply now).deliver qt started.request.continuation now
      outcome).Stage := by
  have hperm : service.refreshing.Perm (_ ++ (service.settle qt index started reply now).refreshing)
    := settle_refreshing hi
  rw [List.filter_singleton, hc, cond_false, List.nil_append] at hperm
  have hunfinished : service.unfinished ≠ [] := fun hn => by
    have hlength := (settle_unfinished qt reply now hi).length_eq
    simp [hn] at hlength
  have hbusy : service.state ≠ .loading ∨ service.refreshing ≠ [] := by
    cases h with
    | idle _ _ _ hs => exact Or.inl (hs.resolve_right fun hn => hunfinished hn.1)
    | discovery continuation hr => exact Or.inr (by simp [hr])
    | running hr => exact Or.inr hr
  exact h.congr hbusy hperm ((deliver_pipeline_of_other now outcome hc).trans settle_pipeline)

theorem Stage.finished_refresh (h : service.Stage) (hi : service.inFlight[index]? = some started)
    (hc : started.request.continuation.isRefresh) :
    ((service.settle qt index started reply now).deliver qt started.request.continuation now
      outcome).Stage := by
  have hperm : service.refreshing.Perm (_ ++ (service.settle qt index started reply now).refreshing)
    := settle_refreshing hi
  rw [List.filter_singleton, hc, cond_true, List.singleton_append] at hperm
  have hp : (service.settle qt index started reply now).pipeline = _ := settle_pipeline
  simp only [pipeline, Pipeline.mk.injEq, true_and] at hp
  obtain ⟨hs, hp, hb, ho⟩ := hp
  cases h with
  | idle hr => cases (hr ▸ hperm).length_eq
  | discovery continuation hr hd h₀ h₁ h₂ =>
    obtain ⟨rfl, hnil⟩ : continuation = started.request.continuation ∧ _ = [] := by
      simpa [hr] using hperm
    have hb : (service.settle qt index started reply now).Between :=
      ⟨hnil, hp.trans h₀, ho.trans h₁, hs.trans h₂⟩
    exact hb.deliver hd
  | running hr hall hlength h₁ h₂ =>
    have hamong : (service.settle qt index started reply now).Among := by
      refine ⟨fun other hmem => ?_, ?_, ho.trans h₁, hs.trans h₂⟩
      · rw [hb]
        exact hall other (hperm.mem_iff.mpr (List.mem_cons_of_mem _ hmem))
      · rw [hp, hlength, hperm.length_eq]
        rfl
    obtain ⟨repository, heq⟩ := hall _ (hperm.mem_iff.mpr List.mem_cons_self)
    rw [heq]
    exact hamong.deliver _ repository

end Finished

theorem Stage.step (h : service.Stage) (hf : service.Filled) (e : Event) :
    (service.step qt e).Stage := by
  cases e with
  | refresh => exact h.refresh hf
  | selectProject index => exact h.selectProject index
  | finished index reply now =>
    cases hi : service.inFlight[index]? with
    | none => simpa [ProjectsService.step, finished_of_none hi] using h
    | some started =>
      simp only [ProjectsService.step, finished_of_some hi]
      cases hc : started.request.continuation.isRefresh with
      | false => exact (h.finished_other hi hc).startRequests
      | true => exact (h.finished_refresh hi hc).startRequests

theorem Stage.oneRefresh (h : service.Stage) (hf : service.Filled) : service.OneRefresh := by
  cases h with
  | idle hr hp ho _ => exact ⟨hf, Or.inl hr, by rw [hp, hr]; rfl, by rw [ho, hr]; rfl⟩
  | discovery continuation hr hd hp ho _ =>
    refine ⟨hf, Or.inr (Or.inl ⟨continuation, hr, hd⟩), ?_, by rw [ho, hr]; rfl⟩
    have hruns : continuation.isRuns = false := by
      cases continuation <;> first | rfl | cases hd
    rw [hp, hr, List.countP_singleton, hruns]
    rfl
  | running hr hall hp ho _ =>
    refine ⟨hf, Or.inr (Or.inr ⟨_, hall⟩), ?_, ?_⟩
    · have hcount : service.refreshing.countP Continuation.isRuns = service.refreshing.length := by
        refine List.countP_eq_length.mpr fun continuation hmem => ?_
        obtain ⟨repository, rfl⟩ := hall continuation hmem
        rfl
      rw [hp, hcount]
    · simpa [ho] using hr

theorem initial_stage (owner : QString) (token : QByteArray) : (initial owner token).Stage :=
  .idle rfl rfl rfl (Or.inr ⟨rfl, rfl⟩)

theorem initial_filled (owner : QString) (token : QByteArray) : (initial owner token).Filled :=
  ⟨⟨rfl, Int.zero_le_ofNat 4⟩, fun h => absurd rfl h⟩

/-- Along every run at most one refresh is in progress, and every one that is started ends. -/
theorem one_refresh (qt : QtText) (owner : QString) (token : QByteArray) (es : List Event) :
    (run (step qt) (initial owner token) es).OneRefresh := by
  have h : (run (step qt) (initial owner token) es).Stage ∧
      (run (step qt) (initial owner token) es).Filled :=
    run_invariant (P := fun s : ProjectsService => s.Stage ∧ s.Filled)
      ⟨initial_stage owner token, initial_filled owner token⟩
      fun _ e _ hs => ⟨hs.1.step hs.2 e, hs.2.step e⟩
  exact h.1.oneRefresh h.2

end ProjectsService

end RpiDashboard.Projects
