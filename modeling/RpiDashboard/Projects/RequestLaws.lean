import Mathlib.Data.List.Perm.Basic
import RpiDashboard.Projects.ProjectsService

/-! Laws of the request queue: what is asked for is in flight or waits its turn. -/

namespace RpiDashboard.Projects

open Qt

def Continuation.isRuns : Continuation → Bool
  | .runs _ _ => true
  | _ => false

namespace ProjectsService

variable {qt : QtText} {service : ProjectsService}

/-- The requests that have not finished, in the order in which they were made. -/
def unfinished (service : ProjectsService) : List Request :=
  service.inFlight.map StartedRequest.request ++ service.requests

/-- The network's side of a request, as it is when the request is started. -/
def started (qt : QtText) (service : ProjectsService) (pending : Request) : StartedRequest :=
  ⟨pending, cached (qt.urlText pending.url) service.etags⟩

/-- The loop starts the first requests of the queue, as many as there is room for. -/
theorem startLoop_eq (qt : QtText) (service : ProjectsService) (queue : List Request) :
    ∃ first rest count, queue = first ++ rest ∧
      service.startLoop qt queue = { service with
        inFlight := service.inFlight ++ first.map (service.started qt)
        requests := rest
        activeRequests := service.activeRequests + first.length
        refreshRequestCount := count } ∧
      (first ≠ [] → service.activeRequests + first.length ≤ maximumConcurrentRequests) ∧
      (rest ≠ [] → maximumConcurrentRequests ≤ service.activeRequests + first.length) := by
  induction queue generalizing service with
  | nil => exact ⟨[], [], service.refreshRequestCount, rfl, by simp [startLoop], by simp, by simp⟩
  | cons pending queue ih =>
    rw [startLoop]
    by_cases hroom : service.activeRequests < maximumConcurrentRequests
    case pos =>
      obtain ⟨first, rest, count, rfl, heq, hfirst, hrest⟩ := ih (service.start qt pending)
      have hlength : service.activeRequests + 1 + (first.length : Int) =
          service.activeRequests + ((pending :: first).length : Int) := by
        simp only [List.length_cons]
        omega
      refine ⟨pending :: first, rest, count, rfl, ?_, fun _ => ?_, fun h => ?_⟩
      · rw [if_pos hroom, heq, ← hlength]
        simp [start, started]
      · rw [← hlength]
        cases first with
        | nil => simpa using Int.add_one_le_iff.mpr hroom
        | cons next first => exact hfirst (List.cons_ne_nil next first)
      · exact hlength ▸ hrest h
    case neg =>
      refine ⟨[], pending :: queue, service.refreshRequestCount, rfl, by simp [hroom], by simp, ?_⟩
      intro _
      simpa using hroom

def Call.reply? : Call → Option Finished
  | .finished finished => some finished
  | _ => none

/-- The replies that have been delivered. -/
def replies (service : ProjectsService) : List Finished := service.calls.filterMap Call.reply?

/-- The part of the service that the requests live in, and the replies so far. -/
structure Transport where
  requests : List Request
  inFlight : List StartedRequest
  activeRequests : Int
  etags : List (QString × QByteArray)
  cachedBodies : List (QString × QByteArray)
  replies : List Finished

def transport (service : ProjectsService) : Transport where
  requests := service.requests
  inFlight := service.inFlight
  activeRequests := service.activeRequests
  etags := service.etags
  cachedBodies := service.cachedBodies
  replies := service.replies

/-- All the rest of it. -/
def others (service : ProjectsService) : ProjectsService :=
  { service with requests := [], inFlight := [], activeRequests := 0, refreshRequestCount := 0 }

@[simp] theorem startRequests_others : (service.startRequests qt).others = service.others := by
  obtain ⟨first, rest, count, -, heq, -, -⟩ := startLoop_eq qt service service.requests
  rw [startRequests, heq]
  rfl

@[simp] theorem request_others {pending : Request} :
    (service.request qt pending).others = service.others := startRequests_others

theorem requests_others {α : Type*} (f : α → Request) (xs : List α) :
    (xs.foldl (fun service x => service.request qt (f x)) service).others = service.others := by
  induction xs generalizing service with
  | nil => rfl
  | cons x xs ih => exact ih.trans request_others

@[simp] theorem startRequests_unfinished :
    (service.startRequests qt).unfinished = service.unfinished := by
  obtain ⟨first, rest, count, hqueue, heq, -, -⟩ := startLoop_eq qt service service.requests
  have hmap : (first.map (service.started qt)).map StartedRequest.request = first := by
    rw [List.map_map]
    exact List.map_id' first
  rw [startRequests, heq]
  simp only [unfinished, List.map_append, hmap, hqueue, List.append_assoc]

@[simp] theorem request_unfinished {pending : Request} :
    (service.request qt pending).unfinished = service.unfinished ++ [pending] := by
  rw [request, startRequests_unfinished, unfinished, unfinished, List.append_assoc]

/-- The requests in flight are counted, and there are never too many. -/
structure Counted (service : ProjectsService) : Prop where
  active : service.activeRequests = service.inFlight.length
  bounded : service.activeRequests ≤ maximumConcurrentRequests

/-- Besides, no request waits while there is room. -/
structure Filled (service : ProjectsService) : Prop extends service.Counted where
  full : service.requests ≠ [] → service.activeRequests = maximumConcurrentRequests

theorem Counted.startRequests (h : service.Counted) : (service.startRequests qt).Filled := by
  obtain ⟨first, rest, count, -, heq, hfirst, hrest⟩ := startLoop_eq qt service service.requests
  have hbounded : service.activeRequests + (first.length : Int) ≤ maximumConcurrentRequests := by
    cases first with
    | nil => simpa using h.bounded
    | cons next first => exact hfirst (List.cons_ne_nil next first)
  rw [ProjectsService.startRequests, heq]
  constructor
  case toCounted => exact ⟨by simp [h.active], hbounded⟩
  case full => exact fun hn => le_antisymm hbounded (hrest hn)

theorem Counted.request (h : service.Counted) (pending : Request) :
    (service.request qt pending).Filled :=
  Counted.startRequests ⟨h.active, h.bounded⟩

theorem Counted.of_transport {other : ProjectsService} (h : service.Counted)
    (ht : other.transport = service.transport) : other.Counted := by
  simp only [transport, Transport.mk.injEq] at ht
  obtain ⟨-, hf, ha, -, -, -⟩ := ht
  exact ⟨by rw [ha, hf]; exact h.active, by rw [ha]; exact h.bounded⟩

section Details

theorem jobsSucceed_frame (qt : QtText) (service : ProjectsService) (repository : QString)
    (runId : Int64) (document : QJsonValue) (now : QDateTime) : ∃ projects stages,
    projects.map Row.key = service.projects.map Row.key ∧
    service.jobsSucceed qt repository runId document now = { service with projects, stages } := by
  unfold jobsSucceed
  dsimp only
  split
  · split
    · refine ⟨_, _, ?_, rfl⟩
      refine Keyed.map_key_modify fun row => ?_
      split <;> rfl
    · refine ⟨_, _, ?_, rfl⟩
      refine Keyed.map_key_modify fun row => ?_
      split <;> rfl
  · split <;> exact ⟨_, _, rfl, rfl⟩

theorem artifactsSucceed_frame (qt : QtText) (service : ProjectsService) (repository : QString)
    (runId : Int64) (document : QJsonValue) : ∃ projects,
    projects.map Row.key = service.projects.map Row.key ∧
    service.artifactsSucceed qt repository runId document = { service with projects } := by
  unfold artifactsSucceed
  dsimp only
  split
  · refine ⟨_, ?_, rfl⟩
    refine Keyed.map_key_modify fun row => ?_
    split <;> rfl
  · exact ⟨_, rfl, rfl⟩

theorem insertRunners_frame (service : ProjectsService) (runners : List QJsonValue) :
    ∃ ids onlineIds, runners.foldl insertRunner service =
      { service with runnerIds := ids, onlineRunnerIds := onlineIds } := by
  induction runners generalizing service with
  | nil => exact ⟨_, _, rfl⟩
  | cons runner runners ih =>
    obtain ⟨ids, onlineIds, heq⟩ := ih (service.insertRunner runner)
    rw [List.foldl_cons, heq]
    unfold insertRunner
    split <;> exact ⟨_, _, rfl⟩

/-- The runners are apart from all the rest. -/
theorem runnersSucceed_frame (service : ProjectsService) (batch : Nat) (document : QJsonValue) :
    ∃ failed pending ids onlineIds online total, service.runnersSucceed batch document =
      { service with
        runnersFailed := failed
        pendingRunnerRequests := pending
        runnerIds := ids
        onlineRunnerIds := onlineIds
        onlineRunners := online
        totalRunners := total } := by
  obtain ⟨ids, onlineIds, heq⟩ := insertRunners_frame service (runnersOf document)
  unfold runnersSucceed
  dsimp only
  rw [heq]
  split <;> exact ⟨_, _, _, _, _, _, rfl⟩

end Details

section Callbacks

variable {P : ProjectsService → Prop}

/-- What callbacks do to the requests: they make new ones. -/
structure Stable (qt : QtText) (P : ProjectsService → Prop) : Prop where
  frame : ∀ {service other}, P service → other.transport = service.transport → P other
  request : ∀ {service} pending, P service → P (service.request qt pending)

theorem Stable.requests (h : Stable qt P) {α : Type*} (f : α → Request) (xs : List α)
    (hs : P service) : P (xs.foldl (fun service x => service.request qt (f x)) service) := by
  induction xs generalizing service with
  | nil => exact hs
  | cons x xs ih => exact ih (h.request (f x) hs)

theorem Stable.loadRunners (h : Stable qt P) (hs : P service) : P (service.loadRunners qt) := by
  unfold ProjectsService.loadRunners
  dsimp only
  split
  · refine h.frame hs ?_
    simp [resetRunners, transport, replies, Call.reply?]
  · refine h.requests _ _ (h.frame hs ?_)
    simp [resetRunners, transport, replies, Call.reply?]

theorem Stable.finishRefresh (h : Stable qt P) (now : QDateTime) (hs : P service) :
    P (service.finishRefresh qt now) := by
  refine h.loadRunners (h.frame hs ?_)
  simp [refreshed, transport, replies, Call.reply?, setState]

theorem Stable.failRefresh (h : Stable qt P) (diagnostic : QString) (hs : P service) :
    P (service.failRefresh diagnostic) := by
  refine h.frame hs ?_
  simp [ProjectsService.failRefresh, transport, replies, Call.reply?, setState]

theorem Stable.loadRuns (h : Stable qt P) (repositories : List Repository) (now : QDateTime)
    (hs : P service) : P (service.loadRuns qt repositories now) := by
  unfold ProjectsService.loadRuns
  split
  · exact h.finishRefresh now (h.frame hs rfl)
  · exact h.requests _ _ (h.frame hs rfl)

theorem Stable.loadSelectedDetails (h : Stable qt P) (hs : P service) :
    P (service.loadSelectedDetails qt) := by
  unfold ProjectsService.loadSelectedDetails
  split
  · exact h.frame hs rfl
  · exact h.request _ (h.request _ (h.frame hs rfl))

theorem Stable.selectProject (h : Stable qt P) (index : Int) (hs : P service) :
    P (service.selectProject qt index) := by
  unfold ProjectsService.selectProject
  split
  · exact hs
  · exact h.loadSelectedDetails (h.frame hs rfl)

theorem Stable.refresh (h : Stable qt P) (hs : P service) : P (service.refresh qt) := by
  unfold ProjectsService.refresh
  split
  · exact hs
  · refine h.request _ (h.frame hs ?_)
    simp [transport, replies, Call.reply?, setState]

theorem Stable.jobsSucceed (h : Stable qt P) (repository : QString) (runId : Int64)
    (document : QJsonValue) (now : QDateTime) (hs : P service) :
    P (service.jobsSucceed qt repository runId document now) := by
  obtain ⟨projects, stages, -, heq⟩ := jobsSucceed_frame qt service repository runId document now
  rw [heq]
  exact h.frame hs rfl

theorem Stable.artifactsSucceed (h : Stable qt P) (repository : QString) (runId : Int64)
    (document : QJsonValue) (hs : P service) :
    P (service.artifactsSucceed qt repository runId document) := by
  obtain ⟨projects, -, heq⟩ := artifactsSucceed_frame qt service repository runId document
  rw [heq]
  exact h.frame hs rfl

theorem Stable.repositoriesSucceed (h : Stable qt P) (page : Nat) (repositories : List Repository)
    (document : QJsonValue) (now : QDateTime) (hs : P service) :
    P (service.repositoriesSucceed qt page repositories document now) := by
  unfold ProjectsService.repositoriesSucceed
  dsimp only
  split
  · split
    · exact h.request _ hs
    · split
      · exact h.request _ hs
      · exact h.loadRuns _ now hs
  · exact h.failRefresh _ hs

theorem Stable.privateRepositoriesSucceed (h : Stable qt P) (page : Nat)
    (accumulated : List Repository) (document : QJsonValue) (now : QDateTime) (hs : P service) :
    P (service.privateRepositoriesSucceed qt page accumulated document now) := by
  unfold ProjectsService.privateRepositoriesSucceed
  dsimp only
  split
  · split
    · exact h.request _ hs
    · exact h.loadRuns _ now hs
  · exact h.failRefresh _ hs

theorem Stable.runsSucceed (h : Stable qt P) (batch : Nat) (repository : Repository)
    (document : QJsonValue) (now : QDateTime) (hs : P service) :
    P (service.runsSucceed qt batch repository document now) := by
  unfold ProjectsService.runsSucceed
  dsimp only
  split
  · split
    · exact h.failRefresh _ (h.frame hs rfl)
    · exact h.loadSelectedDetails (h.finishRefresh now (h.frame hs rfl))
  · exact h.frame hs rfl

theorem Stable.runsFail (h : Stable qt P) (batch : Nat) (error : QString) (hs : P service) :
    P (service.runsFail batch error) := by
  unfold ProjectsService.runsFail
  dsimp only
  split
  · exact h.failRefresh _ (h.frame hs rfl)
  · exact h.frame hs rfl

theorem Stable.runnersSucceed (h : Stable qt P) (batch : Nat) (document : QJsonValue)
    (hs : P service) : P (service.runnersSucceed batch document) := by
  obtain ⟨failed, pending, ids, onlineIds, online, total, heq⟩ :=
    runnersSucceed_frame service batch document
  rw [heq]
  exact h.frame hs rfl

theorem Stable.deliver (h : Stable qt P) (continuation : Continuation) (now : QDateTime)
    (outcome : Outcome) (hs : P service) : P (service.deliver qt continuation now outcome) := by
  cases outcome with
  | success body document =>
    cases continuation with
    | repositories page repositories =>
      exact h.repositoriesSucceed page repositories document now hs
    | privateRepositories page accumulated =>
      exact h.privateRepositoriesSucceed page accumulated document now hs
    | runs batch repository => exact h.runsSucceed batch repository document now hs
    | runners batch => exact h.runnersSucceed batch document hs
    | jobs repository runId => exact h.jobsSucceed repository runId document now hs
    | artifacts repository runId => exact h.artifactsSucceed repository runId document hs
  | failure error =>
    cases continuation with
    | repositories page repositories => exact h.failRefresh error hs
    | privateRepositories page accumulated => exact h.loadRuns accumulated now hs
    | runs batch repository => exact h.runsFail batch error hs
    | runners batch => exact h.frame hs rfl
    | jobs repository runId =>
      refine h.frame hs ?_
      simp only [ProjectsService.deliver, fail]
      split <;> rfl
    | artifacts repository runId => exact hs

end Callbacks

section Finished

variable {index : Nat} {started : StartedRequest} {reply : Reply} {now : QDateTime}

theorem finished_of_none (h : service.inFlight[index]? = none) :
    service.finished qt index reply now = service := by
  rw [finished, h]

theorem finished_of_some (h : service.inFlight[index]? = some started) :
    service.finished qt index reply now =
      ((service.settle qt index started reply now).deliver qt started.request.continuation now
        (service.outcomeOf qt (qt.urlText started.request.url) reply)).startRequests qt := by
  rw [finished, h]

theorem backOff_eq (qt : QtText) (service : ProjectsService) (reply : Reply) (now : QDateTime) :
    ∃ interval,
    service.backOff qt reply now = { service with pollInterval := interval } := by
  unfold backOff
  dsimp only
  split <;> exact ⟨_, rfl⟩

theorem remember_eq (service : ProjectsService) (key : QString) (reply : Reply)
    (outcome : Outcome) : ∃ etags bodies,
    service.remember key reply outcome =
      { service with etags := etags, cachedBodies := bodies } := by
  cases outcome with
  | success body document =>
    unfold remember
    dsimp only
    split <;> exact ⟨_, _, rfl⟩
  | failure error => exact ⟨_, _, rfl⟩

/-- The bookkeeping is about requests and the poll timer only. -/
theorem settle_eq (qt : QtText) (service : ProjectsService) (index : Nat)
    (started : StartedRequest) (reply : Reply) (now : QDateTime) : ∃ interval etags bodies,
    service.settle qt index started reply now = { service with
      activeRequests := service.activeRequests - 1
      inFlight := service.inFlight.eraseIdx index
      calls := service.calls ++ [Call.finished ⟨started, reply,
        service.outcomeOf qt (qt.urlText started.request.url) reply⟩]
      pollInterval := interval
      etags := etags
      cachedBodies := bodies } := by
  unfold settle
  dsimp only
  generalize service.outcomeOf qt (qt.urlText started.request.url) reply = outcome
  let key := qt.urlText started.request.url
  let settled : ProjectsService := { service with
    activeRequests := service.activeRequests - 1
    inFlight := service.inFlight.eraseIdx index
    calls := service.calls ++ [Call.finished ⟨started, reply, outcome⟩] }
  obtain ⟨interval, hinterval⟩ := backOff_eq qt (settled.remember key reply outcome) reply now
  obtain ⟨etags, bodies, hremember⟩ := remember_eq settled key reply outcome
  rw [hinterval, hremember]
  exact ⟨interval, etags, bodies, rfl⟩

theorem Counted.settle (h : service.Counted) (hs : service.inFlight[index]? = some started) :
    (service.settle qt index started reply now).Counted := by
  obtain ⟨interval, etags, bodies, heq⟩ := settle_eq qt service index started reply now
  obtain ⟨hlt, -⟩ := List.getElem?_eq_some_iff.mp hs
  have hlength := List.length_eraseIdx_of_lt hlt
  have hactive := h.active
  have hbounded := h.bounded
  rw [heq]
  constructor
  case active =>
    show service.activeRequests - 1 = ((service.inFlight.eraseIdx index).length : Int)
    omega
  case bounded =>
    show service.activeRequests - 1 ≤ _
    omega

theorem settle_unfinished (qt : QtText) (reply : Reply) (now : QDateTime)
    (hi : service.inFlight[index]? = some started) :
    service.unfinished.Perm
      (started.request :: (service.settle qt index started reply now).unfinished) := by
  obtain ⟨interval, etags, bodies, heq⟩ := settle_eq qt service index started reply now
  obtain ⟨hlt, hget⟩ := List.getElem?_eq_some_iff.mp hi
  have hperm : service.inFlight.Perm (started :: service.inFlight.eraseIdx index) :=
    hget ▸ (List.getElem_cons_eraseIdx_perm hlt).symm
  rw [heq]
  exact (hperm.map StartedRequest.request).append_right service.requests

end Finished

theorem Filled.active_pos (h : service.Filled) (hn : service.unfinished ≠ []) :
    0 < service.activeRequests := by
  rw [h.active]
  by_cases hf : service.inFlight = []
  case pos =>
    have hfull := h.full (by simpa [unfinished, hf] using hn)
    rw [h.active] at hfull
    exact hfull ▸ (by decide)
  case neg => exact Int.natCast_pos.mpr (List.length_pos_iff.mpr hf)

theorem stable_counted : Stable qt Counted where
  frame h ht := h.of_transport ht
  request pending h := (h.request pending).toCounted

theorem stable_filled : Stable qt Filled where
  frame {service other} h ht := by
    have hc := h.toCounted.of_transport ht
    simp only [transport, Transport.mk.injEq] at ht
    exact ⟨hc, by rw [ht.1, ht.2.2.1]; exact h.full⟩
  request pending h := h.toCounted.request pending

theorem Filled.step (h : service.Filled) (e : Event) : (service.step qt e).Filled := by
  cases e with
  | refresh => exact stable_filled.refresh h
  | selectProject index => exact stable_filled.selectProject index h
  | finished index reply now =>
    cases hs : service.inFlight[index]? with
    | none => simpa [ProjectsService.step, finished_of_none hs] using h
    | some started =>
      simp only [ProjectsService.step, finished_of_some hs]
      have hc : (service.settle qt index started reply now).Counted := h.toCounted.settle hs
      exact (stable_counted.deliver started.request.continuation now _ hc).startRequests

end ProjectsService

end RpiDashboard.Projects
