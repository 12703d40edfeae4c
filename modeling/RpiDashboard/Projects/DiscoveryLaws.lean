import RpiDashboard.Projects.LateReplyLaws
import RpiDashboard.Projects.RefreshLaws

/-! Laws of the discovery: repositories are listed page by page, and every repository once, as long
as the pages of the public listing do not repeat one. -/

namespace RpiDashboard.Projects

open Qt

namespace Continuation

/-- The repositories that are known when the page is asked for. -/
def repositoriesSoFar : Continuation → List Repository
  | .repositories _ known => known
  | .privateRepositories _ known => known
  | _ => []

/-- The repository whose runs are asked for, by its key. -/
def keyIn (batch : Nat) : Continuation → Option QString
  | .runs other repository => if other = batch then some repository.key else none
  | _ => none

theorem repositoriesSoFar_of_other {continuation : Continuation}
    (h : continuation.isRefresh = false) : continuation.repositoriesSoFar = [] := by
  cases continuation <;> first | rfl | cases h

end Continuation

/-- The part of the service that repositories go through, from page to row. -/
structure Discovery where
  refreshing : List Continuation
  runBatches : List RunBatch
  keys : List QString

namespace Discovery

variable {discovery : Discovery}

def rowsOf (discovery : Discovery) (batch : Nat) : List Row :=
  (discovery.runBatches.getD batch {}).rows

/-- The keys that a `loadRuns` has rows for, and those that it waits for. -/
def keysOf (discovery : Discovery) (batch : Nat) : List QString :=
  (discovery.rowsOf batch).map Row.key ++
    discovery.refreshing.filterMap (Continuation.keyIn batch)

theorem rowsOf_append (refreshing : List Continuation) (batch : Nat) : rowsOf { discovery with
    refreshing, runBatches := discovery.runBatches ++ [{}] } batch = discovery.rowsOf batch := by
  unfold rowsOf
  rw [List.getD_eq_getElem?_getD, List.getD_eq_getElem?_getD, List.getElem?_append]
  split
  case isTrue => rfl
  case isFalse hge =>
    rw [List.getElem?_eq_none (Nat.not_lt.mp hge)]
    cases batch - discovery.runBatches.length <;> rfl

theorem rowsOf_modify {update : RunBatch → RunBatch} {rows : List Row} {batch : Nat}
    (hupdate : ∀ shared, (update shared).rows = shared.rows ++ rows)
    (hlt : batch < discovery.runBatches.length) (refreshing : List Continuation) (other : Nat) :
    rowsOf { discovery with
      refreshing, runBatches := discovery.runBatches.modify batch update } other =
      discovery.rowsOf other ++ if batch = other then rows else [] := by
  unfold rowsOf
  rw [List.getD_eq_getElem?_getD, List.getD_eq_getElem?_getD, List.getElem?_modify]
  by_cases hbatch : batch = other
  case pos =>
    subst hbatch
    simp [List.getElem?_eq_getElem hlt, hupdate]
  case neg => simp [hbatch]

/-- Nothing is listed twice. -/
structure Distinct (discovery : Discovery) : Prop where
  lists : ∀ continuation ∈ discovery.refreshing,
    (continuation.repositoriesSoFar.map Repository.key).Nodup
  batches : ∀ batch, (discovery.keysOf batch).Nodup
  known : ∀ continuation ∈ discovery.refreshing, ∀ batch,
    continuation.keyIn batch ≠ none → batch < discovery.runBatches.length
  keys : discovery.keys.Nodup

theorem Distinct.perm (h : discovery.Distinct) {refreshing : List Continuation}
    (hp : discovery.refreshing.Perm refreshing) : { discovery with refreshing }.Distinct where
  lists continuation hmem := h.lists continuation (hp.mem_iff.mpr hmem)
  batches batch := (((hp.filterMap _).append_left _).nodup_iff).mp (h.batches batch)
  known continuation hmem := h.known continuation (hp.mem_iff.mpr hmem)
  keys := h.keys

/-- A reply is taken off. -/
theorem Distinct.tail (h : discovery.Distinct) {continuation : Continuation}
    {refreshing : List Continuation} (heq : discovery.refreshing = continuation :: refreshing) :
    { discovery with refreshing }.Distinct where
  lists other hmem := h.lists other (heq ▸ List.mem_cons_of_mem _ hmem)
  batches batch := by
    have hsub : refreshing.Sublist discovery.refreshing := heq ▸ List.sublist_cons_self _ _
    exact (h.batches batch).sublist ((hsub.filterMap _).append_left _)
  known other hmem := h.known other (heq ▸ List.mem_cons_of_mem _ hmem)
  keys := h.keys

/-- A page is asked for. -/
theorem Distinct.ask (h : discovery.Distinct) {continuation : Continuation}
    (hd : continuation.isDiscovery)
    (hl : (continuation.repositoriesSoFar.map Repository.key).Nodup) :
    { discovery with refreshing := discovery.refreshing ++ [continuation] }.Distinct := by
  have hkey (batch : Nat) : continuation.keyIn batch = none := by
    cases continuation <;> first | rfl | cases hd
  constructor
  case lists => exact List.forall_mem_append.mpr ⟨h.lists, by simpa using hl⟩
  case batches => simpa [keysOf, rowsOf, List.filterMap_append, hkey] using h.batches
  case known => exact List.forall_mem_append.mpr ⟨h.known, by simp [hkey]⟩
  case keys => exact h.keys

/-- The runs of repositories are asked for. -/
theorem Distinct.load (h : discovery.Distinct) {repositories : List Repository}
    (hr : (repositories.map Repository.key).Nodup) : Distinct { discovery with
      refreshing := discovery.refreshing ++
        repositories.map (Continuation.runs discovery.runBatches.length)
      runBatches := discovery.runBatches ++ [{}] } := by
  have hold : discovery.refreshing.filterMap (Continuation.keyIn discovery.runBatches.length) =
      [] := by
    refine List.filterMap_eq_nil_iff.mpr fun continuation hmem => ?_
    by_contra hn
    exact lt_irrefl _ (h.known continuation hmem _ hn)
  constructor
  case lists =>
    refine List.forall_mem_append.mpr ⟨h.lists, fun continuation hmem => ?_⟩
    obtain ⟨repository, -, rfl⟩ := List.mem_map.mp hmem
    simp [Continuation.repositoriesSoFar]
  case batches =>
    intro batch
    rw [keysOf, rowsOf_append, List.filterMap_append, List.filterMap_map]
    by_cases hbatch : discovery.runBatches.length = batch
    case pos =>
      have hkeys : (discovery.rowsOf batch).map Row.key = [] := by
        simp [rowsOf, ← hbatch]
      subst hbatch
      simpa [hkeys, hold, Function.comp_def, Continuation.keyIn] using hr
    case neg => simpa [keysOf, Function.comp_def, Continuation.keyIn, hbatch] using h.batches batch
  case known =>
    simp only [List.length_append, List.length_singleton]
    refine List.forall_mem_append.mpr ⟨fun continuation hmem batch hn => ?_, ?_⟩
    · exact Nat.lt_succ_of_lt (h.known continuation hmem batch hn)
    · intro continuation hmem batch hn
      obtain ⟨repository, -, rfl⟩ := List.mem_map.mp hmem
      simp [Continuation.keyIn] at hn
      omega
  case keys => exact h.keys

/-- The runs of a repository are answered. -/
theorem Distinct.answer (h : discovery.Distinct) {batch : Nat} {repository : Repository}
    {refreshing : List Continuation}
    (heq : discovery.refreshing = .runs batch repository :: refreshing)
    {update : RunBatch → RunBatch} {rows : List Row}
    (hupdate : ∀ shared, (update shared).rows = shared.rows ++ rows)
    (hrows : (rows.map Row.key).Sublist [repository.key]) : Distinct { discovery with
      refreshing, runBatches := discovery.runBatches.modify batch update } := by
  constructor
  case lists => exact (h.tail heq).lists
  case batches =>
    intro other
    have hlt : batch < discovery.runBatches.length :=
      h.known _ (heq ▸ List.mem_cons_self) batch (by simp [Continuation.keyIn])
    have hkeys := h.batches other
    rw [keysOf, heq] at hkeys
    rw [keysOf, rowsOf_modify hupdate hlt, List.map_append, List.append_assoc]
    refine hkeys.sublist ((List.append_sublist_append_left _).mpr ?_)
    by_cases hbatch : batch = other
    case pos => simpa [hbatch, Continuation.keyIn] using hrows.append_right _
    case neg => simp [hbatch, Continuation.keyIn]
  case known =>
    simp only [List.length_modify]
    exact (h.tail heq).known
  case keys => exact h.keys

/-- The rows of a batch are shown. -/
theorem Distinct.shown (h : discovery.Distinct) {batch : Nat} {keys : List QString}
    (hk : keys.Perm ((discovery.rowsOf batch).map Row.key)) : { discovery with keys }.Distinct where
  lists := h.lists
  batches := h.batches
  known := h.known
  keys := hk.nodup_iff.mpr ((h.batches batch).sublist (List.sublist_append_left _ _))

end Discovery

namespace ProjectsService

variable {qt : QtText} {service : ProjectsService} {now : QDateTime}

def discovery (service : ProjectsService) : Discovery where
  refreshing := service.refreshing
  runBatches := service.runBatches
  keys := service.projects.map Row.key

section View

/-- Only the refresh requests among the unfinished, the batches, and the keys of the rows. -/
theorem discovery_congr {other : ProjectsService} (hr : other.refreshing = service.refreshing)
    (hb : other.runBatches = service.runBatches)
    (hk : other.projects.map Row.key = service.projects.map Row.key) :
    other.discovery = service.discovery := by
  simp only [discovery, hr, hb, hk]

theorem discovery_of_pipeline {other : ProjectsService} (hp : other.pipeline = service.pipeline)
    (hb : other.runBatches = service.runBatches)
    (hk : other.projects.map Row.key = service.projects.map Row.key) :
    other.discovery = service.discovery :=
  discovery_congr (congrArg Pipeline.refreshing hp) hb hk

theorem startRequests_discovery : (service.startRequests qt).discovery = service.discovery := by
  have ho : (service.startRequests qt).others = service.others := startRequests_others
  exact discovery_of_pipeline startRequests_pipeline (congrArg runBatches ho :)
    (congrArg (fun s => s.projects.map Row.key) ho :)

theorem request_discovery {pending : Request} (hd : pending.continuation.isDiscovery) :
    (service.request qt pending).discovery = { service.discovery with
      refreshing := service.refreshing ++ [pending.continuation] } := by
  have ho : (service.request qt pending).others = service.others := request_others
  have hr : (service.request qt pending).refreshing = _ := congrArg Pipeline.refreshing request_pipeline
  have hb : (service.request qt pending).runBatches = service.runBatches :=
    (congrArg runBatches ho :)
  have hp : (service.request qt pending).projects = service.projects := (congrArg projects ho :)
  rw [List.filter_singleton, Continuation.isRefresh, hd] at hr
  simp only [discovery, hr, hb, hp]
  rfl

theorem loadRunners_discovery : (service.loadRunners qt).discovery = service.discovery := by
  refine discovery_of_pipeline loadRunners_pipeline ?_ (congrArg (·.projects.map Row.key) loadRunners_panel :)
  unfold loadRunners
  dsimp only
  split
  · rfl
  · exact (congrArg runBatches (requests_others _ _) :)

theorem loadSelectedDetails_discovery :
    (service.loadSelectedDetails qt).discovery = service.discovery := by
  have hp : (service.loadSelectedDetails qt).projects = service.projects := by
    have hpanel : (service.loadSelectedDetails qt).panel = service.panel.showDetails :=
      loadSelectedDetails_panel
    exact (congrArg Panel.projects (hpanel.trans (Panel.showDetails_eq _)) :)
  refine discovery_of_pipeline loadSelectedDetails_pipeline ?_ (congrArg (List.map Row.key) hp)
  unfold loadSelectedDetails
  split
  · rfl
  · exact (congrArg runBatches (request_others.trans request_others) :)

theorem refresh_discovery (qt : QtText) (service : ProjectsService) :
    (service.refresh qt).discovery = service.discovery ∨
    (service.refresh qt).discovery = { service.discovery with
      refreshing := service.refreshing ++ [.repositories 1 []] } := by
  unfold refresh
  split
  · exact Or.inl rfl
  · exact Or.inr (request_discovery rfl)

theorem selectProject_discovery (index : Int) :
    (service.selectProject qt index).discovery = service.discovery := by
  unfold selectProject
  split
  · rfl
  · exact loadSelectedDetails_discovery

theorem settle_discovery {index : Nat} {started : StartedRequest} {reply : Reply} :
    (service.settle qt index started reply now).discovery = { service.discovery with
      refreshing := (service.settle qt index started reply now).refreshing } := by
  obtain ⟨interval, etags, bodies, heq⟩ := settle_eq qt service index started reply now
  rw [heq]
  rfl

/-- The callbacks of other requests leave all this alone. -/
theorem deliver_discovery_of_other {continuation : Continuation} (outcome : Outcome)
    (h : continuation.isRefresh = false) :
    (service.deliver qt continuation now outcome).discovery = service.discovery := by
  obtain ⟨_, _, _, _, _, _, _, _, hkeys, heq⟩ := deliver_frame_of_other qt service now outcome h
  rw [heq]
  exact discovery_congr rfl rfl hkeys

theorem loadRuns_discovery {repositories : List Repository} (hn : repositories ≠ []) :
    (service.loadRuns qt repositories now).discovery = { service.discovery with
      refreshing := service.refreshing ++
        repositories.map (Continuation.runs service.runBatches.length)
      runBatches := service.runBatches ++ [{}] } := by
  let prepared : ProjectsService := { service with
    pendingRunRequests := repositories.length
    runBatches := service.runBatches ++ [{}] }
  let request (repository : Repository) : Request :=
    ⟨runsUrl repository, .runs service.runBatches.length repository⟩
  have hloaded : service.loadRuns qt repositories now =
      repositories.foldl (fun service repository => service.request qt (request repository)) prepared :=
    if_neg (by simpa using hn)
  have ho : (service.loadRuns qt repositories now).others = prepared.others :=
    hloaded ▸ requests_others request repositories
  have hr : (service.loadRuns qt repositories now).refreshing = service.refreshing ++
      repositories.map (Continuation.runs service.runBatches.length) := by
    rw [hloaded]
    refine (congrArg Pipeline.refreshing (requests_pipeline qt prepared request repositories)).trans ?_
    exact congrArg (service.refreshing ++ ·)
      (List.filter_eq_self.mpr (by simp [request, Continuation.isRefresh, Continuation.isRuns]))
  have hb : (service.loadRuns qt repositories now).runBatches = prepared.runBatches :=
    (congrArg runBatches ho :)
  have hp : (service.loadRuns qt repositories now).projects = prepared.projects :=
    (congrArg ProjectsService.projects ho :)
  simp only [discovery, hr, hb, hp]
  rfl

theorem replaceProjects_discovery (qt : QtText) (service : ProjectsService) (rows : List Row)
    (now : QDateTime) : ∃ keys,
    keys.Perm (rows.map Row.key) ∧
      (service.replaceProjects qt rows now).discovery = { service.discovery with keys } := by
  refine ⟨(service.showProjects rows).projects.map Row.key, ?_, ?_⟩
  · have hkeys := retainLoadedProjectDetails_keys (sortProjectsByLatestExecution rows)
      service.projects
    exact hkeys ▸ sortProjectsByLatestExecution_perm.map Row.key
  · exact loadSelectedDetails_discovery.trans loadRunners_discovery

end View

section Distinct

theorem loadRuns_distinct (h : service.discovery.Distinct) {repositories : List Repository}
    (hr : (repositories.map Repository.key).Nodup) :
    (service.loadRuns qt repositories now).discovery.Distinct := by
  by_cases hn : repositories = []
  case pos =>
    subst hn
    have hd : (service.loadRuns qt [] now).discovery = { service.discovery with keys := [] } :=
      loadRunners_discovery
    rw [hd]
    exact ⟨h.lists, h.batches, h.known, List.nodup_nil⟩
  case neg =>
    rw [loadRuns_discovery hn]
    exact h.load hr

theorem request_distinct (h : service.discovery.Distinct) {pending : Request}
    (hd : pending.continuation.isDiscovery)
    (hl : (pending.continuation.repositoriesSoFar.map Repository.key).Nodup) :
    (service.request qt pending).discovery.Distinct := by
  rw [request_discovery hd]
  exact h.ask hd hl

theorem addPrivate_nodup {known : List Repository} (object : QJsonObject)
    (h : (known.map Repository.key).Nodup) :
    ((service.addPrivate qt known object).map Repository.key).Nodup := by
  unfold addPrivate
  split
  case isTrue => exact h
  case isFalse hn =>
    simp only [Bool.or_eq_true, not_or, List.any_eq_true, decide_eq_true_eq, not_exists,
      not_and] at hn
    have hfresh : (repositoryOf object).key ∉ known.map Repository.key := by
      intro hmem
      obtain ⟨repository, hrepository, hkey⟩ := List.mem_map.mp hmem
      exact hn.2 repository hrepository hkey
    rw [List.map_append, List.map_singleton, ← List.concat_eq_append]
    exact h.concat hfresh

theorem addPrivatePage_nodup {known : List Repository} (document : QJsonValue)
    (h : (known.map Repository.key).Nodup) :
    ((service.addPrivatePage qt known document).map Repository.key).Nodup := by
  unfold addPrivatePage
  induction document.toArray.map QJsonValue.toObject generalizing known with
  | nil => exact h
  | cons object objects ih => exact ih (addPrivate_nodup object h)

theorem repositoriesSucceed_distinct (h : service.discovery.Distinct) (page : Nat)
    {known : List Repository} {document : QJsonValue}
    (hl : document.isArray && document.toArray.all (validRepository · false) →
      ((known ++ activeRepositories document).map Repository.key).Nodup) :
    (service.repositoriesSucceed qt page known document now).discovery.Distinct := by
  unfold ProjectsService.repositoriesSucceed
  dsimp only
  split
  case isTrue hvalid =>
    split
    · exact request_distinct h rfl (hl hvalid)
    · split
      · exact request_distinct h rfl (hl hvalid)
      · exact loadRuns_distinct h (hl hvalid)
  case isFalse => exact h

theorem privateRepositoriesSucceed_distinct (h : service.discovery.Distinct) (page : Nat)
    {known : List Repository} {document : QJsonValue}
    (hl : (known.map Repository.key).Nodup) :
    (service.privateRepositoriesSucceed qt page known document now).discovery.Distinct := by
  have hpage : ((service.addPrivatePage qt known document).map Repository.key).Nodup :=
    addPrivatePage_nodup document hl
  unfold ProjectsService.privateRepositoriesSucceed
  dsimp only
  split
  · split
    · exact request_distinct h rfl hpage
    · exact loadRuns_distinct h hpage
  · exact h

/-- A reply with runs is taken off, and its row is added to the others. -/
theorem collect_distinct {batch : Nat} {repository : Repository} {outcome : Outcome}
    {refreshing : List Continuation}
    (h : Discovery.Distinct { service.discovery with
      refreshing := .runs batch repository :: refreshing }) :
    Discovery.Distinct { service.discovery with
      refreshing
      runBatches := service.runBatches.modify batch (collect qt repository now outcome) } := by
  cases outcome with
  | failure error =>
    exact h.answer rfl (fun _ => (List.append_nil _).symm) (List.nil_sublist _)
  | success body document =>
    refine h.answer rfl (fun _ => rfl) ?_
    cases hrow : rowOf qt now repository (workflowRuns document) with
    | none => exact List.nil_sublist _
    | some row => simp [rowOf_key hrow]

theorem runs_distinct {batch : Nat} {repository : Repository} (outcome : Outcome)
    (h : Discovery.Distinct { service.discovery with
      refreshing := .runs batch repository :: service.refreshing }) :
    (service.deliver qt (.runs batch repository) now outcome).discovery.Distinct := by
  have hupdated : (service.updateBatch batch
      (collect qt repository now outcome)).discovery.Distinct := collect_distinct h
  rw [deliver_runs]
  dsimp only
  split
  case isFalse => exact hupdated
  case isTrue =>
    cases outcome with
    | failure error => exact hupdated
    | success body document =>
      unfold endRuns
      dsimp only
      split
      · exact hupdated
      · obtain ⟨keys, hkeys, heq⟩ := replaceProjects_discovery qt
          (service.updateBatch batch (collect qt repository now (.success body document))) _ now
        rw [heq]
        exact hupdated.shown hkeys

/-- The active repositories of an accepted public page have keys of their own, also among those
of the pages before. -/
def FreshPage (continuation : Continuation) (outcome : Outcome) : Prop :=
  match continuation, outcome with
  | .repositories _ known, .success _ document =>
    document.isArray && document.toArray.all (validRepository · false) →
      ((known ++ activeRepositories document).map Repository.key).Nodup
  | _, _ => True

theorem deliver_distinct {continuation : Continuation} {outcome : Outcome}
    (h : Discovery.Distinct { service.discovery with
      refreshing := continuation :: service.refreshing })
    (hd : continuation.isRefresh) (hf : FreshPage continuation outcome) :
    (service.deliver qt continuation now outcome).discovery.Distinct := by
  have htail : service.discovery.Distinct := h.tail rfl
  have hl : (continuation.repositoriesSoFar.map Repository.key).Nodup :=
    h.lists continuation List.mem_cons_self
  cases continuation with
  | runs batch repository => exact runs_distinct outcome h
  | repositories page known =>
    cases outcome with
    | failure error => exact htail
    | success body document => exact repositoriesSucceed_distinct htail page hf
  | privateRepositories page known =>
    cases outcome with
    | failure error => exact loadRuns_distinct htail hl
    | success body document => exact privateRepositoriesSucceed_distinct htail page hl
  | runners batch => cases hd
  | jobs repository runId => cases hd
  | artifacts repository runId => cases hd

theorem handed_nodup {continuation : Continuation} {outcome : Outcome}
    (hl : (continuation.repositoriesSoFar.map Repository.key).Nodup)
    (hf : FreshPage continuation outcome) :
    ∀ repositories ∈ service.handed qt continuation outcome,
      (repositories.map Repository.key).Nodup := by
  intro repositories hmem
  cases continuation with
  | repositories page known =>
    cases outcome with
    | failure error => cases hmem
    | success body document =>
      simp only [handed, Option.mem_def, Option.ite_none_right_eq_some, Option.some.injEq,
        Bool.and_eq_true (_ && _)] at hmem
      obtain ⟨⟨⟨hvalid, -⟩, -⟩, rfl⟩ := hmem
      exact hf hvalid
  | privateRepositories page known =>
    cases outcome with
    | failure error =>
      cases hmem
      exact hl
    | success body document =>
      simp only [handed, Option.mem_def, Option.ite_none_right_eq_some, Option.some.injEq] at hmem
      rw [← hmem.2]
      exact addPrivatePage_nodup document hl
  | runs batch repository => cases hmem
  | runners batch => cases hmem
  | jobs repository runId => cases hmem
  | artifacts repository runId => cases hmem

end Distinct

section Step

/-- The list that an event hands to `loadRuns`. -/
def handedBy (qt : QtText) (service : ProjectsService) : Event → Option (List Repository)
  | .finished index reply _ => (service.inFlight[index]?).bind fun started =>
    service.handed qt started.request.continuation
      (service.outcomeOf qt (qt.urlText started.request.url) reply)
  | _ => none

def Fresh (qt : QtText) (service : ProjectsService) : Event → Prop
  | .finished index reply _ => ∀ started ∈ service.inFlight[index]?,
    FreshPage started.request.continuation
      (service.outcomeOf qt (qt.urlText started.request.url) reply)
  | _ => True

theorem settle_distinct (qt : QtText) {index : Nat} {started : StartedRequest}
    (h : service.discovery.Distinct) (reply : Reply) (now : QDateTime) (hi : service.inFlight[index]? = some started) :
    Discovery.Distinct { (service.settle qt index started reply now).discovery with
      refreshing := [started.request.continuation].filter Continuation.isRefresh ++
        (service.settle qt index started reply now).refreshing } := by
  rw [settle_discovery]
  exact h.perm (settle_refreshing hi)

theorem step_distinct (h : service.discovery.Distinct) {e : Event} (hf : service.Fresh qt e) :
    (service.step qt e).discovery.Distinct := by
  cases e with
  | refresh =>
    rcases refresh_discovery qt service with heq | heq
    · exact heq ▸ h
    · exact heq ▸ h.ask rfl List.nodup_nil
  | selectProject index =>
    show (service.selectProject qt index).discovery.Distinct
    rw [selectProject_discovery]
    exact h
  | finished index reply now =>
    cases hi : service.inFlight[index]? with
    | none => simpa [step, finished_of_none hi] using h
    | some started =>
      simp only [step, finished_of_some hi]
      rw [startRequests_discovery]
      have hsettled := settle_distinct qt h reply now hi
      cases hr : started.request.continuation.isRefresh with
      | false =>
        rw [List.filter_singleton, hr] at hsettled
        rw [deliver_discovery_of_other _ hr]
        exact hsettled
      | true =>
        rw [List.filter_singleton, hr] at hsettled
        exact deliver_distinct hsettled hr (hf started hi)

/-- The request of a page is among those of the refresh. -/
theorem handedBy_nodup (h : service.discovery.Distinct) {e : Event} (hf : service.Fresh qt e) :
    ∀ repositories ∈ service.handedBy qt e, (repositories.map Repository.key).Nodup := by
  intro repositories hmem
  cases e with
  | refresh => cases hmem
  | selectProject index => cases hmem
  | finished index reply now =>
    obtain ⟨started, hi, hhanded⟩ := Option.bind_eq_some_iff.mp hmem
    refine handed_nodup ?_ (hf started hi) repositories hhanded
    cases hr : started.request.continuation.isRefresh with
    | true =>
      refine (settle_distinct qt h reply now hi).lists _ (List.mem_append_left _ ?_)
      simp [hr]
    | false =>
      rw [Continuation.repositoriesSoFar_of_other hr]
      exact List.nodup_nil

theorem initial_distinct (owner : QString) (token : QByteArray) :
    (initial owner token).discovery.Distinct where
  lists _ h := absurd h List.not_mem_nil
  batches _ := List.nodup_nil
  known _ h := absurd h List.not_mem_nil
  keys := List.nodup_nil

/-- While the public listing does not repeat a repository, every list that is handed to
`loadRuns` has each repository once, and so have the rows. -/
theorem no_duplicates (owner : QString) (token : QByteArray) {es : List Event}
    (h : Throughout (step qt) (Fresh qt) (initial owner token) es) :
    Throughout (step qt) (fun service e => ∀ repositories ∈ service.handedBy qt e,
        (repositories.map Repository.key).Nodup) (initial owner token) es ∧
      ((run (step qt) (initial owner token) es).projects.map Row.key).Nodup := by
  have h₀ := initial_distinct owner token
  constructor
  case left =>
    exact h.imp (P := fun service : ProjectsService => service.discovery.Distinct) h₀
      (fun _ _ hf hd => step_distinct hd hf) fun _ _ hf hd => handedBy_nodup hd hf
  case right =>
    exact (h.invariant (P := fun service : ProjectsService => service.discovery.Distinct) h₀
      fun _ _ hf hd => step_distinct hd hf).keys

end Step

section Sample

instance FreshPage.decidable (continuation : Continuation) (outcome : Outcome) :
    Decidable (FreshPage continuation outcome) :=
  match continuation, outcome with
  | .repositories _ known, .success _ document => inferInstanceAs (Decidable
      (document.isArray && document.toArray.all (validRepository · false) →
        ((known ++ activeRepositories document).map Repository.key).Nodup))
  | .repositories _ _, .failure _ => .isTrue trivial
  | .privateRepositories _ _, _ | .runs _ _, _ | .runners _, _ | .jobs _ _, _ | .artifacts _ _, _ =>
    .isTrue trivial

instance Fresh.decidable (qt : QtText) (service : ProjectsService) :
    (e : Event) → Decidable (service.Fresh qt e)
  | .refresh => .isTrue trivial
  | .selectProject _ => .isTrue trivial
  | .finished index reply _ => inferInstanceAs (Decidable (∀ started ∈ service.inFlight[index]?,
      FreshPage started.request.continuation
        (service.outcomeOf qt (qt.urlText started.request.url) reply)))

theorem no_duplicates_sample :
    Throughout (step sampleText) (fun service e => ∀ repositories ∈ service.handedBy sampleText e,
        (repositories.map Repository.key).Nodup) (initial "o" []) (sampleRefresh 0) ∧
      ((run (step sampleText) (initial "o" []) (sampleRefresh 0)).projects.map Row.key).Nodup :=
  no_duplicates "o" [] (by decide +kernel)

def listed (name : QString) (archived : Bool) : QJsonValue :=
  .object [("full_name", .string ("o/" ++ name)), ("name", .string name),
    ("default_branch", .string "main"), ("archived", .bool archived)]

def listedText (name : QString) (archived : Bool) : QString :=
  "\x7b\"full_name\":\"o/" ++ name ++ "\",\"name\":\"" ++ name ++
    "\",\"default_branch\":\"main\",\"archived\":" ++ (if archived then "true" else "false") ++ "\x7d"

/-- A full page: archived repositories, and an active one at its end. -/
def fullPage : List (QString × Bool) :=
  (List.range 99).map (fun n => ("x" ++ toString n, true)) ++ [("a", false)]

def pageBody (page : List (QString × Bool)) : QByteArray :=
  toUtf8 "[" ++ (toUtf8 ",").intercalate (page.map fun entry => toUtf8 (listedText entry.1 entry.2)) ++
    toUtf8 "]"

/-- The full page is known by its beginning. -/
def pageText : QtText := { sampleText with
  fromJson := fun body =>
    if body.take 24 = (pageBody fullPage).take 24 then
      some (.array (fullPage.map fun entry => listed entry.1 entry.2))
    else sampleText.fromJson body }

/-- A new repository has moved the last one of the first page to the second. -/
def shifted : List Event :=
  [.refresh, answer 0 (pageBody fullPage) [], answer 0 repositoryBody [], answer 0 runsBody [],
    answer 0 runsBody []]

theorem shifted_duplicates :
    ¬ Throughout (step pageText) (fun service e => ∀ repositories ∈ service.handedBy pageText e,
        (repositories.map Repository.key).Nodup) (initial "o" []) shifted ∧
      ¬ ((run (step pageText) (initial "o" []) shifted).projects.map Row.key).Nodup := by
  constructor <;> decide +kernel

end Sample

end ProjectsService

end RpiDashboard.Projects
