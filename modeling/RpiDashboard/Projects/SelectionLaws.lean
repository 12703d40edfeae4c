import RpiDashboard.Projects.ArrivalLaws

/-! Laws of the selection: whose stage cards and whose history are shown beside the rows, and
what a late reply leaves alone. -/

namespace RpiDashboard.Projects

open Qt

namespace Panel

variable {panel : Panel}

/-- The history of the selected row, as it is shown. -/
def selectedHistory (panel : Panel) : List Row :=
  (panel.selectedRow.map fun row => row.detail.history.map ProjectsService.historyRow).getD []

def HistoryOfSelected (panel : Panel) : Prop := panel.history = panel.selectedHistory

/-- The selected row is the one with the selected key. -/
def Synced (panel : Panel) : Prop := ∀ row ∈ panel.selectedRow, row.key = panel.selectedKey

/-- The change keeps the cards with their project: there are none, or the selection stays on
its key, or nothing is left to select. -/
def KeepsCards (panel : Panel) : Change → Prop
  | .select index =>
    panel.stages = [] ∨ ∀ row ∈ (panel.choose index).selectedRow, row.key = panel.selectedKey
  | .replace rows => panel.stages = [] ∨ rows = [] ∨ panel.selectedKey ∈ rows.map Row.key
  | _ => True

/-- No history is shown when a refresh finds no repository. -/
def KeepsHistory (panel : Panel) : Change → Prop
  | .empty => panel.history = []
  | _ => True

instance KeepsCards.decidable (panel : Panel) : (change : Change) → Decidable (panel.KeepsCards change)
  | .select index => inferInstanceAs (Decidable (panel.stages = [] ∨
      ∀ row ∈ (panel.choose index).selectedRow, row.key = panel.selectedKey))
  | .replace rows => inferInstanceAs (Decidable (panel.stages = [] ∨ rows = [] ∨
      panel.selectedKey ∈ rows.map Row.key))
  | .empty | .detail _ _ _ | .cards _ _ _ | .clear _ => .isTrue trivial

instance KeepsHistory.decidable (panel : Panel) :
    (change : Change) → Decidable (panel.KeepsHistory change)
  | .empty => inferInstanceAs (Decidable (panel.history = []))
  | .select _ | .replace _ | .detail _ _ _ | .cards _ _ _ | .clear _ => .isTrue trivial

section Rows

variable {rows : List Row} {key : QString}

/-- The selection is found where its key is. -/
theorem getElem?_indexOfKey (h : key ∈ rows.map Row.key) :
    ∃ row, rows[ProjectsService.indexOfKey rows key]? = some row ∧ row.key = key := by
  induction rows using List.reverseRecOn with
  | nil => simp at h
  | append_singleton rows row ih =>
    have hindex : ProjectsService.indexOfKey (rows ++ [row]) key =
        if row.key = key then rows.length else ProjectsService.indexOfKey rows key := by
      simp [ProjectsService.indexOfKey, List.zipIdx_append]
    rw [hindex]
    split
    case isTrue hkey => exact ⟨row, List.getElem?_concat_length, hkey⟩
    case isFalse hkey =>
      have hmem : key ∈ rows.map Row.key := by simpa [Ne.symm hkey] using h
      obtain ⟨found, hfound, hkey⟩ := ih hmem
      have hlt := (List.getElem?_eq_some_iff.mp hfound).1
      exact ⟨found, by rw [List.getElem?_append_left hlt, hfound], hkey⟩

theorem mem_replaced_keys {previous : List Row} :
    key ∈ (retainLoadedProjectDetails (sortProjectsByLatestExecution rows) previous).map Row.key ↔
      key ∈ rows.map Row.key := by
  rw [retainLoadedProjectDetails_keys]
  exact (sortProjectsByLatestExecution_perm.map Row.key).mem_iff

theorem choose_selectedRow (panel : Panel) (index : Nat) :
    (panel.choose index).selectedRow = panel.projects[index]? := by
  simp [choose, selectedRow]

theorem mem_of_selectedRow {row : Row} (h : row ∈ panel.selectedRow) : row ∈ panel.projects := by
  unfold selectedRow at h
  split at h
  · exact List.mem_of_getElem? h
  · cases h

end Rows

section Details

theorem showDetails_eq (panel : Panel) : panel.showDetails = { panel with
    stages := if panel.selectedRow.isSome then panel.stages else []
    history := panel.selectedHistory } := by
  unfold showDetails selectedHistory
  cases panel.selectedRow <;> rfl

theorem choose_synced (panel : Panel) (index : Int) : (panel.choose index).Synced := by
  intro row hrow
  have hkey : (panel.choose index).selectedKey =
      ((panel.choose index).selectedRow.map Row.key).getD "" := rfl
  rw [hkey, hrow]
  rfl

theorem select_eq (panel : Panel) (index : Int) :
    panel.select index = panel ∨ panel.select index = (panel.choose index).showDetails := by
  unfold select
  split
  · exact Or.inl rfl
  · exact Or.inr rfl

theorem Synced.showDetails (h : panel.Synced) : panel.showDetails.Synced := by
  rw [showDetails_eq]
  exact h

theorem showDetails_history (panel : Panel) : panel.showDetails.HistoryOfSelected := by
  rw [showDetails_eq]
  rfl

/-- Details are loaded into the first row with the key at most. -/
theorem insertDetail_getElem? (panel : Panel) (repository : QString) (runId : Int64)
    (insert : Detail → Detail) (i : Nat) :
    (panel.insertDetail repository runId insert).projects[i]? =
      (panel.projects[i]?).map fun row =>
        if panel.projects.findIdx (fun row => row.key = repository) = i ∧ row.detail.runId = runId
        then { row with detail := insert row.detail } else row := by
  unfold insertDetail
  rw [Keyed.modify_eq, List.getElem?_modify]
  refine congrArg (fun f => Option.map f panel.projects[i]?) (funext fun row => ?_)
  split_ifs <;> simp_all

theorem insertDetail_selectedRow (panel : Panel) (repository : QString) (runId : Int64)
    (insertion : Insertion) : ∃ f : Row → Row,
    (panel.insertDetail repository runId insertion.insert).selectedRow = panel.selectedRow.map f ∧
      ∀ row, (f row).key = row.key ∧ (f row).detail.history = row.detail.history ∧
        (f row).detail.runId = row.detail.runId := by
  by_cases h : 0 ≤ panel.selectedIndex
  case neg => exact ⟨id, by simp [selectedRow, insertDetail, h], fun row => ⟨rfl, rfl, rfl⟩⟩
  case pos =>
    have hrow : (panel.insertDetail repository runId insertion.insert).selectedRow =
        (panel.insertDetail repository runId insertion.insert).projects[panel.selectedIndex.toNat]? :=
      if_pos h
    rw [hrow, insertDetail_getElem?]
    refine ⟨_, congrArg (Option.map _) (if_pos h).symm, fun row => ?_⟩
    obtain ⟨duration, jobsSummary, artifactSize, deployStatus, heq⟩ := insertion.loaded row.detail
    split
    · simp [heq]
    · exact ⟨rfl, rfl, rfl⟩

theorem insertDetail_shows (panel : Panel) (repository : QString) (runId : Int64)
    (insertion : Insertion) :
    (panel.insertDetail repository runId insertion.insert).shows repository runId =
      panel.shows repository runId := by
  obtain ⟨f, heq, hf⟩ := insertDetail_selectedRow panel repository runId insertion
  have hkey : (panel.insertDetail repository runId insertion.insert).selectedKey =
      panel.selectedKey := rfl
  unfold shows
  rw [heq, hkey]
  cases panel.selectedRow with
  | none => rfl
  | some row => simp [hf row]

end Details

section Step

theorem step_cards (panel : Panel) (repository : QString) (runId : Int64) (cards : List Row) :
    panel.step (.cards repository runId cards) = panel ∨
      panel.shows repository runId ∧
        panel.step (.cards repository runId cards) = { panel with stages := cards } := by
  by_cases h : panel.shows repository runId
  case pos => exact Or.inr ⟨h, if_pos h⟩
  case neg => exact Or.inl (if_neg h)

theorem step_clear (panel : Panel) (repository : QString) :
    panel.step (.clear repository) = panel ∨
      panel.selectedKey = repository ∧
        panel.step (.clear repository) = { panel with stages := [] } := by
  by_cases h : panel.selectedKey = repository
  case pos => exact Or.inr ⟨h, if_pos h⟩
  case neg => exact Or.inl (if_neg h)

theorem Synced.step (h : panel.Synced) (change : Change) : (panel.step change).Synced := by
  cases change with
  | select index =>
    show (panel.select index).Synced
    rcases select_eq panel index with heq | heq
    · rw [heq]
      exact h
    · rw [heq]
      exact (choose_synced panel index).showDetails
  | empty =>
    intro row hrow
    simp [Panel.step, selectedRow] at hrow
  | replace rows => exact (choose_synced _ _).showDetails
  | detail repository runId insertion =>
    obtain ⟨f, heq, hf⟩ := insertDetail_selectedRow panel repository runId insertion
    intro row hrow
    rw [Panel.step, heq] at hrow
    obtain ⟨before, hbefore, rfl⟩ := Option.mem_map.mp hrow
    exact (hf before).1.trans (h before hbefore)
  | cards repository runId cards =>
    rcases step_cards panel repository runId cards with heq | ⟨-, heq⟩ <;> rw [heq] <;> exact h
  | clear repository =>
    rcases step_clear panel repository with heq | ⟨-, heq⟩ <;> rw [heq] <;> exact h

theorem HistoryOfSelected.step (h : panel.HistoryOfSelected) {change : Change}
    (hk : panel.KeepsHistory change) : (panel.step change).HistoryOfSelected := by
  cases change with
  | select index =>
    show (panel.select index).HistoryOfSelected
    rcases select_eq panel index with heq | heq
    · rw [heq]
      exact h
    · rw [heq]
      exact showDetails_history _
  | empty =>
    have hnone : panel.history = [] := hk
    simpa [Panel.step, HistoryOfSelected, selectedHistory, selectedRow] using hnone
  | replace rows => exact showDetails_history _
  | detail repository runId insertion =>
    obtain ⟨f, heq, hf⟩ := insertDetail_selectedRow panel repository runId insertion
    have hhistory : (panel.insertDetail repository runId insertion.insert).selectedHistory =
        panel.selectedHistory := by
      simp only [selectedHistory, heq, Option.map_map, Function.comp_def, hf]
    exact h.trans hhistory.symm
  | cards repository runId cards =>
    rcases step_cards panel repository runId cards with heq | ⟨-, heq⟩ <;> rw [heq] <;> exact h
  | clear repository =>
    rcases step_clear panel repository with heq | ⟨-, heq⟩ <;> rw [heq] <;> exact h

/-- The cards are gone, or as before, or those that are brought for the selected project. -/
def CardsFrom (panel : Panel) (changes : List Change) (after : Panel) : Prop :=
  after.stages = [] ∨ after.stages = panel.stages ∧ after.selectedKey = panel.selectedKey ∨
    ∃ runId, Change.cards after.selectedKey runId after.stages ∈ changes

theorem showDetails_cards {before : Panel} (changes : List Change)
    (hs : before.stages = panel.stages)
    (hk : panel.stages = [] ∨ ∀ row ∈ before.selectedRow, row.key = panel.selectedKey)
    (hsynced : before.Synced) : panel.CardsFrom changes before.showDetails := by
  rw [showDetails_eq]
  cases hrow : before.selectedRow with
  | none => exact Or.inl rfl
  | some row =>
    rcases hk with hk | hk
    · exact Or.inl (hs.trans hk)
    · have hkey : before.selectedKey = row.key := (hsynced row hrow).symm
      exact Or.inr (Or.inl ⟨hs, hkey.trans (hk row hrow)⟩)

theorem step_cardsFrom {change : Change} (hk : panel.KeepsCards change) :
    panel.CardsFrom [change] (panel.step change) := by
  have hsame : panel.CardsFrom [change] panel := Or.inr (Or.inl ⟨rfl, rfl⟩)
  cases change with
  | select index =>
    show panel.CardsFrom _ (panel.select index)
    rcases select_eq panel index with heq | heq
    · rw [heq]
      exact hsame
    · rw [heq]
      exact showDetails_cards _ rfl hk (choose_synced panel index)
  | empty => exact Or.inr (Or.inl ⟨rfl, rfl⟩)
  | replace rows =>
    refine showDetails_cards _ rfl ?_ (choose_synced _ _)
    rcases hk with hk | rfl | hmem
    · exact Or.inl hk
    · exact Or.inr (by simp [choose, selectedRow, retainLoadedProjectDetails,
        sortProjectsByLatestExecution])
    · refine Or.inr fun row hrow => ?_
      obtain ⟨found, hfound, hkey⟩ := getElem?_indexOfKey (mem_replaced_keys.mpr hmem)
      rw [choose_selectedRow, hfound] at hrow
      exact Option.some.inj hrow ▸ hkey
  | detail repository runId insertion => exact Or.inr (Or.inl ⟨rfl, rfl⟩)
  | cards repository runId cards =>
    rcases step_cards panel repository runId cards with heq | ⟨hshows, heq⟩
    · rw [heq]
      exact hsame
    · have hkey : panel.selectedKey = repository := by
        simp only [shows, Bool.and_eq_true, decide_eq_true_eq] at hshows
        exact hshows.1
      rw [heq, ← hkey]
      exact Or.inr (Or.inr ⟨runId, List.mem_singleton_self _⟩)
  | clear repository =>
    rcases step_clear panel repository with heq | ⟨-, heq⟩
    · rw [heq]
      exact hsame
    · rw [heq]
      exact Or.inl rfl

theorem CardsFrom.trans {mid after : Panel} {change : Change} {changes : List Change}
    (h : panel.CardsFrom [change] mid) (h' : mid.CardsFrom changes after) :
    panel.CardsFrom (change :: changes) after := by
  rcases h' with hnone | ⟨hs, hk⟩ | ⟨runId, hmem⟩
  · exact Or.inl hnone
  · unfold CardsFrom at h
    rw [← hs, ← hk] at h
    refine h.imp_right (Or.imp_right ?_)
    rintro ⟨runId, hmem⟩
    exact ⟨runId, List.mem_cons.mpr (Or.inl (List.mem_singleton.mp hmem))⟩
  · exact Or.inr (Or.inr ⟨runId, List.mem_cons_of_mem _ hmem⟩)

theorem run_cardsFrom {changes : List Change}
    (h : Throughout Panel.step KeepsCards panel changes) :
    panel.CardsFrom changes (run Panel.step panel changes) := by
  induction changes generalizing panel with
  | nil => exact Or.inr (Or.inl ⟨rfl, rfl⟩)
  | cons change changes ih => exact (step_cardsFrom h.1).trans (ih h.2)

end Step

end Panel

namespace ProjectsService

variable {qt : QtText} {service : ProjectsService}

/-- The changes of an event meet a condition one after the other. -/
def EachChange (qt : QtText) (Q : Panel → Change → Prop) (service : ProjectsService) (e : Event) :
    Prop :=
  Throughout Panel.step Q service.panel (service.changes qt e)

instance EachChange.decidable (qt : QtText) (Q : Panel → Change → Prop)
    [∀ panel change, Decidable (Q panel change)] (service : ProjectsService) (e : Event) :
    Decidable (EachChange qt Q service e) :=
  inferInstanceAs (Decidable (Throughout Panel.step Q service.panel (service.changes qt e)))

/-- What the changes keep under a condition holds along every run that meets it. -/
theorem panel_invariant {P : Panel → Prop} {Q : Panel → Change → Prop} {es : List Event}
    (h : Throughout (step qt) (EachChange qt Q) service es) (h₀ : P service.panel)
    (hstep : ∀ panel change, Q panel change → P panel → P (panel.step change)) :
    P (run (step qt) service es).panel :=
  h.invariant (P := fun service : ProjectsService => P service.panel) h₀ fun service e hq hp =>
    (step_panel service e).symm ▸ hq.invariant hp hstep

/-- The selected row has the selected key, after every run. -/
theorem run_synced (qt : QtText) (owner : QString) (token : QByteArray) (es : List Event) :
    (run (step qt) (initial owner token) es).panel.Synced := by
  refine panel_invariant (Q := fun _ _ => True) (throughout_of_forall fun _ _ _ => ?_) ?_
    fun panel change _ h => h.step change
  · exact throughout_of_forall fun _ _ _ => trivial
  · intro row hrow
    cases hrow

/-- The history is that of the selected row, along every run in which no history is shown
when a refresh finds no repository. -/
theorem history_of_selected (owner : QString) (token : QByteArray) {es : List Event}
    (h : Throughout (step qt) (EachChange qt Panel.KeepsHistory) (initial owner token) es) :
    (run (step qt) (initial owner token) es).panel.HistoryOfSelected :=
  panel_invariant h rfl fun _ _ hk h => h.step hk

section Sample

def emptyText : QtText := { sampleText with
  fromJson := fun body =>
    if body = toUtf8 "[]" then some (.array []) else sampleText.fromJson body }

theorem history_sample :
    (run (step emptyText) (initial "o" []) (sampleRefresh 0)).panel.HistoryOfSelected :=
  history_of_selected "o" [] (by decide +kernel)

/-- The only repository is deleted before the next refresh. -/
def deleted : List Event := sampleRefresh 0 ++ [.refresh, answer 2 (toUtf8 "[]") []]

theorem deleted_history :
    ¬ (run (step emptyText) (initial "o" []) deleted).panel.HistoryOfSelected := by
  intro h
  have hnone : (run (step emptyText) (initial "o" []) deleted).panel.selectedHistory = [] := by
    decide +kernel
  have hsome : (run (step emptyText) (initial "o" []) deleted).panel.history ≠ [] := by
    decide +kernel
  exact hsome (h.trans hnone)

end Sample

section Cards

/-- The event is a reply with the jobs of a run of the repository, and these are their cards. -/
def BringsCards (qt : QtText) (service : ProjectsService) (repository : QString)
    (cards : List Row) : Event → Prop
  | .finished index reply now => ∃ started runId body document,
      service.inFlight[index]? = some started ∧
      started.request.continuation = .jobs repository runId ∧
      service.outcomeOf qt (qt.urlText started.request.url) reply = .success body document ∧
      validJobs document ∧ cards = jobCards qt now ((jobsOf document).map QJsonValue.toObject)
  | _ => False

/-- There are no cards, or a reply for the selected project has brought them, and they have
not changed since. -/
def CardsOfSelected (qt : QtText) (owner : QString) (token : QByteArray) (es : List Event) : Prop :=
  let after := run (step qt) (initial owner token)
  (after es).stages = [] ∨ ∃ earlier e later, es = earlier ++ e :: later ∧
    BringsCards qt (after earlier) (after es).selectedKey (after es).stages e ∧
    Throughout (step qt) (fun before e => (before.step qt e).stages = before.stages)
      (after (earlier ++ [e])) later

theorem brings_of_mem_changes {e : Event} {repository : QString} {runId : Int64}
    {cards : List Row} (h : Change.cards repository runId cards ∈ service.changes qt e) :
    cards = [] ∨ BringsCards qt service repository cards e := by
  cases e with
  | refresh => cases h
  | selectProject index => simp [changes] at h
  | finished index reply now =>
    cases hi : service.inFlight[index]? with
    | none => simp [changes, hi] at h
    | some started =>
      simp only [changes, hi] at h
      cases hc : started.request.continuation with
      | repositories page repositories => simp [changesOf, hc] at h
      | privateRepositories page accumulated => simp [changesOf, hc] at h
      | runs batch repository => simp [changesOf, hc] at h
      | runners batch => simp [changesOf, hc] at h
      | artifacts repository runId =>
        cases ho : service.outcomeOf qt (qt.urlText started.request.url) reply with
        | success body document => simp [changesOf, hc, ho] at h
        | failure error => simp [changesOf, hc, ho] at h
      | jobs repository runId =>
        cases ho : service.outcomeOf qt (qt.urlText started.request.url) reply with
        | failure error =>
          simp [changesOf, hc, ho] at h
          exact Or.inl h.2.2
        | success body document =>
          by_cases hvalid : validJobs document
          case neg => simp [changesOf, hc, ho, hvalid] at h
          case pos =>
            simp [changesOf, hc, ho, hvalid] at h
            obtain ⟨rfl, rfl, rfl⟩ := h
            exact Or.inr ⟨started, _, body, document, hi, hc, ho, hvalid, rfl⟩

/-- The cards are those of the selected project, along every run in which cards are not left
to a selection with another key. -/
theorem cards_of_selected (owner : QString) (token : QByteArray) {es : List Event}
    (h : Throughout (step qt) (EachChange qt Panel.KeepsCards) (initial owner token) es) :
    CardsOfSelected qt owner token es := by
  refine h.history (P := fun es _ => CardsOfSelected qt owner token es) (Or.inl rfl) ?_
  intro es e hk hs
  have hrun : run (step qt) (initial owner token) (es ++ [e]) =
      (run (step qt) (initial owner token) es).step qt e := run_concat
  have hstep := Panel.run_cardsFrom hk
  rw [← step_panel, ← hrun] at hstep
  rcases hstep with hnone | ⟨hstages, hkey⟩ | ⟨runId, hmem⟩
  · exact Or.inl hnone
  · have hs' : (run (step qt) (initial owner token) (es ++ [e])).stages =
        (run (step qt) (initial owner token) es).stages := hstages
    have hk' : (run (step qt) (initial owner token) (es ++ [e])).selectedKey =
        (run (step qt) (initial owner token) es).selectedKey := hkey
    rcases hs with hnone | ⟨earlier, brought, later, heq, hbrings, hlater⟩
    · exact Or.inl (hs'.trans hnone)
    · refine Or.inr ⟨earlier, brought, later ++ [e], ?_, ?_, throughout_concat.mpr ⟨hlater, ?_⟩⟩
      · rw [heq, List.append_assoc, List.cons_append]
      · rw [hs', hk']
        exact hbrings
      · have hes : run (step qt) (run (step qt) (initial owner token) (earlier ++ [brought])) later =
            run (step qt) (initial owner token) es := by
          rw [← run_append, List.append_assoc, List.singleton_append, ← heq]
        rw [hes, ← hrun]
        exact hs'
  · rcases brings_of_mem_changes hmem with hnone | hbrings
    · exact Or.inl hnone
    · exact Or.inr ⟨es, e, [], rfl, hbrings, trivial⟩

def pairBody : QByteArray := toUtf8
  "[\x7b\"full_name\":\"o/a\",\"name\":\"a\",\"default_branch\":\"main\",\"archived\":false\x7d,\x7b\"full_name\":\"o/b\",\"name\":\"b\",\"default_branch\":\"main\",\"archived\":false\x7d]"

def pairText : QtText := { sampleText with
  fromJson := fun body =>
    if body = pairBody then some (.array [
      .object [("full_name", .string "o/a"), ("name", .string "a"),
        ("default_branch", .string "main"), ("archived", .bool false)],
      .object [("full_name", .string "o/b"), ("name", .string "b"),
        ("default_branch", .string "main"), ("archived", .bool false)]])
    else sampleText.fromJson body }

/-- Two projects are loaded, and the jobs of the first. -/
def pairLoaded : List Event :=
  [.refresh, answer 0 pairBody [], answer 0 runsBody [], answer 0 runsBody [], answer 0 jobsBody []]

theorem cards_sample : CardsOfSelected pairText "o" [] pairLoaded :=
  cards_of_selected "o" [] (by decide +kernel)

/-- The second project is selected while the cards of the first are shown. -/
def pairSelected : List Event := pairLoaded ++ [.selectProject 1]

/-- The projects whose jobs an event brings. -/
def jobsBrought (service : ProjectsService) : Event → List QString
  | .finished index _ _ =>
    match (service.inFlight[index]?).map fun started => started.request.continuation with
    | some (Continuation.jobs repository _) => [repository]
    | _ => []
  | _ => []

theorem BringsCards.mem_jobsBrought {repository : QString} {cards : List Row} {e : Event}
    (h : BringsCards qt service repository cards e) : repository ∈ service.jobsBrought e := by
  cases e with
  | refresh => cases h
  | selectProject index => cases h
  | finished index reply now =>
    obtain ⟨started, runId, body, document, hi, hc, -⟩ := h
    simp [jobsBrought, hi, hc]

theorem selected_cards : ¬ CardsOfSelected pairText "o" [] pairSelected := by
  have hstages : (run (step pairText) (initial "o" []) pairSelected).stages ≠ [] := by
    decide +kernel
  have hkey : (run (step pairText) (initial "o" []) pairSelected).selectedKey = "o/b" := by
    decide +kernel
  have hbrought : "o/b" ∉ emitted (step pairText) jobsBrought (initial "o" []) pairSelected := by
    decide +kernel
  rintro (hnone | ⟨earlier, e, later, heq, hbrings, -⟩)
  · exact hstages hnone
  · rw [hkey] at hbrings
    refine hbrought (heq ▸ mem_emitted hbrings.mem_jobsBrought)

end Cards

end ProjectsService

end RpiDashboard.Projects
