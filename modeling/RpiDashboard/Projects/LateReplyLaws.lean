import RpiDashboard.Projects.SelectionLaws

/-! Laws of late replies: details of a run are written into its row, and nothing else changes. -/

namespace RpiDashboard.Projects

open Qt

/-- A request for details of this run. -/
inductive Continuation.IsDetail (repository : QString) (runId : Int64) : Continuation → Prop
  | jobs : IsDetail repository runId (.jobs repository runId)
  | artifacts : IsDetail repository runId (.artifacts repository runId)

/-- What the reply may change in the row of its run. -/
def Continuation.Loads (row row' : Row) : Continuation → Prop
  | .jobs _ _ => ∃ jobsSummary deployStatus duration,
    row' = { row with detail := { row.detail with jobsSummary, deployStatus, duration } }
  | .artifacts _ _ => ∃ artifactSize,
    row' = { row with detail := { row.detail with artifactSize } }
  | _ => False

/-- The reply is one of a valid document. -/
def Continuation.Accepts : Continuation → Outcome → Prop
  | .jobs _ _, .success _ document => validJobs document
  | .artifacts _ _, .success _ document => validArtifacts document
  | _, _ => False

/-- No row is of this run: there is a newer one, or the row is gone. -/
def Panel.Superseded (panel : Panel) (repository : QString) (runId : Int64) : Prop :=
  ∀ row ∈ panel.projects, row.key = repository → row.detail.runId ≠ runId

/-- What a reply with details of a run does. -/
structure LateReply (continuation : Continuation) (outcome : Outcome) (repository : QString)
    (runId : Int64) (before after : Panel) : Prop where
  keys : after.projects.map Row.key = before.projects.map Row.key
  selectedIndex : after.selectedIndex = before.selectedIndex
  selectedKey : after.selectedKey = before.selectedKey
  history : after.history = before.history
  /-- No row changes but the first of the repository, if it is of the run. -/
  rows : ∀ (i : Nat) (row : Row), before.projects[i]? = some row →
    ∃ row', after.projects[i]? = some row' ∧ (row' = row ∨
      before.projects.findIdx (fun row => row.key = repository) = i ∧ row.key = repository ∧
        row.detail.runId = runId ∧ continuation.Loads row row')
  stages : after.stages ≠ before.stages → before.selectedKey = repository
  superseded : continuation.Accepts outcome → before.Superseded repository runId →
    after.projects = before.projects ∧ after.stages = before.stages

namespace LateReply

variable {continuation : Continuation} {outcome : Outcome} {repository : QString} {runId : Int64}
  {before after : Panel}

theorem refl (panel : Panel) : LateReply continuation outcome repository runId panel panel where
  keys := rfl
  selectedIndex := rfl
  selectedKey := rfl
  history := rfl
  rows _ row h := ⟨row, h, Or.inl rfl⟩
  stages h := absurd rfl h
  superseded _ _ := ⟨rfl, rfl⟩

/-- The cards may change besides, if they are of the repository. -/
theorem withStages (h : LateReply continuation outcome repository runId before after)
    {stages : List Row} (hkey : before.selectedKey = repository)
    (hs : continuation.Accepts outcome → ¬ before.Superseded repository runId) :
    LateReply continuation outcome repository runId before { after with stages } where
  keys := h.keys
  selectedIndex := h.selectedIndex
  selectedKey := h.selectedKey
  history := h.history
  rows := h.rows
  stages _ := hkey
  superseded ha hsuperseded := absurd hsuperseded (hs ha)

theorem insertDetail (panel : Panel) {insertion : Insertion}
    (hloads : ∀ row : Row, continuation.Loads row
      { row with detail := insertion.insert row.detail }) :
    LateReply continuation outcome repository runId panel
      (panel.insertDetail repository runId insertion.insert) where
  keys := by
    refine Keyed.map_key_modify fun row => ?_
    split <;> rfl
  selectedIndex := rfl
  selectedKey := rfl
  history := rfl
  rows i row hrow := by
    rw [Panel.insertDetail_getElem?, hrow]
    refine ⟨_, rfl, ?_⟩
    dsimp only
    split
    case isTrue h => exact Or.inr ⟨h.1, Keyed.key_of_findIdx h.1 hrow, h.2, hloads row⟩
    case isFalse => exact Or.inl rfl
  stages h := absurd rfl h
  superseded _ hsuperseded := by
    refine ⟨List.ext_getElem? fun i => ?_, rfl⟩
    rw [Panel.insertDetail_getElem?]
    cases hrow : panel.projects[i]? with
    | none => rfl
    | some row =>
      refine congrArg some (if_neg fun h => ?_)
      exact hsuperseded row (List.mem_of_getElem? hrow) (Keyed.key_of_findIdx h.1 hrow) h.2

/-- Cards are shown for the selected row only, and it has the selected key. -/
theorem cards (h : LateReply continuation outcome repository runId before after)
    (hsynced : before.Synced) (hshows : after.shows repository runId = before.shows repository runId)
    (stages : List Row) : LateReply continuation outcome repository runId before
      (after.step (.cards repository runId stages)) := by
  rcases Panel.step_cards after repository runId stages with heq | ⟨hshown, heq⟩
  · rw [heq]
    exact h
  · rw [heq]
    rw [hshows] at hshown
    simp only [Panel.shows, Bool.and_eq_true, decide_eq_true_eq, Option.any_eq_true] at hshown
    obtain ⟨hkey, row, hrow, hrun⟩ := hshown
    refine h.withStages hkey fun _ hsuperseded => ?_
    exact hsuperseded row (Panel.mem_of_selectedRow hrow) ((hsynced row hrow).trans hkey) hrun

theorem clear (panel : Panel) (ha : ¬ continuation.Accepts outcome) :
    LateReply continuation outcome repository runId panel (panel.step (.clear repository)) := by
  rcases Panel.step_clear panel repository with heq | ⟨hkey, heq⟩
  · rw [heq]
    exact refl panel
  · rw [heq]
    exact (refl panel).withStages hkey fun h => absurd h ha

end LateReply

namespace ProjectsService

variable {qt : QtText} {service : ProjectsService}

theorem late_changes {continuation : Continuation} {repository : QString} {runId : Int64}
    (h : continuation.IsDetail repository runId) (hs : service.panel.Synced) (now : QDateTime)
    (outcome : Outcome) : LateReply continuation outcome repository runId service.panel
      (run Panel.step service.panel (service.changesOf qt continuation now outcome)) := by
  cases h with
  | jobs =>
    cases outcome with
    | failure error => exact (LateReply.refl service.panel).cards hs rfl []
    | success body document =>
      by_cases hvalid : validJobs document
      case neg =>
        simp only [changesOf, hvalid]
        exact LateReply.clear service.panel hvalid
      case pos =>
        simp only [changesOf, hvalid]
        refine (LateReply.insertDetail service.panel fun row => ?_).cards hs
          (Panel.insertDetail_shows ..) _
        exact ⟨_, _, _, rfl⟩
  | artifacts =>
    cases outcome with
    | failure error => exact LateReply.refl service.panel
    | success body document =>
      by_cases hvalid : validArtifacts document
      case neg =>
        simp only [changesOf, hvalid]
        exact LateReply.refl service.panel
      case pos =>
        simp only [changesOf, hvalid]
        exact LateReply.insertDetail service.panel fun row => ⟨_, rfl⟩

/-- Whatever has happened since the request, a reply with details of a run changes the first row
of its repository at most, and this only if it is still of the run. -/
theorem late_reply (owner : QString) (token : QByteArray) (es : List Event) {index : Nat}
    {started : StartedRequest} (reply : Reply) (now : QDateTime) {repository : QString}
    {runId : Int64}
    (hi : (run (step qt) (initial owner token) es).inFlight[index]? = some started)
    (hd : started.request.continuation.IsDetail repository runId) :
    LateReply started.request.continuation
      ((run (step qt) (initial owner token) es).outcomeOf qt (qt.urlText started.request.url) reply)
      repository runId (run (step qt) (initial owner token) es).panel
      (run (step qt) (initial owner token) (es ++ [.finished index reply now])).panel := by
  rw [run_concat, step_panel]
  simp only [changes, hi]
  exact late_changes hd (run_synced qt owner token es) now _

theorem late_sample : LateReply (.jobs "o/a" 7) (.success jobsBody (.object [("jobs", .array
      [.object [("name", .string "build"), ("status", .string "queued")]])])) "o/a" 7
    (run (step sampleText) (initial "o" []) (sampleRefresh 0)).panel
    (run (step sampleText) (initial "o" []) (sampleRefresh 0 ++ [answer 0 jobsBody []])).panel :=
  late_reply "o" [] (sampleRefresh 0) { body := jobsBody } sampleTime
    (show (run (step sampleText) (initial "o" []) (sampleRefresh 0)).inFlight[0]? =
      some ⟨⟨jobsUrl "o/a" 7, .jobs "o/a" 7⟩, none⟩ by decide +kernel) .jobs

end ProjectsService

end RpiDashboard.Projects
