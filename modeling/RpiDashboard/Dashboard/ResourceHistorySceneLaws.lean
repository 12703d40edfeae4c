import RpiDashboard.Dashboard.HistoryRetentionLaws
import RpiDashboard.Dashboard.ResourceHistoryScene
import RpiDashboard.Dashboard.ScrollLaws

/-! Painting: a scene that is only moved shows what one that is built again at every frame would. -/

namespace RpiDashboard.Dashboard

open Numeric Sysmetrics

/-- What is seen of the curves of a metric. -/
def SceneRoot.shows (root : SceneRoot) (metric : Metric) : Set (Point ℚ) :=
  {point ∈ Set.image (·.shift root.translation) (picture (root.curves metric)) |
    point.x ∈ Set.Icc 0 root.clip.width ∧ point.y ∈ Set.Icc 0 root.clip.height}

namespace HistoryScene

variable {alpha : ℕ → ℚ → ℚ} {scene : HistoryScene}

/-- What would be seen if the geometry were built for the window as it is now. -/
def plain (alpha : ℕ → ℚ → ℚ) (scene : HistoryScene) (metric : Metric) : Set (Point ℚ) :=
  {point ∈ picture (scene.buildAt alpha scene.currentWindowEnd metric).runs |
    point.x ≤ scene.drawableWidth ∧ point.y ∈ Set.Icc 0 scene.height}

/-- Nothing can be painted. -/
def Hidden (scene : HistoryScene) : Prop :=
  scene.chart.series.snapshot.samples = [] ∨ scene.width ≤ 0 ∨ scene.height ≤ 0

theorem buildAt_hidden (h : scene.Hidden) (windowEndMilliseconds : ℚ) (metric : Metric) :
    (scene.buildAt alpha windowEndMilliseconds metric).runs = [] := by
  rw [buildAt, runs_buildMetricGeometry, if_pos]
  rcases h with hsamples | hwidth | hheight
  · exact .inl (by rw [hsamples, List.map_nil])
  · refine .inr (.inl (max_le le_rfl ?_))
    rw [endpointZoneWidth]
    linarith
  · exact .inr (.inr hheight)

/-- The window has not gone back since the geometry was built, and the geometry of the scene is
that of its revision. -/
structure Fresh (alpha : ℕ → ℚ → ℚ) (scene : HistoryScene) : Prop where
  behind : scene.geometryOriginMilliseconds ≤ scene.currentWindowEnd
  older : scene.root.geometryRevision.toNat ≤ scene.geometryRevision.toNat
  built : scene.root.geometryRevision = scene.geometryRevision →
    (∀ metric, scene.root.curves metric =
      (scene.buildAt alpha scene.geometryOriginMilliseconds metric).runs) ∧
    (¬ scene.Hidden → scene.root.clip = scene.drawableSize)

theorem fresh_rebuild (h : scene.root.geometryRevision.toNat ≤ scene.geometryRevision.toNat)
    (hroom : scene.geometryRevision.toNat + 1 < 2 ^ 64) : scene.rebuild.Fresh alpha := by
  have hnext : (scene.geometryRevision + 1).toNat = scene.geometryRevision.toNat + 1 := by
    rw [UInt64.toNat_add]
    exact Nat.mod_eq_of_lt hroom
  refine ⟨le_rfl, ?_, fun heq => ?_⟩
  · exact h.trans (hnext ▸ Nat.le_succ _)
  · have hrevision := congrArg UInt64.toNat heq
    rw [rebuild, hnext] at hrevision
    exact absurd h (by dsimp only at hrevision; omega)

/-- A window that moves on leaves the rest as it is. -/
theorem Fresh.moved (h : scene.Fresh alpha) {chart : HistoryChart}
    (hsnapshot : chart.series.snapshot = scene.chart.series.snapshot)
    (hcurrent : scene.currentWindowEnd ≤ chart.series.currentWindowEnd) :
    Fresh alpha { scene with chart } where
  behind := h.behind.trans hcurrent
  older := h.older
  built heq := by
    obtain ⟨hcurves, hclip⟩ := h.built heq
    refine ⟨fun metric => (hcurves metric).trans ?_, fun hvisible => hclip ?_⟩
    · simp only [buildAt, hsnapshot]
      rfl
    · rwa [Hidden, hsnapshot] at hvisible

/-- What a scene is painted as that can be seen. -/
theorem Fresh.updatePaintNode_visible (h : scene.Fresh alpha) (hvisible : ¬ scene.Hidden) :
    (∀ metric, (scene.updatePaintNode alpha).curves metric =
      (scene.buildAt alpha scene.geometryOriginMilliseconds metric).runs) ∧
    (scene.updatePaintNode alpha).clip = scene.drawableSize ∧
    (scene.updatePaintNode alpha).translation = translation scene.drawableSize
      scene.geometryOriginMilliseconds scene.currentWindowEnd ∧
    (scene.updatePaintNode alpha).geometryRevision = scene.geometryRevision := by
  have htranslation : -scene.drawableWidth *
      ((scene.currentWindowEnd - scene.geometryOriginMilliseconds) / 60000) =
      translation scene.drawableSize scene.geometryOriginMilliseconds scene.currentWindowEnd :=
    neg_mul ..
  simp only [updatePaintNode, if_neg (show ¬ (_ ∨ _) from hvisible)]
  refine ⟨?_, ?_, htranslation, ?_⟩
  · split
    · next heq => exact (h.built heq).1
    · exact fun _ => rfl
  · split
    · next heq => exact (h.built heq).2 hvisible
    · rfl
  · split
    · next heq => exact heq
    · rfl

theorem updatePaintNode_hidden (hhidden : scene.Hidden) :
    scene.updatePaintNode alpha = { scene.root with
      curves := fun _ => []
      marker := fun _ => none
      geometryRevision := scene.geometryRevision } := if_pos hhidden

theorem Fresh.paint (h : scene.Fresh alpha) :
    Fresh alpha { scene with root := scene.updatePaintNode alpha } := by
  by_cases hhidden : scene.Hidden
  · rw [updatePaintNode_hidden hhidden]
    exact ⟨h.behind, le_rfl, fun _ => ⟨fun metric => (buildAt_hidden hhidden _ metric).symm,
      fun hvisible => absurd hhidden hvisible⟩⟩
  · obtain ⟨hcurves, hclip, -, hrevision⟩ := h.updatePaintNode_visible hhidden
    exact ⟨h.behind, (congrArg UInt64.toNat hrevision).le, fun _ => ⟨hcurves, fun _ => hclip⟩⟩

/-- What is painted is what would be built anew. -/
theorem Fresh.shows (h : scene.Fresh alpha)
    (hsorted : ((scene.chart.series.snapshot.retainedPrefix ++
      scene.chart.series.snapshot.samples).map Dashboard.Sample.elapsedMilliseconds).Pairwise
        (· ≤ ·))
    (metric : Metric) :
    (scene.updatePaintNode alpha).shows metric = scene.plain alpha metric := by
  by_cases hhidden : scene.Hidden
  · rw [updatePaintNode_hidden hhidden, SceneRoot.shows, plain, buildAt_hidden hhidden]
    simp [picture]
  · obtain ⟨hcurves, hclip, htranslation, -⟩ := h.updatePaintNode_visible hhidden
    have hexact : ((scene.chart.series.snapshot.retainedPrefix.map exactSample ++
        scene.chart.series.snapshot.samples.map exactSample).map
          Dashboard.Sample.elapsedMilliseconds).Pairwise (· ≤ ·) := by
      rw [← List.map_append, List.map_map]
      exact hsorted
    rw [SceneRoot.shows, hcurves, hclip, htranslation, plain, buildAt, buildAt,
      picture_scrolled hexact h.behind]
    ext point
    simp only [Set.mem_Icc, Set.mem_ofPred_eq, drawableSize]
    tauto

/-- The sample that an event appends. -/
def Event.sample : Event → Option Sysmetrics.Sample
  | .chart event => event.sample
  | _ => none

def appended (events : List Event) : List Sysmetrics.Sample := events.filterMap Event.sample

/-- Within a transition the progress of the animation does not go back. -/
def Proceeds (scene : HistoryScene) : Event → Prop
  | .chart event => scene.chart.Proceeds event
  | _ => True

instance Proceeds.decidable (scene : HistoryScene) :
    (event : Event) → Decidable (scene.Proceeds event)
  | .chart event => inferInstanceAs (Decidable (scene.chart.Proceeds event))
  | .setWidth _ => .isTrue trivial
  | .setHeight _ => .isTrue trivial
  | .setColor => .isTrue trivial
  | .paint => .isTrue trivial

theorem appended_concat (events : List Event) (event : Event) :
    appended (events ++ [event]) = appended events ++ event.sample.toList := by
  cases h : event.sample <;> simp [appended, h]

theorem chart_appendSample (sample : Sysmetrics.Sample) :
    (scene.appendSample sample).chart = scene.chart.appendSample sample := by
  simp only [appendSample, rebuild, HistoryChart.appendSample]
  split
  · next hcount => rw [hcount, HistoryChart.removeRows, if_pos rfl]
  · rfl

/-- The samples seen are those that the chart of the scene has seen. -/
theorem follows_step {seen : List HistorySample}
    (h : Follows seen scene.chart.model scene.chart.series) {event : Event}
    (hproceeds : scene.Proceeds event)
    (hlast : ∀ sample ∈ event.sample, ∀ x ∈ seen,
      x.elapsedMilliseconds ≤ sample.elapsedMilliseconds) :
    Follows (seen ++ event.sample.toList.map readSample) (scene.step alpha event).chart.model
      (scene.step alpha event).chart.series := by
  have hsame {later : HistoryScene} (hchart : later.chart = scene.chart) :
      Follows (seen ++ []) later.chart.model later.chart.series := by
    rw [List.append_nil, hchart]
    exact h
  cases event with
  | chart event =>
    have hchart : Follows (seen ++ event.sample.toList.map readSample)
        (scene.chart.step event).model (scene.chart.step event).series :=
      h.step (show scene.chart.Proceeds event from hproceeds) hlast
    cases event with
    | appendSample sample =>
      rw [step, chart_appendSample]
      exact hchart
    | _ => exact hchart
  | setWidth width =>
    refine hsame ?_
    rw [step, setWidth]
    split <;> rfl
  | setHeight height =>
    refine hsame ?_
    rw [step, setHeight]
    split <;> rfl
  | setColor => exact hsame rfl
  | paint => exact hsame rfl

/-- The geometry has been built this often. -/
structure Counted (alpha : ℕ → ℚ → ℚ) (bound : ℕ) (scene : HistoryScene) : Prop where
  fresh : scene.Fresh alpha
  count : scene.geometryRevision.toNat ≤ bound

theorem Counted.mono {bound later : ℕ} (h : scene.Counted alpha bound) (hle : bound ≤ later) :
    scene.Counted alpha later :=
  ⟨h.fresh, h.count.trans hle⟩

/-- Any change of the scene followed by a rebuild. -/
theorem counted_rebuild {bound : ℕ} (h : scene.geometryRevision.toNat ≤ bound)
    (holder : scene.root.geometryRevision.toNat ≤ scene.geometryRevision.toNat)
    (hroom : bound + 1 < 2 ^ 64) : scene.rebuild.Counted alpha (bound + 1) where
  fresh := fresh_rebuild holder (Nat.lt_of_le_of_lt (Nat.succ_le_succ h) hroom)
  count := by
    rw [rebuild, UInt64.toNat_add]
    exact (Nat.mod_le _ _).trans (Nat.succ_le_succ h)

theorem Counted.step {bound : ℕ} (h : scene.Counted alpha bound)
    (hmoves : scene.chart.series.Moves) {event : Event} (hproceeds : scene.Proceeds event)
    (hroom : bound + 2 < 2 ^ 64) : (scene.step alpha event).Counted alpha (bound + 2) := by
  have hkept : scene.Counted alpha (bound + 2) := h.mono (Nat.le_add_right _ _)
  have hrebuilt {later : HistoryScene} (hroot : later.root = scene.root)
      (hrevision : later.geometryRevision = scene.geometryRevision) :
      later.rebuild.Counted alpha (bound + 2) := by
    refine (counted_rebuild (hrevision ▸ h.count) ?_ (by omega)).mono (by omega)
    rw [hroot, hrevision]
    exact h.fresh.older
  cases event with
  | chart event =>
    cases event with
    | appendSample sample =>
      rw [HistoryScene.step, appendSample]
      split
      · exact hrebuilt rfl rfl
      · next hcount =>
        have hremoved : (rebuild { scene with
            chart := scene.chart.removeRows
              (scene.chart.model.removeCount sample.elapsedMilliseconds) }).Counted
            alpha (bound + 1) :=
          counted_rebuild h.count h.fresh.older (by omega)
        exact counted_rebuild hremoved.count hremoved.fresh.older (by omega)
    | valueChanged progress =>
      exact ⟨h.fresh.moved ResourceHistorySeries.valueChanged_snapshot
        (ResourceHistorySeries.le_valueChanged_current hmoves hproceeds), hkept.count⟩
    | finished =>
      exact ⟨h.fresh.moved ResourceHistorySeries.finished_snapshot
        (ResourceHistorySeries.le_finished_current hmoves), hkept.count⟩
    | setTransitionDuration duration => exact ⟨h.fresh.moved rfl le_rfl, hkept.count⟩
  | setWidth width =>
    rw [HistoryScene.step, setWidth]
    split
    · exact hkept
    · exact hrebuilt rfl rfl
  | setHeight height =>
    rw [HistoryScene.step, setHeight]
    split
    · exact hkept
    · exact hrebuilt rfl rfl
  | setColor => exact hrebuilt rfl rfl
  | paint => exact ⟨h.fresh.paint, hkept.count⟩

variable {model : SystemMetricHistoryModel} {width height : ℚ}

theorem run_follows {events : List Event}
    (hsorted : (model.samples ++ appended events).Pairwise
      fun a b => a.elapsedMilliseconds ≤ b.elapsedMilliseconds)
    (hprogress : Throughout (step alpha) Proceeds (create model width height) events) :
    Follows ((model.samples ++ appended events).map readSample)
      (run (step alpha) (create model width height) events).chart.model
      (run (step alpha) (create model width height) events).chart.series := by
  revert hsorted
  refine hprogress.history (P := fun events scene =>
    (model.samples ++ appended events).Pairwise
        (fun a b => a.elapsedMilliseconds ≤ b.elapsedMilliseconds) →
      Follows ((model.samples ++ appended events).map readSample) scene.chart.model
        scene.chart.series) ?_ ?_
  · intro _
    have hseen : (model.samples ++ appended []).map readSample = readSamples model := by
      simp [appended, readSamples]
    rw [hseen]
    exact Follows.setModel {} model
  · intro events event hproceeds ih hsorted
    rw [appended_concat, ← List.append_assoc] at hsorted ⊢
    obtain ⟨hbefore, -, hlast⟩ := List.pairwise_append.mp hsorted
    rw [List.map_append]
    refine follows_step (ih hbefore) hproceeds fun sample hsample x hx => ?_
    obtain ⟨seen, hseen, rfl⟩ := List.mem_map.mp hx
    exact hlast seen hseen sample (by simpa using hsample)

theorem counted_run {events : List Event}
    (hsorted : (model.samples ++ appended events).Pairwise
      fun a b => a.elapsedMilliseconds ≤ b.elapsedMilliseconds)
    (hprogress : Throughout (step alpha) Proceeds (create model width height) events)
    (hlength : 2 * events.length + 1 < 2 ^ 64) :
    (run (step alpha) (create model width height) events).Counted alpha (2 * events.length + 1) := by
  induction events using List.reverseRecOn with
  | nil =>
    refine counted_rebuild (le_refl 0) le_rfl ?_
    decide
  | append_singleton events event ih =>
    rw [List.length_append, List.length_singleton] at hlength ⊢
    obtain ⟨hprogress, hproceeds⟩ := throughout_concat.mp hprogress
    have hbefore : (model.samples ++ appended events).Pairwise
        fun a b => a.elapsedMilliseconds ≤ b.elapsedMilliseconds := by
      rw [appended_concat, ← List.append_assoc] at hsorted
      exact (List.pairwise_append.mp hsorted).1
    rw [run_concat]
    exact (ih hbefore hprogress (by omega)).step (run_follows hbefore hprogress).moves hproceeds
      (by omega)

theorem samples_step (h : scene.chart.series.snapshot.samples = readSamples scene.chart.model)
    (event : Event) : (scene.step alpha event).chart.series.snapshot.samples =
      readSamples (scene.step alpha event).chart.model := by
  cases event with
  | chart event =>
    cases event with
    | appendSample sample => rfl
    | _ => exact HistoryChart.step_samples h _
  | setWidth width =>
    rw [step, setWidth]
    split <;> exact h
  | setHeight height =>
    rw [step, setHeight]
    split <;> exact h
  | setColor => exact h
  | paint => exact h

theorem run_samples (events : List Event) :
    (run (step alpha) (create model width height) events).chart.series.snapshot.samples =
      readSamples (run (step alpha) (create model width height) events).chart.model :=
  run_invariant (P := fun scene : HistoryScene =>
    scene.chart.series.snapshot.samples = readSamples scene.chart.model) rfl
    fun _ event _ h => samples_step h event

/-- A frame, and a second one half way to the next sample. -/
def sampleEvents : List Event :=
  [.chart (.appendSample { elapsedMilliseconds := 0, cpuUsageRatio := some .zero }),
    .chart (.appendSample { elapsedMilliseconds := 1000, cpuUsageRatio := some .one }), .paint,
    .chart (.valueChanged (1 / 2))]

def sampleScene : HistoryScene :=
  run (step fun _ _ => 1 / 2) (create {} 610 100) sampleEvents

end HistoryScene

end RpiDashboard.Dashboard
