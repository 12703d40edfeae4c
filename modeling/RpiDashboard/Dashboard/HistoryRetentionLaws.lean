import Mathlib.Tactic.Linarith
import Mathlib.Tactic.Ring
import RpiDashboard.Dashboard.ResourceHistorySeries
import RpiDashboard.Data.Retention
import RpiDashboard.Data.Run

/-! What a series keeps of the samples it has seen, while its window moves. -/

namespace RpiDashboard.Dashboard

open Numeric Sysmetrics

def Before (cutoff : ℚ) (sample : HistorySample) : Prop :=
  (sample.elapsedMilliseconds : ℚ) < cutoff

theorem Before.mono {cutoff later : ℚ} (h : cutoff ≤ later) (sample : HistorySample)
    (hs : Before cutoff sample) : Before later sample :=
  lt_of_lt_of_le hs h

theorem prune_dropped {cutoff : ℚ} {dropped retained : List HistorySample}
    (h : Dropped (Before cutoff) dropped retained) :
    ∃ dropped', dropped ++ retained = dropped' ++ prune cutoff retained ∧
      Dropped (Before cutoff) dropped' (prune cutoff retained) := by
  obtain ⟨pruned, hretained, hpruned⟩ := exists_dropped
    (fun sample : HistorySample => decide ((sample.elapsedMilliseconds : ℚ) < cutoff)) retained
  have hbefore : Dropped (Before cutoff) pruned (prune cutoff retained) :=
    hpruned.mono fun sample hs =>
      (of_decide_eq_true hs : (sample.elapsedMilliseconds : ℚ) < cutoff)
  change retained = pruned ++ prune cutoff retained at hretained
  refine ⟨dropped ++ pruned, ?_, (hretained ▸ h).trans hbefore⟩
  rw [List.append_assoc, ← hretained]

namespace ResourceHistorySeries

section Interpolation

theorem smoothstep_mono {a b : ℚ} (ha : 0 ≤ a) (hab : a ≤ b) (hb : b ≤ 1) :
    a * a * (3 - 2 * a) ≤ b * b * (3 - 2 * b) := by
  have haa : a * a ≤ a := mul_le_of_le_one_right ha (hab.trans hb)
  have hbb : b * b ≤ b := mul_le_of_le_one_right (ha.trans hab) hb
  have hleft : a * b ≤ a := mul_le_of_le_one_right ha hb
  have hright : a * b ≤ b := mul_le_of_le_one_left (ha.trans hab) (hab.trans hb)
  have hslope : 0 ≤ (b - a) * (3 * (a + b) - 2 * (a * a + a * b + b * b)) :=
    mul_nonneg (sub_nonneg.mpr hab) (by linarith)
  linarith

variable {start target progress later : ℚ}

theorem interpolateWindowEnd_mono (h : start ≤ target) (hp : progress ≤ later) :
    interpolateWindowEnd start target progress ≤ interpolateWindowEnd start target later := by
  have hbounded : max 0 (min 1 progress) ≤ max 0 (min 1 later) :=
    max_le_max le_rfl (min_le_min le_rfl hp)
  have hone : max 0 (min 1 later) ≤ 1 := max_le zero_le_one (min_le_left 1 later)
  have hstep := smoothstep_mono (le_max_left 0 (min 1 progress)) hbounded hone
  have hscaled := mul_le_mul_of_nonneg_left hstep (sub_nonneg.mpr h)
  simp only [interpolateWindowEnd]
  linarith

@[simp] theorem interpolateWindowEnd_zero : interpolateWindowEnd start target 0 = start := by
  simp [interpolateWindowEnd]

theorem interpolateWindowEnd_of_one_le (h : 1 ≤ progress) :
    interpolateWindowEnd start target progress = target := by
  simp only [interpolateWindowEnd, min_eq_left h, max_eq_right (zero_le_one (α := ℚ))]
  ring

theorem interpolateWindowEnd_le (h : start ≤ target) :
    interpolateWindowEnd start target progress ≤ target := by
  have hmono := interpolateWindowEnd_mono h (le_max_left progress 1)
  rwa [interpolateWindowEnd_of_one_le (le_max_right progress 1)] at hmono

end Interpolation

/-- The window has not passed its target, and stands where its animation has brought it. -/
structure Moves (series : ResourceHistorySeries) : Prop where
  stopped : series.hasWindowEnd = false → series.transitionAnimation = none
  displayed : series.hasWindowEnd = true →
    series.windowCurrentMilliseconds ≤ series.windowTargetMilliseconds
  running : ∀ progress ∈ series.transitionAnimation,
    series.windowStartMilliseconds ≤ series.windowTargetMilliseconds ∧
      series.windowCurrentMilliseconds = interpolateWindowEnd series.windowStartMilliseconds
        series.windowTargetMilliseconds progress

section Window

variable {series : ResourceHistorySeries} {newest : ℚ}

theorem startTransition_moves (h : series.Moves) (hend : series.hasWindowEnd = true)
    (hnewest : series.windowTargetMilliseconds < newest) :
    (series.startTransition newest).Moves := by
  have hle : series.windowCurrentMilliseconds ≤ newest := (h.displayed hend).trans hnewest.le
  unfold startTransition
  split
  · exact ⟨fun hno => absurd (hend.symm.trans hno) (by decide),
      fun _ => by simpa [currentWindowEnd] using hle, by simp [currentWindowEnd, hle]⟩
  · exact ⟨fun _ => rfl, fun _ => le_rfl, by simp⟩

@[simp] theorem startTransition_hasWindowEnd :
    (series.startTransition newest).hasWindowEnd = series.hasWindowEnd := by
  unfold startTransition
  split <;> rfl

@[simp] theorem startTransition_target :
    (series.startTransition newest).windowTargetMilliseconds = newest := by
  unfold startTransition
  split <;> rfl

theorem le_startTransition_current (h : series.windowCurrentMilliseconds ≤ newest) :
    series.windowCurrentMilliseconds ≤
      (series.startTransition newest).windowCurrentMilliseconds := by
  unfold startTransition
  split
  · simp [currentWindowEnd]
  · exact h

@[simp] theorem moveWindow_none : series.moveWindow none true = series := rfl

@[simp] theorem moveWindow_target (h : series.hasWindowEnd = true) :
    series.moveWindow (some series.windowTargetMilliseconds) true = series := by
  simp [moveWindow, h]

@[simp] theorem moveWindow_snapshot {newest : Option ℚ} {animate : Bool} :
    (series.moveWindow newest animate).snapshot = series.snapshot := by
  unfold moveWindow startTransition
  split <;> split_ifs <;> rfl

/-- A sample that is not older than the target moves the window to its time, forward. -/
theorem moveWindow_spec (h : series.Moves)
    (hnewest : series.hasWindowEnd = true → series.windowTargetMilliseconds ≤ newest) :
    (series.moveWindow (some newest) true).Moves ∧
      (series.moveWindow (some newest) true).hasWindowEnd = true ∧
      (series.moveWindow (some newest) true).windowTargetMilliseconds = newest ∧
      (series.hasWindowEnd = true → series.windowCurrentMilliseconds ≤
        (series.moveWindow (some newest) true).windowCurrentMilliseconds) := by
  cases hend : series.hasWindowEnd with
  | false =>
    have hmoved : series.moveWindow (some newest) true =
        { series.endWindowAt newest with hasWindowEnd := true } := by
      simp [moveWindow, hend]
    rw [hmoved]
    exact ⟨⟨fun _ => h.stopped hend, fun _ => le_rfl, by simp [endWindowAt, h.stopped hend]⟩,
      rfl, rfl, fun hno => absurd hno (by decide)⟩
  | true =>
    rcases (hnewest hend).lt_or_eq with hlt | rfl
    · have hmoved : series.moveWindow (some newest) true = series.startTransition newest := by
        simp [moveWindow, hend, hlt]
      rw [hmoved]
      exact ⟨startTransition_moves h hend hlt, by simp [hend], startTransition_target,
        fun _ => le_startTransition_current ((h.displayed hend).trans hlt.le)⟩
    · rw [moveWindow_target hend]
      exact ⟨h, hend, rfl, fun _ => le_rfl⟩

theorem moveWindow_at_once {newest : Option ℚ} : (series.moveWindow newest false).Moves := by
  cases newest with
  | none => exact ⟨fun _ => rfl, fun hno => absurd hno (by simp [moveWindow]), by simp [moveWindow]⟩
  | some newest => exact ⟨fun _ => rfl, fun _ => le_rfl, by simp [moveWindow]⟩

theorem valueChanged_moves (h : series.Moves) (progress : ℚ) :
    (series.valueChanged progress).Moves := by
  cases hrunning : series.transitionAnimation with
  | none => simpa [valueChanged, hrunning] using h
  | some last =>
    obtain ⟨hle, -⟩ := h.running last hrunning
    have hend : series.hasWindowEnd = true := by
      by_contra hno
      simp [h.stopped (by simpa using hno)] at hrunning
    simp only [valueChanged, hrunning]
    exact ⟨fun hno => absurd (hend.symm.trans hno) (by decide),
      fun _ => interpolateWindowEnd_le hle, by simp [hle]⟩

/-- Progress of the animation does not bring the window back. -/
theorem le_valueChanged_current (h : series.Moves) {progress : ℚ}
    (hp : ∀ last ∈ series.transitionAnimation, last ≤ progress) :
    series.windowCurrentMilliseconds ≤ (series.valueChanged progress).windowCurrentMilliseconds := by
  cases hrunning : series.transitionAnimation with
  | none => simp [valueChanged, hrunning]
  | some last =>
    obtain ⟨hle, hcurrent⟩ := h.running last hrunning
    simp only [valueChanged, hrunning]
    rw [hcurrent]
    exact interpolateWindowEnd_mono hle (hp last hrunning)

theorem finished_moves (h : series.Moves) : series.finished.Moves := by
  cases hrunning : series.transitionAnimation with
  | none => simpa [finished, hrunning] using h
  | some last =>
    simp only [finished, hrunning]
    exact ⟨fun _ => rfl, fun _ => le_rfl, by simp⟩

theorem le_finished_current (h : series.Moves) :
    series.windowCurrentMilliseconds ≤ series.finished.windowCurrentMilliseconds := by
  cases hrunning : series.transitionAnimation with
  | none => simp [finished, hrunning]
  | some last =>
    obtain ⟨hle, hcurrent⟩ := h.running last hrunning
    simp only [finished, hrunning]
    rw [hcurrent]
    exact interpolateWindowEnd_le hle

@[simp] theorem valueChanged_snapshot {progress : ℚ} :
    (series.valueChanged progress).snapshot = series.snapshot := by
  unfold valueChanged
  split <;> rfl

@[simp] theorem valueChanged_hasWindowEnd {progress : ℚ} :
    (series.valueChanged progress).hasWindowEnd = series.hasWindowEnd := by
  unfold valueChanged
  split <;> rfl

@[simp] theorem valueChanged_target {progress : ℚ} :
    (series.valueChanged progress).windowTargetMilliseconds = series.windowTargetMilliseconds := by
  unfold valueChanged
  split <;> rfl

@[simp] theorem finished_snapshot : series.finished.snapshot = series.snapshot := by
  unfold finished
  split <;> rfl

@[simp] theorem finished_hasWindowEnd : series.finished.hasWindowEnd = series.hasWindowEnd := by
  unfold finished
  split <;> rfl

@[simp] theorem finished_target :
    series.finished.windowTargetMilliseconds = series.windowTargetMilliseconds := by
  unfold finished
  split <;> rfl

end Window

end ResourceHistorySeries

open ResourceHistorySeries

/-- The cutoff of the window that is displayed. -/
def ResourceHistorySeries.cutoff (series : ResourceHistorySeries) : ℚ :=
  series.currentWindowEnd - 60000

theorem cutoff_mono {series later : ResourceHistorySeries}
    (h : series.windowCurrentMilliseconds ≤ later.windowCurrentMilliseconds) :
    series.cutoff ≤ later.cutoff :=
  sub_le_sub_right h 60000

/-- The samples seen are those dropped, those retained and those of the model; the window
heads for the last of them. -/
structure Follows (seen : List HistorySample) (model : SystemMetricHistoryModel)
    (series : ResourceHistorySeries) : Prop where
  moves : series.Moves
  kept : ∃ dropped, seen = dropped ++ (series.snapshot.retainedPrefix ++ readSamples model) ∧
    Dropped (Before series.cutoff) dropped series.snapshot.retainedPrefix
  unseen : series.hasWindowEnd = false → seen = []
  newest : series.hasWindowEnd = true →
    ∃ sample ∈ seen.getLast?, series.windowTargetMilliseconds = sample.elapsedMilliseconds

namespace Follows

variable {seen : List HistorySample} {model : SystemMetricHistoryModel}
  {series : ResourceHistorySeries}

/-- The window of `cacheModel`, before it reads the model. -/
def moved (series : ResourceHistorySeries) (model : SystemMetricHistoryModel) (animate : Bool) :
    ResourceHistorySeries :=
  series.moveWindow
    ((readSamples model).getLast?.map fun sample => (sample.elapsedMilliseconds : ℚ)) animate

/-- Reading the model again prunes what is retained by the window as it then is. -/
theorem cacheModel {animate : Bool} (hmoves : (moved series model animate).Moves)
    {dropped : List HistorySample}
    (hseen : seen = dropped ++ (series.snapshot.retainedPrefix ++ readSamples model))
    (hdropped : Dropped (Before (moved series model animate).cutoff) dropped
      series.snapshot.retainedPrefix)
    (hunseen : (moved series model animate).hasWindowEnd = false → seen = [])
    (hnewest : (moved series model animate).hasWindowEnd = true → ∃ sample ∈ seen.getLast?,
      (moved series model animate).windowTargetMilliseconds = sample.elapsedMilliseconds) :
    Follows seen model (series.cacheModel model animate) where
  moves := ⟨hmoves.stopped, hmoves.displayed, hmoves.running⟩
  kept := by
    obtain ⟨dropped', hpruned, hdropped'⟩ := prune_dropped hdropped
    refine ⟨dropped', ?_, hdropped'⟩
    rw [hseen, ← List.append_assoc, hpruned, List.append_assoc]
    rfl
  unseen := hunseen
  newest := hnewest

/-- The window rests on the newest sample as long as the model ends with it. -/
theorem moved_eq (h : Follows seen model series) {front : List HistorySample}
    (hseen : seen = front ++ readSamples model) : moved series model true = series := by
  cases hlast : (readSamples model).getLast? with
  | none => rw [moved, hlast, Option.map_none, moveWindow_none]
  | some last =>
    have hseenLast : seen.getLast? = some last := by
      rw [hseen, List.getLast?_append, hlast]
      rfl
    have hend : series.hasWindowEnd = true := by
      by_contra hno
      rw [h.unseen (by simpa using hno)] at hseenLast
      cases hseenLast
    obtain ⟨sample, hsample, htarget⟩ := h.newest hend
    cases hseenLast.symm.trans hsample
    rw [moved, hlast, Option.map_some, ← htarget, moveWindow_target hend]

theorem readSampleRange_front {count : Nat} (hpos : count ≠ 0)
    (hle : count ≤ model.samples.length) :
    readSampleRange model 0 (count - 1) = (readSamples model).take count := by
  have hlen : (readSamples model).length = model.samples.length := by simp [readSamples]
  rw [readSampleRange, if_neg (by omega), List.drop_zero]
  congr 1
  omega

/-- Rows that leave the model are retained before they do. -/
theorem capture (h : Follows seen model series) {count : Nat} (hpos : count ≠ 0)
    (hle : count ≤ model.samples.length) :
    Follows seen { samples := model.samples.drop count }
      (series.captureRemovedPrefix model 0 (count - 1)) := by
  obtain ⟨dropped, hseen, hdropped⟩ := h.kept
  have hsplit : readSamples model = (readSamples model).take count ++
      readSamples { samples := model.samples.drop count } := by
    simp [readSamples]
  rw [captureRemovedPrefix, if_neg (by simp), readSampleRange_front hpos hle]
  refine ⟨⟨h.moves.stopped, h.moves.displayed, h.moves.running⟩, ⟨dropped, ?_, hdropped.append _⟩,
    h.unseen, h.newest⟩
  rw [List.append_assoc, ← hsplit]
  exact hseen

theorem removeRows (h : Follows seen model series) {count : Nat}
    (hle : count ≤ model.samples.length) :
    Follows seen (HistoryChart.removeRows ⟨model, series⟩ count).model
      (HistoryChart.removeRows ⟨model, series⟩ count).series := by
  unfold HistoryChart.removeRows
  split_ifs with hpos
  · exact h
  have hcaptured := h.capture hpos hle
  obtain ⟨dropped, hseen, hdropped⟩ := hcaptured.kept
  have hmoved := hcaptured.moved_eq (hseen.trans (List.append_assoc _ _ _).symm)
  refine cacheModel ?_ hseen ?_ ?_ ?_ <;> rw [hmoved]
  · exact hcaptured.moves
  · exact hdropped
  · exact hcaptured.unseen
  · exact hcaptured.newest

theorem insertRow (h : Follows seen model series) {sample : Sysmetrics.Sample}
    (hlast : ∀ x ∈ seen, x.elapsedMilliseconds ≤ sample.elapsedMilliseconds) :
    Follows (seen ++ [readSample sample]) (HistoryChart.insertRow ⟨model, series⟩ sample).model
      (HistoryChart.insertRow ⟨model, series⟩ sample).series := by
  obtain ⟨dropped, hseen, hdropped⟩ := h.kept
  have htarget : series.hasWindowEnd = true →
      series.windowTargetMilliseconds ≤ (sample.elapsedMilliseconds : ℚ) := by
    intro hend
    obtain ⟨last, hmem, htarget⟩ := h.newest hend
    rw [htarget]
    exact_mod_cast hlast last (List.mem_of_getLast? hmem)
  have hread : readSamples { samples := model.samples ++ [sample] } =
      readSamples model ++ [readSample sample] := by
    simp [readSamples]
  have hmoved : moved series { samples := model.samples ++ [sample] } true =
      series.moveWindow (some sample.elapsedMilliseconds) true := by
    rw [moved, hread, List.getLast?_concat]
    rfl
  obtain ⟨hmoves, hend, hat, hforward⟩ := moveWindow_spec h.moves htarget
  rw [← hmoved] at hmoves hend hat hforward
  have hseen' : seen ++ [readSample sample] = dropped ++ (series.snapshot.retainedPrefix ++
      readSamples { samples := model.samples ++ [sample] }) := by
    rw [hseen, hread]
    simp only [List.append_assoc]
  refine cacheModel hmoves hseen' ?_
    (fun hno => absurd (hend.symm.trans hno) (by decide))
    fun _ => ⟨readSample sample, by simp, hat⟩
  cases hbefore : series.hasWindowEnd with
  | false =>
    have hnone : dropped = [] :=
      (List.append_eq_nil_iff.mp (hseen.symm.trans (h.unseen hbefore))).1
    rw [hnone]
    exact .nil _ _
  | true => exact hdropped.mono (Before.mono (cutoff_mono (hforward hbefore)))

/-- The samples seen are still those, and the window has not moved back. -/
theorem of_window (h : Follows seen model series) {later : ResourceHistorySeries}
    (hmoves : later.Moves) (hsnapshot : later.snapshot = series.snapshot)
    (hend : later.hasWindowEnd = series.hasWindowEnd)
    (htarget : later.windowTargetMilliseconds = series.windowTargetMilliseconds)
    (hforward : series.windowCurrentMilliseconds ≤ later.windowCurrentMilliseconds) :
    Follows seen model later where
  moves := hmoves
  kept := by
    obtain ⟨dropped, hseen, hdropped⟩ := h.kept
    rw [hsnapshot]
    exact ⟨dropped, hseen, hdropped.mono (Before.mono (cutoff_mono hforward))⟩
  unseen := by rw [hend]; exact h.unseen
  newest := by rw [hend, htarget]; exact h.newest

theorem setModel (series : ResourceHistorySeries) (model : SystemMetricHistoryModel) :
    Follows (readSamples model) model (series.setModel model).series := by
  have hseen : readSamples model = [] ++ ([] ++ readSamples model) := rfl
  refine cacheModel moveWindow_at_once hseen (.nil _ _) ?_ ?_ <;> intro hend <;>
    cases hlast : (readSamples model).getLast? with
    | none => simp_all [moved, moveWindow]
    | some last => simp_all [moved, moveWindow, endWindowAt]

/-- What one event does to the samples seen. -/
theorem step {chart : HistoryChart} (h : Follows seen chart.model chart.series)
    {event : HistoryChart.Event} (hproceeds : chart.Proceeds event)
    (hlast : ∀ sample ∈ event.sample, ∀ x ∈ seen,
      x.elapsedMilliseconds ≤ sample.elapsedMilliseconds) :
    Follows (seen ++ event.sample.toList.map readSample) (chart.step event).model
      (chart.step event).series := by
  cases event with
  | appendSample sample =>
    have hcount : chart.model.removeCount sample.elapsedMilliseconds ≤
        chart.model.samples.length := (List.takeWhile_sublist _).length_le
    exact (h.removeRows hcount).insertRow (hlast sample rfl)
  | valueChanged progress =>
    change Follows (seen ++ []) _ _
    rw [List.append_nil]
    exact h.of_window (valueChanged_moves h.moves progress) valueChanged_snapshot
      valueChanged_hasWindowEnd valueChanged_target (le_valueChanged_current h.moves hproceeds)
  | finished =>
    change Follows (seen ++ []) _ _
    rw [List.append_nil]
    exact h.of_window (finished_moves h.moves) finished_snapshot finished_hasWindowEnd
      finished_target (le_finished_current h.moves)
  | setTransitionDuration duration =>
    change Follows (seen ++ []) _ _
    rw [List.append_nil]
    exact h.of_window ⟨h.moves.stopped, h.moves.displayed, h.moves.running⟩ rfl rfl rfl le_rfl

end Follows

namespace HistoryChart

/-- The rows the series sees removed and inserted are those of the model's own append. -/
theorem appendSample_model (chart : HistoryChart) (sample : Sysmetrics.Sample) :
    (chart.appendSample sample).model = chart.model.appendSample sample := by
  unfold appendSample removeRows insertRow SystemMetricHistoryModel.appendSample
  split_ifs with hcount
  · rw [hcount, List.drop_zero]
  · rfl

theorem appended_concat (events : List Event) (event : Event) :
    appended (events ++ [event]) = appended events ++ event.sample.toList := by
  cases event <;> simp [appended, Event.sample]

/-- Between events the series has read the model as it is. -/
theorem step_samples {chart : HistoryChart}
    (h : chart.series.snapshot.samples = readSamples chart.model) (event : Event) :
    (chart.step event).series.snapshot.samples = readSamples (chart.step event).model := by
  cases event with
  | appendSample sample => rfl
  | valueChanged progress => exact (congrArg Snapshot.samples valueChanged_snapshot).trans h
  | finished => exact (congrArg Snapshot.samples finished_snapshot).trans h
  | setTransitionDuration duration => exact h

variable {series : ResourceHistorySeries} {model : SystemMetricHistoryModel}

theorem run_samples (events : List Event) :
    (run step (series.setModel model) events).series.snapshot.samples =
      readSamples (run step (series.setModel model) events).model :=
  run_invariant (P := fun chart : HistoryChart => chart.series.snapshot.samples = readSamples chart.model) rfl
    fun _ event _ h => step_samples h event

theorem run_follows {events : List Event}
    (hsorted : (model.samples ++ appended events).Pairwise
      fun a b => a.elapsedMilliseconds ≤ b.elapsedMilliseconds)
    (hprogress : Throughout step Proceeds (series.setModel model) events) :
    Follows ((model.samples ++ appended events).map readSample)
      (run step (series.setModel model) events).model
      (run step (series.setModel model) events).series := by
  revert hsorted
  refine hprogress.history (P := fun events chart =>
    (model.samples ++ appended events).Pairwise
        (fun a b => a.elapsedMilliseconds ≤ b.elapsedMilliseconds) →
      Follows ((model.samples ++ appended events).map readSample) chart.model chart.series) ?_ ?_
  · intro _
    have hseen : (model.samples ++ appended []).map readSample = readSamples model := by
      simp [appended, readSamples]
    rw [hseen]
    exact Follows.setModel series model
  · intro events event hproceeds ih hsorted
    rw [appended_concat, ← List.append_assoc] at hsorted ⊢
    obtain ⟨hbefore, -, hlast⟩ := List.pairwise_append.mp hsorted
    rw [List.map_append]
    refine (ih hbefore).step hproceeds fun sample hsample x hx => ?_
    obtain ⟨seen, hseen, rfl⟩ := List.mem_map.mp hx
    exact hlast seen hseen sample (by simpa using hsample)

/-- At every time the series holds, in order and each once, the samples of the displayed
window and the one before it. -/
theorem history_retained (series : ResourceHistorySeries) (model : SystemMetricHistoryModel)
    (events : List Event)
    (hsorted : (model.samples ++ appended events).Pairwise
      fun a b => a.elapsedMilliseconds ≤ b.elapsedMilliseconds)
    (hprogress : Throughout step Proceeds (series.setModel model) events) :
    let shown := (run step (series.setModel model) events).series
    Covers (fun sample => (sample.elapsedMilliseconds : ℚ) < shown.currentWindowEnd - 60000)
      ((model.samples ++ appended events).map readSample)
      (shown.snapshot.retainedPrefix ++ shown.snapshot.samples) := by
  intro shown
  obtain ⟨dropped, hseen, hdropped⟩ := (run_follows hsorted hprogress).kept
  have hread : shown.snapshot.samples = _ := run_samples events
  rw [hseen, hread]
  exact (hdropped.append _).covers

/-- Three rows leave while the window is still on its way to the fourth sample. -/
def irregularRemoval : List Event :=
  [.appendSample { elapsedMilliseconds := 0 }, .appendSample { elapsedMilliseconds := 10000 },
    .appendSample { elapsedMilliseconds := 20000 }, .appendSample { elapsedMilliseconds := 70001 },
    .valueChanged (6 / 7), .appendSample { elapsedMilliseconds := 90001 }]

theorem history_retained_irregular :
    let shown := (run step (({} : ResourceHistorySeries).setModel {}) irregularRemoval).series
    Covers (fun sample => (sample.elapsedMilliseconds : ℚ) < shown.currentWindowEnd - 60000)
      ((appended irregularRemoval).map readSample)
      (shown.snapshot.retainedPrefix ++ shown.snapshot.samples) :=
  history_retained {} {} irregularRemoval (by decide) (by decide +kernel)

end HistoryChart

end RpiDashboard.Dashboard
