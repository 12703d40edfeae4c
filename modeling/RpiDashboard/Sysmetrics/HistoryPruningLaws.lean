import RpiDashboard.Data.Retention
import RpiDashboard.Data.Run
import RpiDashboard.Sysmetrics.SystemMetricHistoryModel

/-! The usage history over a run of samples: it is the last minute of them, and a view that goes by
what is announced shows it. -/

namespace RpiDashboard.Sysmetrics

open Qt

namespace SystemMetricHistoryModel

/-- The samples that are not more than a minute older than the last one. -/
def lastMinute (samples : List Sample) : List Sample :=
  samples.filter fun sample => samples.getLast?.all fun last =>
    last.elapsedMilliseconds - 60000 ≤ sample.elapsedMilliseconds

/-- The model, and the rows of a view of it. -/
def observe (shown : SystemMetricHistoryModel × List Sample) (sample : Sample) :
    SystemMetricHistoryModel × List Sample :=
  (shown.1.appendSample sample, RowsChange.follow shown.2 (shown.1.announced sample))

variable {model : SystemMetricHistoryModel} {samples : List Sample} {sample : Sample}

theorem follow_announced :
    RowsChange.follow model.samples (model.announced sample) = (model.appendSample sample).samples := by
  unfold announced appendSample RowsChange.follow
  dsimp only
  rw [List.foldl_append]
  split
  case isTrue hremoved =>
    simp only [List.foldl_cons, List.foldl_nil, RowsChange.apply_removed_front hremoved]
    exact RowsChange.apply_inserted_back
  case isFalse hnone =>
    rw [Nat.eq_zero_of_not_pos hnone, List.drop_zero]
    exact RowsChange.apply_inserted_back

theorem run_observe (model : SystemMetricHistoryModel) (samples : List Sample) :
    (run observe (model, model.samples) samples).2 =
      (run observe (model, model.samples) samples).1.samples := by
  refine run_invariant (P := fun shown : SystemMetricHistoryModel × List Sample =>
    shown.2 = shown.1.samples) rfl fun shown sample _ h => ?_
  rw [observe, h]
  exact follow_announced

theorem expired_iff {elapsedMilliseconds : Int} : expired elapsedMilliseconds sample ↔
    sample.elapsedMilliseconds < elapsedMilliseconds - 60000 := decide_eq_true_iff

theorem not_expired {elapsedMilliseconds : Int} : (!expired elapsedMilliseconds sample) =
    decide (elapsedMilliseconds - 60000 ≤ sample.elapsedMilliseconds) := by
  rw [Bool.eq_iff_iff, Bool.not_eq_true', ← Bool.not_eq_true, expired_iff, decide_eq_true_iff]
  exact Int.not_lt

/-- The samples that leave are all that are too old. -/
theorem appendSample_filter
    (h : model.samples.Pairwise fun a b => a.elapsedMilliseconds ≤ b.elapsedMilliseconds) :
    (model.appendSample sample).samples = model.samples.filter (fun earlier =>
      sample.elapsedMilliseconds - 60000 ≤ earlier.elapsedMilliseconds) ++ [sample] := by
  have hold : model.samples.Pairwise fun a b =>
      expired sample.elapsedMilliseconds b → expired sample.elapsedMilliseconds a :=
    h.imp fun hle hb => expired_iff.mpr (Int.lt_of_le_of_lt hle (expired_iff.mp hb))
  rw [appendSample, drop_removeCount, dropWhile_eq_filter hold]
  simp only [not_expired]

/-- A sample that is in the window of a later one was in all the windows before. -/
theorem filter_lastMinute
    (hlast : ∀ earlier ∈ samples, earlier.elapsedMilliseconds ≤ sample.elapsedMilliseconds) :
    (lastMinute samples).filter (fun earlier =>
        sample.elapsedMilliseconds - 60000 ≤ earlier.elapsedMilliseconds) ++ [sample] =
      lastMinute (samples ++ [sample]) := by
  have hsame : ∀ earlier ∈ samples,
      (decide (sample.elapsedMilliseconds - 60000 ≤ earlier.elapsedMilliseconds) &&
        samples.getLast?.all fun last =>
          decide (last.elapsedMilliseconds - 60000 ≤ earlier.elapsedMilliseconds)) =
      decide (sample.elapsedMilliseconds - 60000 ≤ earlier.elapsedMilliseconds) := by
    intro earlier _
    rw [Bool.and_eq_left_iff_imp, decide_eq_true_iff]
    intro hwithin
    cases hl : samples.getLast? with
    | none => rfl
    | some last =>
      have hle := hlast last (List.mem_of_mem_getLast? hl)
      exact decide_eq_true (by omega)
  have hself : [sample].filter (fun earlier =>
      sample.elapsedMilliseconds - 60000 ≤ earlier.elapsedMilliseconds) = [sample] :=
    List.filter_cons_of_pos (decide_eq_true (by omega))
  simp only [lastMinute, List.getLast?_concat, Option.all_some, List.filter_append,
    List.filter_filter, List.filter_congr hsame, hself]

theorem run_lastMinute
    (h : samples.Pairwise fun a b => a.elapsedMilliseconds ≤ b.elapsedMilliseconds) :
    (run observe ({}, []) samples).1.samples = lastMinute samples := by
  revert h
  refine run_history (P := fun samples (shown : SystemMetricHistoryModel × List Sample) =>
    samples.Pairwise (fun a b => a.elapsedMilliseconds ≤ b.elapsedMilliseconds) →
      shown.1.samples = lastMinute samples) ?_ ?_ samples
  · exact fun _ => rfl
  · intro samples sample ih h
    obtain ⟨hbefore, -, hlast⟩ := List.pairwise_append.mp h
    have hrows := ih hbefore
    have hordered : (lastMinute samples).Pairwise fun a b =>
        a.elapsedMilliseconds ≤ b.elapsedMilliseconds := hbefore.filter _
    rw [observe, appendSample_filter (hrows ▸ hordered), hrows]
    exact filter_lastMinute fun earlier hmem => hlast earlier hmem sample List.mem_cons_self

/-- After samples in the order of their times the rows are those of the last minute, and so are
those of a view that only follows what is announced. -/
theorem history_pruned
    (h : samples.Pairwise fun a b => a.elapsedMilliseconds ≤ b.elapsedMilliseconds) :
    let shown := run observe ({}, []) samples
    shown.1.samples = lastMinute samples ∧ shown.2 = lastMinute samples := by
  intro shown
  have hview : shown.2 = shown.1.samples := run_observe {} samples
  constructor
  · exact run_lastMinute h
  · rw [hview]
    exact run_lastMinute h

/-- The sample that is a minute old stays, and leaves one millisecond later. -/
def boundary : List Sample :=
  [{ elapsedMilliseconds := 1000 }, { elapsedMilliseconds := 61000 }, { elapsedMilliseconds := 61001 }]

theorem history_pruned_boundary :
    let shown := run observe ({}, []) boundary
    shown.1.samples = boundary.drop 1 ∧ shown.2 = boundary.drop 1 :=
  history_pruned (by decide)

end SystemMetricHistoryModel

end RpiDashboard.Sysmetrics
