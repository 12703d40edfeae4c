import Mathlib.Data.List.TakeWhile
import RpiDashboard.Numeric.Double
import RpiDashboard.Qt.ItemModel

/-! The usage history (`sysmetrics/system_metric_history_model.cpp`): the samples of the
last minute. -/

namespace RpiDashboard.Sysmetrics

open Numeric Qt

structure Sample where
  elapsedMilliseconds : Int
  cpuUsageRatio : Option Double := none
  memoryUsageRatio : Option Double := none
  deriving DecidableEq

structure SystemMetricHistoryModel where
  samples : List Sample := []
  deriving DecidableEq

def kHistoryWindowMilliseconds : Int := 60000

namespace SystemMetricHistoryModel

/-- Older than the window that ends at this time. -/
def expired (elapsedMilliseconds : Int) (sample : Sample) : Bool :=
  let cutoff := elapsedMilliseconds - kHistoryWindowMilliseconds
  sample.elapsedMilliseconds < cutoff

/-- How many rows leave the window when a sample of this time comes. -/
def removeCount (model : SystemMetricHistoryModel) (elapsedMilliseconds : Int) : Nat :=
  (model.samples.takeWhile (expired elapsedMilliseconds)).length

def appendSample (model : SystemMetricHistoryModel) (sample : Sample) : SystemMetricHistoryModel where
  samples := model.samples.drop (model.removeCount sample.elapsedMilliseconds) ++ [sample]

/-- What `appendSample` announces, with the samples as they are then. -/
def announced (model : SystemMetricHistoryModel) (sample : Sample) :
    List (RowsChange × List Sample) :=
  let removeCount := model.removeCount sample.elapsedMilliseconds
  let kept := model.samples.drop removeCount
  let row := kept.length
  (if 0 < removeCount then [(.removed 0 (removeCount - 1), kept)] else []) ++
    [(.inserted row row, kept ++ [sample])]

variable {model : SystemMetricHistoryModel} {sample other : Sample}

/-- The rows that leave are the first ones, up to one that is in the window. -/
theorem drop_removeCount (elapsedMilliseconds : Int) :
    model.samples.drop (model.removeCount elapsedMilliseconds) =
      model.samples.dropWhile (expired elapsedMilliseconds) := by
  have happend : model.samples.takeWhile (expired elapsedMilliseconds) ++
      model.samples.dropWhile (expired elapsedMilliseconds) = model.samples :=
    List.takeWhile_append_dropWhile
  calc model.samples.drop (model.removeCount elapsedMilliseconds)
      = (model.samples.takeWhile (expired elapsedMilliseconds) ++
          model.samples.dropWhile (expired elapsedMilliseconds)).drop
            (model.samples.takeWhile (expired elapsedMilliseconds)).length := by
        rw [happend, removeCount]
    _ = model.samples.dropWhile (expired elapsedMilliseconds) := List.drop_left

/-- An appended sample is counted once more than before: it is not itself among the rows
that leave. -/
theorem appendSample_ne_self : model.appendSample sample ≠ model := by
  intro h
  have heq : model.samples.dropWhile (expired sample.elapsedMilliseconds) ++ [sample] =
      model.samples.takeWhile (expired sample.elapsedMilliseconds) ++
        model.samples.dropWhile (expired sample.elapsedMilliseconds) := by
    rw [List.takeWhile_append_dropWhile, ← drop_removeCount]
    exact congrArg samples h
  have hcount := congrArg (List.count sample) heq
  simp only [List.count_append, List.count_singleton_self] at hcount
  have hmem : sample ∈ model.samples.takeWhile (expired sample.elapsedMilliseconds) :=
    List.count_pos_iff.mp (by omega)
  have hexpired : expired sample.elapsedMilliseconds sample = true := List.mem_takeWhile_imp hmem
  have hold : sample.elapsedMilliseconds < sample.elapsedMilliseconds - 60000 :=
    of_decide_eq_true hexpired
  omega

theorem appendSample_inj (ht : sample.elapsedMilliseconds = other.elapsedMilliseconds) :
    model.appendSample sample = model.appendSample other ↔ sample = other := by
  simp [appendSample, ht]

end SystemMetricHistoryModel

end RpiDashboard.Sysmetrics
