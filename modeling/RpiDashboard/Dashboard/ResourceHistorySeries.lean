import RpiDashboard.Dashboard.ResourceHistoryGeometry
import RpiDashboard.Sysmetrics.SystemMetricHistoryModel

/-! The window of the resource history (`dashboard/resource_history_series.cpp`) over the
samples of a usage history, its times in exact arithmetic. -/

namespace RpiDashboard.Dashboard

open Numeric Sysmetrics

abbrev HistorySample : Type := Dashboard.Sample Double

structure Snapshot where
  samples : List HistorySample := []
  retainedPrefix : List HistorySample := []

/-- `transitionAnimation` is the progress of the running animation, `none` when it is stopped. -/
structure ResourceHistorySeries where
  snapshot : Snapshot := {}
  transitionDuration : Int := 350
  windowStartMilliseconds : ℚ := 0
  windowCurrentMilliseconds : ℚ := 0
  windowTargetMilliseconds : ℚ := 0
  hasWindowEnd : Bool := false
  transitionAnimation : Option ℚ := none

def readSample (sample : Sysmetrics.Sample) : HistorySample where
  elapsedMilliseconds := sample.elapsedMilliseconds
  cpuUsageRatio := sample.cpuUsageRatio
  memoryUsageRatio := sample.memoryUsageRatio

def readSamples (model : SystemMetricHistoryModel) : List HistorySample :=
  model.samples.map readSample

def readSampleRange (model : SystemMetricHistoryModel) (first last : Nat) : List HistorySample :=
  let samples := readSamples model
  if last < first ∨ samples.length ≤ last then [] else (samples.drop first).take (last - first + 1)

/-- How many samples at the front of the prefix are older than the cutoff. -/
def firstInside (cutoff : ℚ) (retained : List HistorySample) : Nat :=
  (retained.takeWhile fun sample => (sample.elapsedMilliseconds : ℚ) < cutoff).length

/-- The last sample before the cutoff stays, for the curve that enters the window. -/
def prune (cutoff : ℚ) (retained : List HistorySample) : List HistorySample :=
  retained.drop (firstInside cutoff retained - 1)

namespace ResourceHistorySeries

def interpolateWindowEnd (start target progress : ℚ) : ℚ :=
  let bounded := max 0 (min 1 progress)
  let smoothstep := bounded * bounded * (3 - 2 * bounded)
  start + (target - start) * smoothstep

def currentWindowEnd (series : ResourceHistorySeries) : ℚ := series.windowCurrentMilliseconds

/-- The window ends here, without an animation. -/
def endWindowAt (series : ResourceHistorySeries) (newest : ℚ) : ResourceHistorySeries :=
  { series with
    windowStartMilliseconds := newest
    windowCurrentMilliseconds := newest
    windowTargetMilliseconds := newest }

/-- `start` lets the animation report its first value, which is no progress. -/
def startTransition (series : ResourceHistorySeries) (newest : ℚ) : ResourceHistorySeries :=
  let displayed := series.currentWindowEnd
  if series.transitionDuration > 0 then
    { series with
      windowStartMilliseconds := displayed
      windowCurrentMilliseconds := interpolateWindowEnd displayed newest 0
      windowTargetMilliseconds := newest
      transitionAnimation := some 0 }
  else { series.endWindowAt newest with transitionAnimation := none }

/-- What `cacheModel` does to the window for the newest sample of the model. -/
def moveWindow (series : ResourceHistorySeries) (newest : Option ℚ) (animate : Bool) :
    ResourceHistorySeries :=
  match newest with
  | none =>
    if animate then series else { series with hasWindowEnd := false, transitionAnimation := none }
  | some newest =>
    if !animate then
      { series.endWindowAt newest with hasWindowEnd := true, transitionAnimation := none }
    else if !series.hasWindowEnd then { series.endWindowAt newest with hasWindowEnd := true }
    else if newest > series.windowTargetMilliseconds then series.startTransition newest
    else if newest < series.windowTargetMilliseconds then
      { series.endWindowAt newest with transitionAnimation := none }
    else series

def cacheModel (series : ResourceHistorySeries) (model : SystemMetricHistoryModel)
    (animate : Bool) : ResourceHistorySeries :=
  let samples := readSamples model
  let newest := samples.getLast?.map fun sample => (sample.elapsedMilliseconds : ℚ)
  let moved := series.moveWindow newest animate
  { moved with
    snapshot := ⟨samples, prune (moved.currentWindowEnd - 60000) series.snapshot.retainedPrefix⟩ }

def captureRemovedPrefix (series : ResourceHistorySeries) (model : SystemMetricHistoryModel)
    (first last : Nat) : ResourceHistorySeries :=
  if first ≠ 0 then series
  else
    { series with
      snapshot.retainedPrefix :=
        series.snapshot.retainedPrefix ++ readSampleRange model first last }

def setTransitionDuration (series : ResourceHistorySeries) (duration : Int) :
    ResourceHistorySeries :=
  { series with transitionDuration := max 0 duration }

/-- A stopped animation reports nothing. -/
def valueChanged (series : ResourceHistorySeries) (progress : ℚ) : ResourceHistorySeries :=
  match series.transitionAnimation with
  | none => series
  | some _ =>
    { series with
      windowCurrentMilliseconds :=
        interpolateWindowEnd series.windowStartMilliseconds series.windowTargetMilliseconds progress
      transitionAnimation := some progress }

def finished (series : ResourceHistorySeries) : ResourceHistorySeries :=
  match series.transitionAnimation with
  | none => series
  | some _ =>
    { series with
      windowStartMilliseconds := series.windowTargetMilliseconds
      windowCurrentMilliseconds := series.windowTargetMilliseconds
      transitionAnimation := none }

end ResourceHistorySeries

/-- A usage history and the series attached to it. -/
structure HistoryChart where
  model : SystemMetricHistoryModel
  series : ResourceHistorySeries

def ResourceHistorySeries.setModel (series : ResourceHistorySeries)
    (model : SystemMetricHistoryModel) : HistoryChart where
  model := model
  series := { series with snapshot := {} }.cacheModel model false

namespace HistoryChart

/-- The rows at the front leave the model, between the two signals of their removal. -/
def removeRows (chart : HistoryChart) (count : Nat) : HistoryChart :=
  if count = 0 then chart
  else
    let captured := chart.series.captureRemovedPrefix chart.model 0 (count - 1)
    let model : SystemMetricHistoryModel := { samples := chart.model.samples.drop count }
    { model := model, series := captured.cacheModel model true }

def insertRow (chart : HistoryChart) (sample : Sysmetrics.Sample) : HistoryChart :=
  let model : SystemMetricHistoryModel := { samples := chart.model.samples ++ [sample] }
  { model := model, series := chart.series.cacheModel model true }

def appendSample (chart : HistoryChart) (sample : Sysmetrics.Sample) : HistoryChart :=
  (chart.removeRows (chart.model.removeCount sample.elapsedMilliseconds)).insertRow sample

inductive Event
  | appendSample : Sysmetrics.Sample → Event
  | valueChanged : ℚ → Event
  | finished : Event
  | setTransitionDuration : Int → Event
  deriving DecidableEq

def step (chart : HistoryChart) : Event → HistoryChart
  | .appendSample sample => chart.appendSample sample
  | .valueChanged progress => { chart with series := chart.series.valueChanged progress }
  | .finished => { chart with series := chart.series.finished }
  | .setTransitionDuration duration =>
    { chart with series := chart.series.setTransitionDuration duration }

/-- The sample that an event appends. -/
def Event.sample : Event → Option Sysmetrics.Sample
  | .appendSample sample => some sample
  | _ => none

def appended (events : List Event) : List Sysmetrics.Sample := events.filterMap Event.sample

/-- Within a transition the progress of the animation does not go back. -/
def Proceeds (chart : HistoryChart) : Event → Prop
  | .valueChanged progress => ∀ last ∈ chart.series.transitionAnimation, last ≤ progress
  | _ => True

instance Proceeds.decidable (chart : HistoryChart) :
    (event : Event) → Decidable (chart.Proceeds event)
  | .valueChanged progress =>
    inferInstanceAs (Decidable (∀ last ∈ chart.series.transitionAnimation, last ≤ progress))
  | .appendSample _ => .isTrue trivial
  | .finished => .isTrue trivial
  | .setTransitionDuration _ => .isTrue trivial

end HistoryChart

end RpiDashboard.Dashboard
