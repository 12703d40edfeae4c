import Mathlib.Data.Rat.Floor
import RpiDashboard.Dashboard.ResourceHistorySeries

/-! The scene graph of the resource history (`dashboard/resource_history_series.cpp`): curves are
built when something else than the time has changed, and moved with the window in between. -/

namespace RpiDashboard.Dashboard

open Numeric

/-- The nodes: the curves of both metrics, how far they are moved, and where they are clipped. -/
structure SceneRoot where
  curves : Metric → List (CurveRun ℚ) := fun _ => []
  geometry : Metric → MetricGeometry ℚ := fun _ => {}
  translation : ℚ := 0
  clip : PlotSize ℚ := ⟨0, 0⟩
  marker : Metric → Option (Point ℚ) := fun _ => none
  geometryRevision : UInt64 := 0

/-- A series with the size of its item, and the scene that it has painted. -/
structure HistoryScene where
  chart : HistoryChart
  width : ℚ := 0
  height : ℚ := 0
  geometryOriginMilliseconds : ℚ := 0
  geometryRevision : UInt64 := 0
  root : SceneRoot := {}

/-- What the geometry is built of: a double is the number it stands for. -/
def exactSample (sample : HistorySample) : Dashboard.Sample ℚ where
  elapsedMilliseconds := sample.elapsedMilliseconds
  cpuUsageRatio := sample.cpuUsageRatio.map Double.toRat
  memoryUsageRatio := sample.memoryUsageRatio.map Double.toRat

namespace HistoryScene

def endpointZoneWidth : ℚ := 10

def currentWindowEnd (scene : HistoryScene) : ℚ := scene.chart.series.currentWindowEnd

def rebuild (scene : HistoryScene) : HistoryScene :=
  { scene with
    geometryOriginMilliseconds := scene.currentWindowEnd
    geometryRevision := scene.geometryRevision + 1 }

/-- `setModel` of a new series, the item having this size. -/
def create (model : Sysmetrics.SystemMetricHistoryModel) (width height : ℚ) : HistoryScene :=
  rebuild { chart := ({} : ResourceHistorySeries).setModel model, width, height }

/-- Each of the model's signals has the series read it again. -/
def appendSample (scene : HistoryScene) (sample : Sysmetrics.Sample) : HistoryScene :=
  let count := scene.chart.model.removeCount sample.elapsedMilliseconds
  let removed :=
    if count = 0 then scene else rebuild { scene with chart := scene.chart.removeRows count }
  rebuild { removed with chart := removed.chart.insertRow sample }

def setWidth (scene : HistoryScene) (width : ℚ) : HistoryScene :=
  if scene.width = width then scene else rebuild { scene with width }

def setHeight (scene : HistoryScene) (height : ℚ) : HistoryScene :=
  if scene.height = height then scene else rebuild { scene with height }

def drawableWidth (scene : HistoryScene) : ℚ := max 0 (scene.width - endpointZoneWidth)

def drawableSize (scene : HistoryScene) : PlotSize ℚ := ⟨scene.drawableWidth, scene.height⟩

variable (alpha : ℕ → ℚ → ℚ)

/-- The geometry of a metric, with this end of the window. -/
def buildAt (scene : HistoryScene) (windowEndMilliseconds : ℚ) (metric : Metric) :
    MetricGeometry ℚ :=
  let snapshot := scene.chart.series.snapshot
  buildMetricGeometry alpha metric scene.drawableSize windowEndMilliseconds
    (snapshot.samples.map exactSample) (snapshot.retainedPrefix.map exactSample)

/-- `rebuildSnapshot`, and the rectangle that clips it. -/
def rebuildSnapshot (scene : HistoryScene) (root : SceneRoot) : SceneRoot :=
  let geometry := scene.buildAt alpha scene.geometryOriginMilliseconds
  { root with
    curves := fun metric => (geometry metric).runs
    geometry := geometry
    clip := scene.drawableSize
    geometryRevision := scene.geometryRevision }

/-- `positionMarker`; without an intersection the marker is not seen. -/
def positionMarker (scene : HistoryScene) (geometry : MetricGeometry ℚ) (translation : ℚ) :
    Option (Point ℚ) :=
  (curveIntersection geometry (scene.drawableWidth - translation)).map fun intersection =>
    { intersection with x := scene.drawableWidth }

def updatePaintNode (scene : HistoryScene) : SceneRoot :=
  let root := scene.root
  if scene.chart.series.snapshot.samples = [] ∨ scene.width ≤ 0 ∨ scene.height ≤ 0 then
    { root with
      curves := fun _ => []
      marker := fun _ => none
      geometryRevision := scene.geometryRevision }
  else
    let root := if root.geometryRevision = scene.geometryRevision then root
      else scene.rebuildSnapshot alpha root
    let translation := -scene.drawableWidth *
      ((scene.currentWindowEnd - scene.geometryOriginMilliseconds) / 60000)
    { root with
      translation := translation
      marker := fun metric => scene.positionMarker (root.geometry metric) translation }

/-- What happens to the item; a change of a colour has the curves built again. -/
inductive Event
  | chart : HistoryChart.Event → Event
  | setWidth : ℚ → Event
  | setHeight : ℚ → Event
  | setColor : Event
  | paint : Event

def step (scene : HistoryScene) : Event → HistoryScene
  | .chart (.appendSample sample) => scene.appendSample sample
  | .chart event => { scene with chart := scene.chart.step event }
  | .setWidth width => scene.setWidth width
  | .setHeight height => scene.setHeight height
  | .setColor => scene.rebuild
  | .paint => { scene with root := scene.updatePaintNode alpha }

end HistoryScene

end RpiDashboard.Dashboard
