import Mathlib.Algebra.Order.Floor.Ring
import RpiDashboard.Numeric.Bezier

/-! The curves of the resource history (`dashboard/resource_history_geometry.cpp`), in exact
arithmetic over an ordered field. -/

namespace RpiDashboard.Dashboard

open RpiDashboard.Numeric

@[ext] structure Point (K : Type) where
  x : K
  y : K

variable {K : Type} [Field K]

namespace Point

instance : Add (Point K) where
  add p q := ⟨p.x + q.x, p.y + q.y⟩

instance : Sub (Point K) where
  sub p q := ⟨p.x - q.x, p.y - q.y⟩

instance : HMul (Point K) K (Point K) where
  hMul p c := ⟨p.x * c, p.y * c⟩

instance : HDiv (Point K) K (Point K) where
  hDiv p c := ⟨p.x / c, p.y / c⟩

variable (p q : Point K) (c : K)

@[simp] theorem add_x : (p + q).x = p.x + q.x := rfl

@[simp] theorem add_y : (p + q).y = p.y + q.y := rfl

@[simp] theorem sub_x : (p - q).x = p.x - q.x := rfl

@[simp] theorem sub_y : (p - q).y = p.y - q.y := rfl

@[simp] theorem mul_x : (p * c).x = p.x * c := rfl

@[simp] theorem mul_y : (p * c).y = p.y * c := rfl

@[simp] theorem div_x : (p / c).x = p.x / c := rfl

@[simp] theorem div_y : (p / c).y = p.y / c := rfl

end Point

structure Sample (K : Type) where
  elapsedMilliseconds : ℤ
  cpuUsageRatio : Option K := none
  memoryUsageRatio : Option K := none

inductive Metric
  | cpu | memory

structure CubicSegment (K : Type) where
  start : Point K
  control1 : Point K
  control2 : Point K
  finish : Point K

structure CurveRun (K : Type) where
  samples : List (Point K)
  cubics : List (CubicSegment K)
  tessellated : List (Point K)

structure MetricGeometry (K : Type) where
  runs : List (CurveRun K) := []
  currentEndpoint : Option (Point K) := none

structure PlotSize (K : Type) where
  width : K
  height : K

structure TimedPoint (K : Type) where
  time : K
  point : Point K

structure FilterState (K : Type) where
  rawRatio : K
  filteredRatio : K
  elapsedMilliseconds : ℤ

def windowMilliseconds : K := 60000

def headroom : K := 6

def maximumSubdivisions : ℤ := 64

def valueFor (sample : Sample K) : Metric → Option K
  | .cpu => sample.cpuUsageRatio
  | .memory => sample.memoryUsageRatio

def cubicPoint (segment : CubicSegment K) (progress : K) : Point K :=
  let inverse := 1 - progress
  segment.start * (inverse * inverse * inverse) +
    segment.control1 * (3 * inverse * inverse * progress) +
    segment.control2 * (3 * inverse * progress * progress) +
    segment.finish * (progress * progress * progress)

def splitRight (cubic : CubicSegment K) (progress : K) : CubicSegment K :=
  let first := cubic.start + (cubic.control1 - cubic.start) * progress
  let second := cubic.control1 + (cubic.control2 - cubic.control1) * progress
  let third := cubic.control2 + (cubic.finish - cubic.control2) * progress
  let fourth := first + (second - first) * progress
  let fifth := second + (third - second) * progress
  { start := fourth + (fifth - fourth) * progress
    control1 := fifth
    control2 := third
    finish := cubic.finish }

variable [LinearOrder K]

/-- `std::clamp` -/
def clamp (value low high : K) : K :=
  if value < low then low else if high < value then high else value

def timeConstant (rawChange : K) : Metric → K
  | .memory => 3
  | .cpu =>
    let progress := clamp ((rawChange - 3 / 100) / (25 / 100 - 3 / 100)) 0 1
    18 / 10 + progress * (35 / 100 - 18 / 10)

/-- The state after a sample; its filtered ratio is the result. The coefficient is a function
of the seconds since the sample before, in units of the time constant. -/
def filterRatio (alpha : K → K) (rawRatio : K) (elapsedMilliseconds : ℤ) (metric : Metric) :
    Option (FilterState K) → FilterState K
  | none => ⟨rawRatio, rawRatio, elapsedMilliseconds⟩
  | some state =>
    let deltaMilliseconds := elapsedMilliseconds - state.elapsedMilliseconds
    let filtered :=
      if 0 < deltaMilliseconds then
        let deltaSeconds : K := deltaMilliseconds / 1000
        state.filteredRatio + (rawRatio - state.filteredRatio) *
          alpha (deltaSeconds / timeConstant |rawRatio - state.rawRatio| metric)
      else rawRatio
    ⟨rawRatio, filtered, elapsedMilliseconds⟩

def endpointTangent (firstSlope secondSlope firstWidth secondWidth : K) : K :=
  let tangent := ((2 * firstWidth + secondWidth) * firstSlope - firstWidth * secondSlope) /
    (firstWidth + secondWidth)
  if tangent * firstSlope ≤ 0 then 0
  else if firstSlope * secondSlope < 0 ∧ |3 * firstSlope| < |tangent| then 3 * firstSlope
  else tangent

section Tangents

variable (points : List (TimedPoint K))

/-- `QList::at` -/
def pointAt (index : ℕ) : TimedPoint K :=
  points.getD index ⟨0, 0, 0⟩

def widthAt (index : ℕ) : K :=
  (pointAt points (index + 1)).time - (pointAt points index).time

def slopeAt (index : ℕ) : K :=
  if 0 < widthAt points index then
    ((pointAt points (index + 1)).point.y - (pointAt points index).point.y) / widthAt points index
  else 0

def interiorTangent (beforeSlope afterSlope beforeWidth afterWidth : K) : K :=
  if beforeWidth ≤ 0 ∨ afterWidth ≤ 0 ∨ beforeSlope * afterSlope ≤ 0 then 0
  else
    let beforeWeight := 2 * afterWidth + beforeWidth
    let afterWeight := afterWidth + 2 * beforeWidth
    (beforeWeight + afterWeight) / (beforeWeight / beforeSlope + afterWeight / afterSlope)

/-- The endpoint formula at two neighbouring intervals, from the outer one. -/
def outerTangent (first second : ℕ) : K :=
  if 0 < widthAt points first ∧ 0 < widthAt points second then
    endpointTangent (slopeAt points first) (slopeAt points second) (widthAt points first)
      (widthAt points second)
  else 0

/-- The entries of `monotoneTangents`. -/
def monotoneTangent (index : ℕ) : K :=
  if points.length < 2 then 0
  else if points.length = 2 then slopeAt points 0
  else if index = 0 then outerTangent points 0 1
  else if index + 1 < points.length then
    interiorTangent (slopeAt points (index - 1)) (slopeAt points index)
      (widthAt points (index - 1)) (widthAt points index)
  else outerTangent points (points.length - 2) (points.length - 3)

end Tangents

section Runs

variable (points : List (TimedPoint K)) (cutoff : K)

/-- The control ordinates as `monotoneTangents` has them, before they are clamped. -/
def freeOrdinate1 (index : ℕ) : K :=
  (pointAt points index).point.y + monotoneTangent points index * widthAt points index / 3

def freeOrdinate2 (index : ℕ) : K :=
  (pointAt points (index + 1)).point.y -
    monotoneTangent points (index + 1) * widthAt points index / 3

/-- The cubic between two samples. -/
def wholeCubic (index : ℕ) : CubicSegment K :=
  let start := (pointAt points index).point
  let finish := (pointAt points (index + 1)).point
  let minimumY := min start.y finish.y
  let maximumY := max start.y finish.y
  let control1 := start + (finish - start) / (3 : K)
  let control2 := start + (finish - start) * (2 / 3 : K)
  if widthAt points index ≤ 0 then { start, control1, control2, finish }
  else
    { start
      control1 := { control1 with y := clamp (freeOrdinate1 points index) minimumY maximumY }
      control2 := { control2 with y := clamp (freeOrdinate2 points index) minimumY maximumY }
      finish }

def Point.nonnegative (point : Point K) : Point K :=
  { point with x := max point.x 0 }

/-- What is drawn between two samples. -/
def cubicAt (index : ℕ) : Option (CubicSegment K) :=
  let start := pointAt points index
  let finish := pointAt points (index + 1)
  let width := widthAt points index
  let cubic := wholeCubic points index
  if finish.time < cutoff then none
  else
    let cubic :=
      if start.time < cutoff ∧ 0 < width then
        let right := splitRight cubic (clamp ((cutoff - start.time) / width) 0 1)
        { right with start := { right.start with x := 0 } }
      else cubic
    some
      { start := cubic.start.nonnegative
        control1 := cubic.control1.nonnegative
        control2 := cubic.control2.nonnegative
        finish := cubic.finish.nonnegative }

variable [FloorRing K]

def subdivisions (cubic : CubicSegment K) : ℕ :=
  (max 1 (min ⌈|cubic.finish.x - cubic.start.x|⌉ maximumSubdivisions)).toNat

/-- The points a cubic adds to the polyline. -/
def tessellate (cubic : CubicSegment K) : List (Point K) :=
  (List.range (subdivisions cubic)).map fun step =>
    cubicPoint cubic ((step + 1 : ℕ) / (subdivisions cubic : K))

def curveRun : CurveRun K :=
  let cubics := (List.range (points.length - 1)).filterMap (cubicAt points cutoff)
  { samples := (points.filter fun point => cutoff ≤ point.time).map TimedPoint.point
    cubics
    tessellated := (cubics.head?.map CubicSegment.start).toList ++ cubics.flatMap tessellate }

/-- The runs with the one that these points complete; the caller clears the points. -/
def completeRun (runs : List (CurveRun K)) : List (CurveRun K) :=
  if points.length < 2 then runs
  else
    let run := curveRun points cutoff
    if run.cubics.isEmpty then runs else runs ++ [run]

end Runs

/-- The local variables of the loop over the samples. -/
structure Build (K : Type) where
  run : List (TimedPoint K) := []
  runs : List (CurveRun K) := []
  filterState : Option (FilterState K) := none
  newestFilteredRatio : Option K := none

section Build

variable [FloorRing K] (alpha : ℕ → K → K) (metric : Metric) (plotSize : PlotSize K)
  (windowEndMilliseconds : K)

def cutoff : K := windowEndMilliseconds - windowMilliseconds

def abscissa (time : K) : K :=
  plotSize.width * ((time - cutoff windowEndMilliseconds) / windowMilliseconds)

def usableHeight : K := max 0 (plotSize.height - headroom)

def ordinate (ratio : K) : K := headroom + usableHeight plotSize * (1 - ratio)

/-- One round of the loop over `size` samples. -/
def Build.step (size : ℕ) (build : Build K) (entry : Sample K × ℕ) : Build K :=
  match valueFor entry.1 metric with
  | none =>
    { build with
      run := []
      runs := completeRun build.run (cutoff windowEndMilliseconds) build.runs
      filterState := none }
  | some value =>
    let time : K := entry.1.elapsedMilliseconds
    let state := filterRatio (alpha entry.2) (clamp value 0 1) entry.1.elapsedMilliseconds metric
      build.filterState
    let ratio := state.filteredRatio
    { build with
      run := build.run ++
        [⟨time, abscissa plotSize windowEndMilliseconds time, ordinate plotSize ratio⟩]
      filterState := some state
      newestFilteredRatio :=
        if entry.2 + 1 = size then some ratio else build.newestFilteredRatio }

/-- The coefficient may be any function, another one at each sample. -/
def buildMetricGeometry (samples retainedPrefix : List (Sample K)) : MetricGeometry K :=
  match samples.getLast? with
  | none => {}
  | some last =>
    if plotSize.width ≤ 0 ∨ plotSize.height ≤ 0 then {}
    else
      let renderSamples := retainedPrefix ++ samples
      let build := renderSamples.zipIdx.foldl
        (Build.step alpha metric plotSize windowEndMilliseconds renderSamples.length) {}
      { runs := completeRun build.run (cutoff windowEndMilliseconds) build.runs
        currentEndpoint := build.newestFilteredRatio.map fun ratio =>
          ⟨abscissa plotSize windowEndMilliseconds last.elapsedMilliseconds,
            ordinate plotSize ratio⟩ }

end Build

section Intersection

def epsilon : K := 1 / 1000000

def CubicSegment.intersection (cubic : CubicSegment K) (xPosition : K) : Option (Point K) :=
  let minimumX := min cubic.start.x cubic.finish.x
  let maximumX := max cubic.start.x cubic.finish.x
  if xPosition < minimumX - epsilon ∨ maximumX + epsilon < xPosition then none
  else if |cubic.finish.x - cubic.start.x| ≤ epsilon then
    if |xPosition - cubic.start.x| ≤ epsilon then some cubic.finish else none
  else
    let bounds := bisect (fun middle => (cubicPoint cubic middle).x < xPosition) 32 0 1
    some { cubicPoint cubic ((bounds.1 + bounds.2) / 2) with x := xPosition }

def curveIntersection (geometry : MetricGeometry K) (xPosition : K) : Option (Point K) :=
  match (geometry.runs.flatMap CurveRun.cubics).findSome?
      fun cubic => cubic.intersection xPosition with
  | some intersection => some intersection
  | none => geometry.currentEndpoint.filter fun endpoint => |endpoint.x - xPosition| ≤ epsilon

end Intersection

end RpiDashboard.Dashboard
