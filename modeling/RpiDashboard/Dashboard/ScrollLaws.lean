import RpiDashboard.Dashboard.GeometryLaws

/-! Curves that move along with the window are those that would be drawn anew. -/

namespace RpiDashboard.Dashboard

open RpiDashboard.Numeric

section Curves

variable {K : Type} [Field K]

def Point.shift (point : Point K) (offset : K) : Point K := { point with x := point.x + offset }

def CubicSegment.shift (cubic : CubicSegment K) (offset : K) : CubicSegment K where
  start := cubic.start.shift offset
  control1 := cubic.control1.shift offset
  control2 := cubic.control2.shift offset
  finish := cubic.finish.shift offset

theorem shift_div (p q : Point K) (offset c : K) :
    p.shift offset + (q.shift offset - p.shift offset) / c = (p + (q - p) / c).shift offset :=
  Point.ext (by simp [Point.shift]; ring) rfl

theorem shift_mul (p q : Point K) (offset c : K) :
    p.shift offset + (q.shift offset - p.shift offset) * c = (p + (q - p) * c).shift offset :=
  Point.ext (by simp [Point.shift]; ring) rfl

theorem cubicPoint_shift (cubic : CubicSegment K) (offset progress : K) :
    cubicPoint (cubic.shift offset) progress = (cubicPoint cubic progress).shift offset := by
  refine Point.ext ?_ rfl
  simp only [cubicPoint, CubicSegment.shift, Point.shift, Point.add_x, Point.mul_x]
  ring

variable [LinearOrder K]

/-- The points of a curve. -/
def CubicSegment.curve (cubic : CubicSegment K) : Set (Point K) :=
  Set.image (cubicPoint cubic) (Set.Icc 0 1)

def pictureOf (cubics : List (CubicSegment K)) : Set (Point K) :=
  {point | ∃ cubic ∈ cubics, point ∈ cubic.curve}

/-- All the points of the curves of a geometry. -/
def picture (runs : List (CurveRun K)) : Set (Point K) :=
  {point | ∃ run ∈ runs, point ∈ pictureOf run.cubics}

/-- The curves through these points, wherever the window is. -/
def whole (points : List (TimedPoint K)) : Set (Point K) :=
  {point | ∃ index, index + 1 < points.length ∧ point ∈ (wholeCubic points index).curve}

theorem curve_shift (cubic : CubicSegment K) (offset : K) :
    (cubic.shift offset).curve = Set.image (·.shift offset) cubic.curve := by
  rw [CubicSegment.curve, CubicSegment.curve, Set.image_image]
  exact Set.image_congr fun progress _ => cubicPoint_shift cubic offset progress

variable [IsStrictOrderedRing K] {cubic : CubicSegment K} {cut : K}

omit [LinearOrder K] [IsStrictOrderedRing K] in
theorem cubicPoint_splitRight (cubic : CubicSegment K) (cut progress : K) :
    cubicPoint (splitRight cubic cut) progress = cubicPoint cubic (cut + (1 - cut) * progress) := by
  refine Point.ext ?_ ?_
  · rw [cubicPoint_x, cubicPoint_x, abscissas_splitRight, Numeric.Cubic.eval_splitRight]
  · rw [cubicPoint_y, cubicPoint_y, ordinates_splitRight, Numeric.Cubic.eval_splitRight]

theorem mem_curve_splitRight (hc : cut ∈ Set.Icc 0 1) {point : Point K} :
    point ∈ (splitRight cubic cut).curve ↔
      ∃ progress ∈ Set.Icc cut 1, cubicPoint cubic progress = point := by
  have hrest : 0 ≤ 1 - cut := sub_nonneg.mpr hc.2
  constructor
  · rintro ⟨progress, hp, rfl⟩
    refine ⟨_, ⟨?_, ?_⟩, (cubicPoint_splitRight cubic cut progress).symm⟩
    · exact le_add_of_nonneg_right (mul_nonneg hrest hp.1)
    · linarith [mul_le_mul_of_nonneg_left hp.2 hrest]
  · rintro ⟨progress, hp, rfl⟩
    rcases hc.2.eq_or_lt with rfl | hlt
    · obtain rfl : progress = 1 := le_antisymm hp.2 hp.1
      refine ⟨1, Set.right_mem_Icc.mpr zero_le_one, ?_⟩
      rw [cubicPoint_splitRight, mul_one, add_sub_cancel]
    · have hpos : 0 < 1 - cut := sub_pos.mpr hlt
      refine ⟨(progress - cut) / (1 - cut), ⟨?_, ?_⟩, ?_⟩
      · exact div_nonneg (sub_nonneg.mpr hp.1) hrest
      · exact (div_le_one hpos).mpr (sub_le_sub_right hp.2 cut)
      · rw [cubicPoint_splitRight, mul_div_cancel₀ _ hpos.ne', add_sub_cancel]

end Curves

section Window

variable {K : Type} [Field K] [LinearOrder K] [IsStrictOrderedRing K] {plotSize : PlotSize K}
  {windowEndMilliseconds : K} {points : List (TimedPoint K)} {index : ℕ}

/-- When the curve of an interval is at this progress. -/
def timeAt (points : List (TimedPoint K)) (index : ℕ) (progress : K) : K :=
  (pointAt points index).time + widthAt points index * progress

theorem cubicPoint_wholeCubic (hplaced : Placed plotSize windowEndMilliseconds points)
    (hi : index + 1 < points.length) (progress : K) :
    (cubicPoint (wholeCubic points index) progress).x =
      abscissa plotSize windowEndMilliseconds (timeAt points index progress) := by
  rw [cubicPoint_x, abscissas_wholeCubic, Numeric.Cubic.eval_line,
    hplaced _ (pointAt_mem (Nat.lt_of_succ_lt hi)), hplaced _ (pointAt_mem hi)]
  simp only [abscissa, timeAt, widthAt]
  ring

theorem abscissa_nonneg_iff (hwidth : 0 < plotSize.width) {time : K} :
    0 ≤ abscissa plotSize windowEndMilliseconds time ↔ cutoff windowEndMilliseconds ≤ time := by
  refine ⟨fun h => ?_, abscissa_nonneg hwidth⟩
  have hwindow : (0 : K) < windowMilliseconds := by norm_num [windowMilliseconds]
  by_contra hlt
  have hneg : (time - cutoff windowEndMilliseconds) / windowMilliseconds < 0 :=
    div_neg_of_neg_of_pos (sub_neg.mpr (not_le.mp hlt)) hwindow
  exact absurd h (not_le.mpr (mul_neg_of_pos_of_neg hwidth hneg))

/-- From where the window cuts a curve on, it is inside the window, and only there. -/
theorem cutAt_le_iff (hordered : 0 ≤ widthAt points index) {cutoff progress : K}
    (hp : progress ∈ Set.Icc 0 1) :
    cutoff ≤ (pointAt points (index + 1)).time ∧ cutAt points cutoff index ≤ progress ↔
      cutoff ≤ timeAt points index progress := by
  have hfinish : (pointAt points (index + 1)).time =
      (pointAt points index).time + widthAt points index := (add_sub_cancel ..).symm
  have hspan : 0 ≤ widthAt points index * progress := mul_nonneg hordered hp.1
  have hpart : widthAt points index * progress ≤ widthAt points index :=
    mul_le_of_le_one_right hordered hp.2
  rw [timeAt, cutAt]
  constructor
  · rintro ⟨hf, hcut⟩
    split at hcut
    · next hs =>
      have hcut' := (div_le_iff₀ (widthAt_pos hs hf)).mp hcut
      linarith [mul_comm progress (widthAt points index)]
    · next hs => linarith [not_lt.mp hs]
  · intro h
    refine ⟨by linarith, ?_⟩
    split
    · next hs =>
      have hpos : 0 < widthAt points index := by
        refine hordered.lt_of_ne fun hzero => ?_
        rw [← hzero, zero_mul, add_zero] at h
        exact absurd hs (not_lt.mpr h)
      rw [div_le_iff₀ hpos]
      linarith [mul_comm progress (widthAt points index)]
    · exact hp.1

/-- What is drawn of the curves is what is not left of the plot. -/
theorem pictureOf_curveRun [FloorRing K] (hplaced : Placed plotSize windowEndMilliseconds points)
    (hwidth : 0 < plotSize.width)
    (hsorted : ∀ index, index + 1 < points.length → 0 ≤ widthAt points index) :
    pictureOf (curveRun points (cutoff windowEndMilliseconds)).cubics =
      {point ∈ whole points | 0 ≤ point.x} := by
  have hinside {index : ℕ} (hi : index + 1 < points.length) {progress : K}
      (hp : progress ∈ Set.Icc 0 1) :
      0 ≤ (cubicPoint (wholeCubic points index) progress).x ↔
        cutoff windowEndMilliseconds ≤ (pointAt points (index + 1)).time ∧
          cutAt points (cutoff windowEndMilliseconds) index ≤ progress := by
    rw [cubicPoint_wholeCubic hplaced hi, abscissa_nonneg_iff hwidth,
      cutAt_le_iff (hsorted index hi) hp]
  ext point
  constructor
  · rintro ⟨cubic, hcubic, hpoint⟩
    obtain ⟨index, hindex, hcubic⟩ := List.mem_filterMap.mp hcubic
    have hi : index + 1 < points.length := Nat.add_lt_of_lt_sub (List.mem_range.mp hindex)
    rw [cubicAt_eq hplaced hwidth hi] at hcubic
    split at hcubic
    · cases hcubic
    · next hlate =>
      have hf := not_lt.mp hlate
      obtain rfl := Option.some.inj hcubic
      obtain ⟨progress, hp, rfl⟩ := (mem_curve_splitRight (cutAt_mem hf)).mp hpoint
      have hp' : progress ∈ Set.Icc 0 1 := ⟨(cutAt_mem hf).1.trans hp.1, hp.2⟩
      exact ⟨⟨index, hi, progress, hp', rfl⟩, (hinside hi hp').mpr ⟨hf, hp.1⟩⟩
  · rintro ⟨⟨index, hi, progress, hp, rfl⟩, hx⟩
    obtain ⟨hf, hcut⟩ := (hinside hi hp).mp hx
    have hcubic := cubicAt_eq hplaced hwidth hi
    rw [if_neg (not_lt.mpr hf)] at hcubic
    refine ⟨_, List.mem_filterMap.mpr ⟨index, ?_, hcubic⟩, ?_⟩
    · exact List.mem_range.mpr (Nat.lt_sub_of_add_lt hi)
    · exact (mem_curve_splitRight (cutAt_mem hf)).mpr ⟨progress, ⟨hcut, hp.2⟩, rfl⟩

end Window

section Placing

variable {K : Type} [Field K] {plotSize : PlotSize K} {windowEndMilliseconds later : K}
  {entries : List (K × K)} {index : ℕ}

/-- Points at these times and ordinates. -/
def place (plotSize : PlotSize K) (windowEndMilliseconds : K) (entries : List (K × K)) :
    List (TimedPoint K) :=
  entries.map fun entry => ⟨entry.1, abscissa plotSize windowEndMilliseconds entry.1, entry.2⟩

/-- How far the plot moves with the window. -/
def translation (plotSize : PlotSize K) (windowEndMilliseconds later : K) : K :=
  -(plotSize.width * ((later - windowEndMilliseconds) / windowMilliseconds))

@[simp] theorem length_place :
    (place plotSize windowEndMilliseconds entries).length = entries.length := List.length_map ..

theorem placed_place : Placed plotSize windowEndMilliseconds
    (place plotSize windowEndMilliseconds entries) := by
  intro point hp
  obtain ⟨entry, -, rfl⟩ := List.mem_map.mp hp
  rfl

theorem time_place (index : ℕ) :
    (pointAt (place plotSize windowEndMilliseconds entries) index).time =
      (entries.getD index (0, 0)).1 := by
  rw [pointAt, place, List.getD_eq_getElem?_getD, List.getD_eq_getElem?_getD, List.getElem?_map]
  cases entries[index]? <;> rfl

theorem ordinate_place (index : ℕ) :
    (pointAt (place plotSize windowEndMilliseconds entries) index).point.y =
      (entries.getD index (0, 0)).2 := by
  rw [pointAt, place, List.getD_eq_getElem?_getD, List.getD_eq_getElem?_getD, List.getElem?_map]
  cases entries[index]? <;> rfl

theorem abscissa_later (time : K) : abscissa plotSize later time =
    abscissa plotSize windowEndMilliseconds time +
      translation plotSize windowEndMilliseconds later := by
  simp only [abscissa, translation, cutoff]
  ring

theorem shift_place (plotSize : PlotSize K) (windowEndMilliseconds later : K)
    (h : index < entries.length) :
    (pointAt (place plotSize later entries) index).point =
      (pointAt (place plotSize windowEndMilliseconds entries) index).point.shift
        (translation plotSize windowEndMilliseconds later) := by
  simp [pointAt, place, h, Point.shift, ← abscissa_later]

variable [LinearOrder K]

/-- The tangents have nothing to do with the window. -/
theorem freeOrdinates_place (plotSize : PlotSize K) (windowEndMilliseconds later : K)
    (entries : List (K × K)) (index : ℕ) :
    freeOrdinate1 (place plotSize later entries) index =
        freeOrdinate1 (place plotSize windowEndMilliseconds entries) index ∧
      freeOrdinate2 (place plotSize later entries) index =
        freeOrdinate2 (place plotSize windowEndMilliseconds entries) index := by
  constructor <;>
    simp only [freeOrdinate1, freeOrdinate2, monotoneTangent, outerTangent, slopeAt, widthAt,
      length_place, time_place, ordinate_place]

theorem wholeCubic_place (plotSize : PlotSize K) (windowEndMilliseconds later : K)
    (h : index + 1 < entries.length) :
    wholeCubic (place plotSize later entries) index =
      (wholeCubic (place plotSize windowEndMilliseconds entries) index).shift
        (translation plotSize windowEndMilliseconds later) := by
  have hwidth : widthAt (place plotSize later entries) index =
      widthAt (place plotSize windowEndMilliseconds entries) index := by
    simp only [widthAt, time_place]
  obtain ⟨hfree₁, hfree₂⟩ := freeOrdinates_place plotSize windowEndMilliseconds later entries index
  simp only [wholeCubic]
  rw [hwidth, hfree₁, hfree₂, shift_place plotSize windowEndMilliseconds later
    (Nat.lt_of_succ_lt h), shift_place plotSize windowEndMilliseconds later h]
  simp only [shift_div, shift_mul]
  split <;> rfl

theorem whole_place (plotSize : PlotSize K) (windowEndMilliseconds later : K)
    (entries : List (K × K)) : whole (place plotSize later entries) =
    Set.image (·.shift (translation plotSize windowEndMilliseconds later))
      (whole (place plotSize windowEndMilliseconds entries)) := by
  ext point
  constructor
  · rintro ⟨index, hi, hpoint⟩
    rw [length_place] at hi
    rw [wholeCubic_place plotSize windowEndMilliseconds later hi, curve_shift] at hpoint
    obtain ⟨point, hpoint, rfl⟩ := hpoint
    exact ⟨point, ⟨index, by rwa [length_place], hpoint⟩, rfl⟩
  · rintro ⟨point, ⟨index, hi, hpoint⟩, rfl⟩
    rw [length_place] at hi
    refine ⟨index, by rwa [length_place], ?_⟩
    rw [wholeCubic_place plotSize windowEndMilliseconds later hi, curve_shift]
    exact ⟨point, hpoint, rfl⟩

end Placing

section Tracing

variable {K : Type} [Field K] [LinearOrder K]

/-- The runs of the samples before they are placed in a window: times and ordinates. -/
structure Trace (K : Type) where
  run : List (K × K) := []
  runs : List (List (K × K)) := []
  filterState : Option (FilterState K) := none

variable (alpha : ℕ → K → K) (metric : Metric) (plotSize : PlotSize K)

def Trace.step (trace : Trace K) (entry : Sample K × ℕ) : Trace K :=
  match valueFor entry.1 metric with
  | none => { runs := trace.runs ++ [trace.run] }
  | some value =>
    let state :=
      filterRatio (alpha entry.2) (clamp value 0 1) entry.1.elapsedMilliseconds metric trace.filterState
    { trace with
      run := trace.run ++ [((entry.1.elapsedMilliseconds : K), ordinate plotSize state.filteredRatio)]
      filterState := some state }

def trace (samples : List (Sample K)) : Trace K :=
  samples.zipIdx.foldl (Trace.step alpha metric plotSize) {}

/-- The last run is completed after the loop. -/
def Trace.all (trace : Trace K) : List (List (K × K)) := trace.runs ++ [trace.run]

section Times

variable {alpha metric plotSize} {trace : Trace K}

/-- The times of the runs are among those of the samples, in their order. -/
structure Trace.Timed (times : List K) (trace : Trace K) : Prop where
  run : trace.run.map Prod.fst <:+ times
  runs : ∀ entries ∈ trace.runs, entries.map Prod.fst <:+: times

theorem Trace.Timed.step {times : List K} (h : trace.Timed times) (entry : Sample K × ℕ) :
    (trace.step alpha metric plotSize entry).Timed
      (times ++ [(entry.1.elapsedMilliseconds : K)]) := by
  have hruns : ∀ entries ∈ trace.runs,
      entries.map Prod.fst <:+: times ++ [(entry.1.elapsedMilliseconds : K)] :=
    fun entries he => (h.runs entries he).trans (List.prefix_append _ _).isInfix
  unfold Trace.step
  cases valueFor entry.1 metric with
  | none =>
    refine ⟨List.nil_suffix, List.forall_mem_append.mpr ⟨hruns, ?_⟩⟩
    exact List.forall_mem_singleton.mpr (h.run.isInfix.trans (List.prefix_append _ _).isInfix)
  | some value =>
    obtain ⟨earlier, hearlier⟩ := h.run
    refine ⟨⟨earlier, ?_⟩, hruns⟩
    rw [List.map_append, ← List.append_assoc, hearlier]
    rfl

theorem Trace.Timed.foldl {times : List K} (h : trace.Timed times)
    (entries : List (Sample K × ℕ)) : (entries.foldl (Trace.step alpha metric plotSize) trace).Timed
      (times ++ entries.map fun entry => (entry.1.elapsedMilliseconds : K)) := by
  induction entries generalizing trace times with
  | nil => simpa using h
  | cons entry entries ih => simpa [List.append_assoc] using ih (h.step entry)

theorem timed_trace (samples : List (Sample K)) :
    (Dashboard.trace alpha metric plotSize samples).Timed
      (samples.map fun sample => (sample.elapsedMilliseconds : K)) := by
  have hstart : ({} : Trace K).Timed [] := ⟨List.nil_suffix, by simp⟩
  have htimed : (Dashboard.trace alpha metric plotSize samples).Timed _ :=
    hstart.foldl samples.zipIdx
  have htimes := congrArg (List.map fun sample : Sample K => (sample.elapsedMilliseconds : K))
    (List.zipIdx_map_fst 0 samples)
  rw [List.map_map] at htimes
  rw [List.nil_append] at htimed
  exact htimes ▸ htimed

end Times

variable [FloorRing K]

def drawAll (windowEndMilliseconds : K) (runs : List (CurveRun K)) (entries : List (List (K × K))) :
    List (CurveRun K) :=
  entries.foldl (fun runs entries => completeRun (place plotSize windowEndMilliseconds entries)
    (cutoff windowEndMilliseconds) runs) runs

structure Build.Traces (windowEndMilliseconds : K) (build : Build K) (trace : Trace K) : Prop where
  run : build.run = place plotSize windowEndMilliseconds trace.run
  runs : build.runs = drawAll plotSize windowEndMilliseconds [] trace.runs
  filterState : build.filterState = trace.filterState

variable {alpha metric plotSize} {windowEndMilliseconds : K} {build : Build K} {trace : Trace K}

theorem Build.Traces.step (h : build.Traces plotSize windowEndMilliseconds trace) (size : ℕ)
    (entry : Sample K × ℕ) :
    (build.step alpha metric plotSize windowEndMilliseconds size entry).Traces plotSize
      windowEndMilliseconds (trace.step alpha metric plotSize entry) := by
  unfold Build.step Trace.step
  cases valueFor entry.1 metric with
  | none =>
    refine ⟨rfl, ?_, rfl⟩
    dsimp only
    rw [h.run, h.runs, drawAll, drawAll, List.foldl_append]
    rfl
  | some value =>
    dsimp only
    rw [h.filterState]
    refine ⟨?_, h.runs, rfl⟩
    dsimp only
    rw [h.run, place, place, List.map_append]
    rfl

theorem Build.Traces.foldl (h : build.Traces plotSize windowEndMilliseconds trace) (size : ℕ)
    (entries : List (Sample K × ℕ)) :
    (entries.foldl (Build.step alpha metric plotSize windowEndMilliseconds size) build).Traces
      plotSize windowEndMilliseconds (entries.foldl (Trace.step alpha metric plotSize) trace) := by
  induction entries generalizing build trace with
  | nil => exact h
  | cons entry entries ih => exact ih (h.step size entry)

/-- The runs that a geometry is drawn from. -/
theorem runs_buildMetricGeometry (samples retainedPrefix : List (Sample K)) :
    (buildMetricGeometry alpha metric plotSize windowEndMilliseconds samples retainedPrefix).runs =
      if samples = [] ∨ plotSize.width ≤ 0 ∨ plotSize.height ≤ 0 then []
      else drawAll plotSize windowEndMilliseconds []
        (Dashboard.trace alpha metric plotSize (retainedPrefix ++ samples)).all := by
  have hempty : ({} : Build K).Traces plotSize windowEndMilliseconds ({} : Trace K) :=
    ⟨rfl, rfl, rfl⟩
  have hbuild : ((retainedPrefix ++ samples).zipIdx.foldl (Build.step alpha metric plotSize
      windowEndMilliseconds (retainedPrefix ++ samples).length) {}).Traces plotSize
        windowEndMilliseconds (Dashboard.trace alpha metric plotSize (retainedPrefix ++ samples)) :=
    hempty.foldl _ _
  unfold buildMetricGeometry
  cases hlast : samples.getLast? with
  | none => rw [if_pos (.inl (List.getLast?_eq_none_iff.mp hlast))]
  | some last =>
    have hne : samples ≠ [] := by
      rintro rfl
      cases hlast
    dsimp only
    split
    · next hsize => rw [if_pos (.inr hsize)]
    · next hsize =>
      rw [if_neg (by simpa [hne] using hsize)]
      dsimp only
      rw [hbuild.run, hbuild.runs, Trace.all, drawAll, drawAll, List.foldl_append]
      rfl

/-- The picture of the runs so far and of the one that is completed. -/
theorem picture_completeRun (points : List (TimedPoint K)) (cutoff : K) (runs : List (CurveRun K)) :
    picture (completeRun points cutoff runs) =
      picture runs ∪ pictureOf (curveRun points cutoff).cubics := by
  have hnone (h : (curveRun points cutoff).cubics = []) :
      picture runs = picture runs ∪ pictureOf (curveRun points cutoff).cubics := by
    simp [h, pictureOf]
  rw [completeRun]
  split
  · next hshort =>
    have hzero : points.length - 1 = 0 := by omega
    exact hnone (by simp [curveRun, hzero])
  · dsimp only
    split
    · next hempty => exact hnone (List.isEmpty_iff.mp hempty)
    · ext point
      simp [picture, or_and_right, exists_or]

theorem picture_drawAll (entries : List (List (K × K))) (runs : List (CurveRun K)) :
    picture (drawAll plotSize windowEndMilliseconds runs entries) = picture runs ∪
      {point | ∃ entry ∈ entries, point ∈ pictureOf (curveRun
        (place plotSize windowEndMilliseconds entry) (cutoff windowEndMilliseconds)).cubics} := by
  induction entries generalizing runs with
  | nil => simp [drawAll]
  | cons entry entries ih =>
    rw [drawAll, List.foldl_cons, ← drawAll, ih, picture_completeRun, Set.union_assoc]
    congr 1
    ext point
    simp

end Tracing

section Scrolling

variable {K : Type} [Field K] [LinearOrder K] [IsStrictOrderedRing K] [FloorRing K]
  {alpha : ℕ → K → K} {metric : Metric} {plotSize : PlotSize K} {windowEndMilliseconds later : K}
  {samples retainedPrefix : List (Sample K)}

omit [FloorRing K] in
theorem widthAt_nonneg {entries : List (K × K)}
    (h : (entries.map Prod.fst).Pairwise (· ≤ ·))
    {index : ℕ} (hi : index + 1 < entries.length) :
    0 ≤ widthAt (place plotSize windowEndMilliseconds entries) index := by
  have hi₀ := Nat.lt_of_succ_lt hi
  have hpair := List.pairwise_iff_getElem.mp h index (index + 1) (by simpa using hi₀)
    (by simpa using hi) index.lt_succ_self
  rw [widthAt, time_place, time_place]
  simpa [hi, hi₀] using hpair

/-- A geometry shows what of the whole curves is not left of its plot. -/
theorem picture_buildMetricGeometry
    (hsorted : ((retainedPrefix ++ samples).map Sample.elapsedMilliseconds).Pairwise (· ≤ ·))
    (hne : samples ≠ []) (hwidth : 0 < plotSize.width) (hheight : 0 < plotSize.height) :
    picture (buildMetricGeometry alpha metric plotSize windowEndMilliseconds samples
        retainedPrefix).runs =
      {point | (∃ entries ∈ (trace alpha metric plotSize (retainedPrefix ++ samples)).all,
        point ∈ whole (place plotSize windowEndMilliseconds entries)) ∧ 0 ≤ point.x} := by
  have htimed : (trace alpha metric plotSize (retainedPrefix ++ samples)).Timed _ :=
    timed_trace (retainedPrefix ++ samples)
  have hcast : ((retainedPrefix ++ samples).map
      fun sample => (sample.elapsedMilliseconds : K)).Pairwise (· ≤ ·) := by
    rw [List.pairwise_map] at hsorted ⊢
    exact hsorted.imp fun h => Int.cast_le.mpr h
  have hordered : ∀ entries ∈ (trace alpha metric plotSize (retainedPrefix ++ samples)).all,
      (entries.map Prod.fst).Pairwise (· ≤ ·) := by
    refine List.forall_mem_append.mpr ⟨fun entries he => ?_, List.forall_mem_singleton.mpr ?_⟩
    · exact hcast.sublist (htimed.runs entries he).sublist
    · exact hcast.sublist htimed.run.sublist
  have hdrawn : ∀ entries ∈ (trace alpha metric plotSize (retainedPrefix ++ samples)).all,
      pictureOf (curveRun (place plotSize windowEndMilliseconds entries)
          (cutoff windowEndMilliseconds)).cubics =
        {point ∈ whole (place plotSize windowEndMilliseconds entries) | 0 ≤ point.x} :=
    fun entries he => pictureOf_curveRun placed_place hwidth
      fun index hi => widthAt_nonneg (hordered entries he) (by rwa [length_place] at hi)
  rw [runs_buildMetricGeometry, if_neg (by simp [hne, hwidth, hheight]), picture_drawAll]
  ext point
  simp only [picture, List.not_mem_nil, false_and, exists_false, Set.ofPred_false, Set.empty_union,
    Set.mem_ofPred_eq]
  constructor
  · rintro ⟨entries, he, hpoint⟩
    rw [hdrawn entries he] at hpoint
    exact ⟨⟨entries, he, hpoint.1⟩, hpoint.2⟩
  · rintro ⟨⟨entries, he, hpoint⟩, hx⟩
    refine ⟨entries, he, ?_⟩
    rw [hdrawn entries he]
    exact ⟨hpoint, hx⟩

omit [FloorRing K] in
theorem translation_nonpos (hwidth : 0 < plotSize.width) (h : windowEndMilliseconds ≤ later) :
    translation plotSize windowEndMilliseconds later ≤ 0 := by
  have hwindow : (0 : K) ≤ windowMilliseconds := by norm_num [windowMilliseconds]
  exact neg_nonpos.mpr (mul_nonneg hwidth.le (div_nonneg (sub_nonneg.mpr h) hwindow))

/-- Moved along with the window, a picture is the one that would be drawn anew, apart from what
has left the plot. -/
theorem picture_scrolled
    (hsorted : ((retainedPrefix ++ samples).map Sample.elapsedMilliseconds).Pairwise (· ≤ ·))
    (h : windowEndMilliseconds ≤ later) :
    picture (buildMetricGeometry alpha metric plotSize later samples retainedPrefix).runs =
      {point ∈ Set.image (·.shift (translation plotSize windowEndMilliseconds later))
        (picture (buildMetricGeometry alpha metric plotSize windowEndMilliseconds samples
          retainedPrefix).runs) | 0 ≤ point.x} := by
  by_cases hnothing : samples = [] ∨ plotSize.width ≤ 0 ∨ plotSize.height ≤ 0
  · rw [runs_buildMetricGeometry, runs_buildMetricGeometry, if_pos hnothing, if_pos hnothing]
    simp [picture]
  · obtain ⟨hne, hsize⟩ := not_or.mp hnothing
    obtain ⟨hwidth, hheight⟩ := not_or.mp hsize
    rw [not_le] at hwidth hheight
    rw [picture_buildMetricGeometry hsorted hne hwidth hheight,
      picture_buildMetricGeometry hsorted hne hwidth hheight]
    ext point
    constructor
    · rintro ⟨⟨entries, he, hpoint⟩, hx⟩
      rw [whole_place plotSize windowEndMilliseconds later] at hpoint
      obtain ⟨before, hbefore, rfl⟩ := hpoint
      refine ⟨⟨before, ⟨⟨entries, he, hbefore⟩, ?_⟩, rfl⟩, hx⟩
      have hshifted : 0 ≤ before.x + translation plotSize windowEndMilliseconds later := hx
      linarith [translation_nonpos hwidth h]
    · rintro ⟨⟨before, ⟨⟨entries, he, hbefore⟩, -⟩, rfl⟩, hx⟩
      refine ⟨⟨entries, he, ?_⟩, hx⟩
      rw [whole_place plotSize windowEndMilliseconds later]
      exact ⟨before, hbefore, rfl⟩

end Scrolling

end RpiDashboard.Dashboard
