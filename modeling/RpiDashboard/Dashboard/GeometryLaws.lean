import Mathlib.Analysis.SpecialFunctions.Exp
import RpiDashboard.Dashboard.ResourceHistoryGeometry

/-! The curves of the history stay between their samples. -/

namespace RpiDashboard.Dashboard

open RpiDashboard.Numeric

section Segments

variable {K : Type} [Field K]

namespace CubicSegment

def abscissas (cubic : CubicSegment K) : Numeric.Cubic K :=
  ⟨cubic.start.x, cubic.control1.x, cubic.control2.x, cubic.finish.x⟩

def ordinates (cubic : CubicSegment K) : Numeric.Cubic K :=
  ⟨cubic.start.y, cubic.control1.y, cubic.control2.y, cubic.finish.y⟩

def controls (cubic : CubicSegment K) : List (Point K) :=
  [cubic.start, cubic.control1, cubic.control2, cubic.finish]

end CubicSegment

variable (cubic : CubicSegment K) (progress : K)

theorem cubicPoint_x : (cubicPoint cubic progress).x = cubic.abscissas.eval progress := by
  simp only [cubicPoint, CubicSegment.abscissas, Numeric.Cubic.eval, Point.add_x, Point.mul_x]
  ring

theorem cubicPoint_y : (cubicPoint cubic progress).y = cubic.ordinates.eval progress := by
  simp only [cubicPoint, CubicSegment.ordinates, Numeric.Cubic.eval, Point.add_y, Point.mul_y]
  ring

theorem abscissas_splitRight :
    (splitRight cubic progress).abscissas = cubic.abscissas.splitRight progress := rfl

theorem ordinates_splitRight :
    (splitRight cubic progress).ordinates = cubic.ordinates.splitRight progress := rfl

@[simp] theorem splitRight_zero : splitRight cubic 0 = cubic := by
  have hzero (p q : Point K) : p + q * (0 : K) = p := Point.ext (by simp) (by simp)
  simp only [splitRight, hzero]

variable {cubic}

theorem setStart_eq (h : cubic.start.x = 0) :
    { cubic with start := { cubic.start with x := 0 } } = cubic := by
  rw [← h]

end Segments

variable {K : Type} [Field K] [LinearOrder K] [IsStrictOrderedRing K]

section Values

variable {value low high : K}

omit [Field K] [IsStrictOrderedRing K] in
theorem clamp_mem (value : K) (h : low ≤ high) : clamp value low high ∈ Set.Icc low high := by
  unfold clamp
  split
  · exact Set.left_mem_Icc.mpr h
  · split
    · exact Set.right_mem_Icc.mpr h
    · exact ⟨not_lt.mp ‹_›, not_lt.mp ‹_›⟩

omit [Field K] [IsStrictOrderedRing K] in
theorem clamp_of_mem (h : value ∈ Set.Icc low high) : clamp value low high = value := by
  rw [clamp, if_neg h.1.not_gt, if_neg h.2.not_gt]

theorem timeConstant_pos (rawChange : K) (metric : Metric) : 0 < timeConstant rawChange metric := by
  cases metric with
  | memory => exact zero_lt_three
  | cpu =>
    have hprogress := clamp_mem ((rawChange - 3 / 100) / (25 / 100 - 3 / 100)) (zero_le_one (α := K))
    have hfast := mul_le_mul_of_nonpos_right hprogress.2
      (show (35 / 100 - 18 / 10 : K) ≤ 0 by norm_num)
    simp only [timeConstant]
    linarith

/-- At every sample, a value between 0 and 1. -/
def Coefficient (alpha : ℕ → K → K) : Prop :=
  ∀ index elapsed, 0 ≤ elapsed → alpha index elapsed ∈ Set.Icc 0 1

/-- That of the source. -/
theorem exponential_coefficient : Coefficient fun _ (elapsed : ℝ) => 1 - Real.exp (-elapsed) := by
  intro _ elapsed h
  constructor
  · exact sub_nonneg.mpr (Real.exp_le_one_iff.mpr (neg_nonpos.mpr h))
  · exact sub_le_self 1 (Real.exp_pos _).le

theorem filterRatio_mem {alpha : K → K} {rawRatio : K} {state : Option (FilterState K)}
    (halpha : ∀ elapsed, 0 ≤ elapsed → alpha elapsed ∈ Set.Icc 0 1)
    (hraw : rawRatio ∈ Set.Icc 0 1) (hstate : ∀ s ∈ state, s.filteredRatio ∈ Set.Icc 0 1)
    (elapsedMilliseconds : ℤ) (metric : Metric) :
    (filterRatio alpha rawRatio elapsedMilliseconds metric state).filteredRatio ∈
      Set.Icc 0 1 := by
  cases state with
  | none => exact hraw
  | some state =>
    simp only [filterRatio]
    split
    case isTrue hdelta =>
      refine Numeric.Cubic.mix_mem_Icc (hstate state rfl) hraw (halpha _ ?_)
      refine div_nonneg (div_nonneg ?_ (by norm_num)) (timeConstant_pos _ _).le
      exact Int.cast_nonneg hdelta.le
    case isFalse => exact hraw

end Values

section Drawing

variable {points : List (TimedPoint K)} {plotSize : PlotSize K} {windowEndMilliseconds : K}
  {index : ℕ}

/-- The points have the abscissas of their times. -/
def Placed (plotSize : PlotSize K) (windowEndMilliseconds : K) (points : List (TimedPoint K)) :
    Prop :=
  ∀ point ∈ points, point.point.x = abscissa plotSize windowEndMilliseconds point.time

omit [LinearOrder K] [IsStrictOrderedRing K] in
theorem pointAt_mem (h : index < points.length) : pointAt points index ∈ points := by
  simp [pointAt, h]

theorem abscissa_nonneg {time : K} (hwidth : 0 < plotSize.width)
    (h : cutoff windowEndMilliseconds ≤ time) :
    0 ≤ abscissa plotSize windowEndMilliseconds time := by
  have hwindow : (0 : K) ≤ windowMilliseconds := by norm_num [windowMilliseconds]
  exact mul_nonneg hwidth.le (div_nonneg (sub_nonneg.mpr h) hwindow)

omit [IsStrictOrderedRing K] in
theorem abscissas_wholeCubic (points : List (TimedPoint K)) (index : ℕ) :
    (wholeCubic points index).abscissas =
      .line (pointAt points index).point.x (pointAt points (index + 1)).point.x := by
  unfold wholeCubic
  dsimp only
  split <;> rfl

/-- Where the window cuts the cubic of an interval. -/
def cutAt (points : List (TimedPoint K)) (cutoff : K) (index : ℕ) : K :=
  if (pointAt points index).time < cutoff then
    (cutoff - (pointAt points index).time) / widthAt points index
  else 0

theorem widthAt_pos {cutoff : K} (hs : (pointAt points index).time < cutoff)
    (hf : cutoff ≤ (pointAt points (index + 1)).time) :
    0 < widthAt points index :=
  sub_pos.mpr (hs.trans_le hf)

theorem cutAt_mem {cutoff : K} (hf : cutoff ≤ (pointAt points (index + 1)).time) :
    cutAt points cutoff index ∈ Set.Icc 0 1 := by
  unfold cutAt
  split
  case isTrue hs =>
    have hwidth := widthAt_pos hs hf
    exact ⟨div_nonneg (sub_nonneg.mpr hs.le) hwidth.le,
      (div_le_one hwidth).mpr (sub_le_sub_right hf _)⟩
  case isFalse => exact Set.left_mem_Icc.mpr zero_le_one

omit [LinearOrder K] [IsStrictOrderedRing K] in
@[simp] theorem abscissa_cutoff :
    abscissa plotSize windowEndMilliseconds (cutoff windowEndMilliseconds) = 0 := by
  simp [abscissa]

/-- The abscissas of what is drawn between two samples, from the left edge of the plot on. -/
theorem abscissas_drawn (hplaced : Placed plotSize windowEndMilliseconds points)
    (hi : index + 1 < points.length)
    (hf : cutoff windowEndMilliseconds ≤ (pointAt points (index + 1)).time) :
    (splitRight (wholeCubic points index)
      (cutAt points (cutoff windowEndMilliseconds) index)).abscissas =
      .line (abscissa plotSize windowEndMilliseconds
          (max (pointAt points index).time (cutoff windowEndMilliseconds)))
        (abscissa plotSize windowEndMilliseconds (pointAt points (index + 1)).time) := by
  rw [abscissas_splitRight, abscissas_wholeCubic, Numeric.Cubic.splitRight_line,
    hplaced _ (pointAt_mem (Nat.lt_of_succ_lt hi)), hplaced _ (pointAt_mem hi)]
  refine congrArg (Numeric.Cubic.line · _) ?_
  by_cases hs : (pointAt points index).time < cutoff windowEndMilliseconds
  · have hwidth : widthAt points index ≠ 0 := (widthAt_pos hs hf).ne'
    have hwindow : (windowMilliseconds : K) ≠ 0 := by norm_num [windowMilliseconds]
    rw [max_eq_right hs.le, abscissa_cutoff, cutAt, if_pos hs]
    unfold abscissa
    field_simp
    simp only [widthAt]
    ring
  · rw [max_eq_left (not_lt.mp hs), cutAt, if_neg hs, mul_zero, add_zero]

theorem drawn_nonneg (hplaced : Placed plotSize windowEndMilliseconds points)
    (hwidth : 0 < plotSize.width) (hi : index + 1 < points.length)
    (hf : cutoff windowEndMilliseconds ≤ (pointAt points (index + 1)).time) :
    (splitRight (wholeCubic points index)
      (cutAt points (cutoff windowEndMilliseconds) index)).abscissas.Within (Set.Ici 0) := by
  rw [abscissas_drawn hplaced hi hf]
  have hs := abscissa_nonneg hwidth
    (le_max_right (pointAt points index).time (cutoff windowEndMilliseconds))
  exact (Numeric.Cubic.line_within ⟨hs, le_max_left _ _⟩
    ⟨abscissa_nonneg hwidth hf, le_max_right _ _⟩).mono fun _ hx => hx.1

omit [IsStrictOrderedRing K] in
theorem nonnegative_eq {point : Point K} (h : 0 ≤ point.x) : point.nonnegative = point :=
  Point.ext (max_eq_left h) rfl

/-- In exact arithmetic the corrections of the abscissas change nothing. -/
theorem cubicAt_eq (hplaced : Placed plotSize windowEndMilliseconds points)
    (hwidth : 0 < plotSize.width) (hi : index + 1 < points.length) :
    cubicAt points (cutoff windowEndMilliseconds) index =
      if (pointAt points (index + 1)).time < cutoff windowEndMilliseconds then none
      else some (splitRight (wholeCubic points index)
        (cutAt points (cutoff windowEndMilliseconds) index)) := by
  unfold cubicAt
  dsimp only
  split
  case isTrue => rfl
  case isFalse hlate =>
    have hf := not_lt.mp hlate
    have hcut := cutAt_mem hf
    have hnonneg := drawn_nonneg hplaced hwidth hi hf
    have hkept : (if (pointAt points index).time < cutoff windowEndMilliseconds ∧
          0 < widthAt points index then
        { splitRight (wholeCubic points index)
            (clamp ((cutoff windowEndMilliseconds - (pointAt points index).time) /
              widthAt points index) 0 1) with
          start := { (splitRight (wholeCubic points index)
            (clamp ((cutoff windowEndMilliseconds - (pointAt points index).time) /
              widthAt points index) 0 1)).start with x := 0 } }
      else wholeCubic points index) = splitRight (wholeCubic points index)
          (cutAt points (cutoff windowEndMilliseconds) index) := by
      by_cases hs : (pointAt points index).time < cutoff windowEndMilliseconds
      · have hzero := congrArg Numeric.Cubic.start (abscissas_drawn hplaced hi hf)
        rw [max_eq_right hs.le] at hzero
        rw [if_pos ⟨hs, widthAt_pos hs hf⟩]
        rw [cutAt, if_pos hs] at hcut hzero ⊢
        rw [clamp_of_mem hcut]
        exact setStart_eq (hzero.trans abscissa_cutoff)
      · rw [if_neg fun h => hs h.1, cutAt, if_neg hs, splitRight_zero]
    rw [hkept, nonnegative_eq hnonneg.start, nonnegative_eq hnonneg.control1,
      nonnegative_eq hnonneg.control2, nonnegative_eq hnonneg.finish]

omit [IsStrictOrderedRing K] in
theorem wholeCubic_ends (points : List (TimedPoint K)) (index : ℕ) :
    (wholeCubic points index).start = (pointAt points index).point ∧
      (wholeCubic points index).finish = (pointAt points (index + 1)).point := by
  unfold wholeCubic
  dsimp only
  split <;> exact ⟨rfl, rfl⟩

theorem wholeCubic_within (points : List (TimedPoint K)) (index : ℕ) :
    (wholeCubic points index).ordinates.Within
      (Set.uIcc (pointAt points index).point.y (pointAt points (index + 1)).point.y) := by
  have hclamp (value : K) := clamp_mem value (min_le_max (a := (pointAt points index).point.y)
    (b := (pointAt points (index + 1)).point.y))
  unfold wholeCubic
  dsimp only
  split
  · exact Numeric.Cubic.line_within Set.left_mem_uIcc Set.right_mem_uIcc
  · exact ⟨Set.left_mem_uIcc, hclamp _, hclamp _, Set.right_mem_uIcc⟩

end Drawing

section Shape

variable {plotSize : PlotSize K} {windowEndMilliseconds : K} {points : List (TimedPoint K)}
  {cubic : CubicSegment K}

/-- A curve without an extremum between its ends, inside the plot. -/
structure CubicSegment.Shaped (height : K) (cubic : CubicSegment K) : Prop where
  monotonic : MonotoneOn (fun progress => (cubicPoint cubic progress).y) (Set.Icc 0 1) ∨
    AntitoneOn (fun progress => (cubicPoint cubic progress).y) (Set.Icc 0 1)
  between : ∀ progress ∈ Set.Icc (0 : K) 1,
    (cubicPoint cubic progress).y ∈ Set.uIcc cubic.start.y cubic.finish.y
  inside : ∀ point ∈ cubic.controls,
    point.y ∈ Set.Icc headroom (max headroom height) ∧ 0 ≤ point.x

structure CurveRun.Shaped (height : K) (run : CurveRun K) : Prop where
  samples : ∀ point ∈ run.samples, point.y ∈ Set.Icc headroom (max headroom height)
  cubics : ∀ cubic ∈ run.cubics, cubic.Shaped height
  tessellated : ∀ point ∈ run.tessellated,
    point.y ∈ Set.Icc headroom (max headroom height) ∧ 0 ≤ point.x

/-- The points of a run before it is drawn. -/
structure OnPlot (plotSize : PlotSize K) (windowEndMilliseconds : K)
    (points : List (TimedPoint K)) : Prop where
  placed : Placed plotSize windowEndMilliseconds points
  inside : ∀ point ∈ points, point.point.y ∈ Set.Icc headroom (max headroom plotSize.height)

theorem CubicSegment.shaped_of_within {height : K} (hm : cubic.ordinates.Monotonic)
    (hy : cubic.ordinates.Within (Set.Icc headroom (max headroom height)))
    (hx : cubic.abscissas.Within (Set.Ici 0)) : cubic.Shaped height := by
  constructor
  · simp only [cubicPoint_y]
    exact hm
  · intro progress hp
    rw [cubicPoint_y]
    exact hm.eval_mem_uIcc hp
  · simp only [controls, List.forall_mem_cons, List.not_mem_nil, false_implies, implies_true,
      and_true]
    exact ⟨⟨hy.start, hx.start⟩, ⟨hy.control1, hx.control1⟩, ⟨hy.control2, hx.control2⟩,
      ⟨hy.finish, hx.finish⟩⟩

theorem CubicSegment.Shaped.cubicPoint_mem {height progress : K} (h : cubic.Shaped height)
    (hp : progress ∈ Set.Icc 0 1) :
    (cubicPoint cubic progress).y ∈ Set.Icc headroom (max headroom height) ∧
      0 ≤ (cubicPoint cubic progress).x := by
  have hinside := h.inside
  simp only [controls, List.forall_mem_cons, List.not_mem_nil, false_implies, implies_true,
    and_true] at hinside
  obtain ⟨hs, h₁, h₂, hf⟩ := hinside
  have hx : cubic.abscissas.Within (Set.Ici 0) := ⟨hs.2, h₁.2, h₂.2, hf.2⟩
  refine ⟨Set.uIcc_subset_Icc hs.1 hf.1 (h.between progress hp), ?_⟩
  rw [cubicPoint_x]
  exact Numeric.Cubic.eval_nonneg hx hp

theorem cubicAt_shaped {index : ℕ} (hon : OnPlot plotSize windowEndMilliseconds points)
    (hwidth : 0 < plotSize.width) (hi : index + 1 < points.length)
    (h : cubicAt points (cutoff windowEndMilliseconds) index = some cubic) :
    cubic.Shaped plotSize.height := by
  rw [cubicAt_eq hon.placed hwidth hi] at h
  split at h
  case isTrue => cases h
  case isFalse hlate =>
    obtain rfl := Option.some.inj h
    have hf := not_lt.mp hlate
    have hwhole := wholeCubic_within points index
    have hinside : Set.uIcc (pointAt points index).point.y (pointAt points (index + 1)).point.y ⊆
        Set.Icc headroom (max headroom plotSize.height) :=
      Set.uIcc_subset_Icc (hon.inside _ (pointAt_mem (Nat.lt_of_succ_lt hi)))
        (hon.inside _ (pointAt_mem hi))
    have hmonotonic : (wholeCubic points index).ordinates.Monotonic := by
      obtain ⟨hs, he⟩ := wholeCubic_ends points index
      rw [← hs, ← he] at hwhole
      exact hwhole.monotonic
    exact CubicSegment.shaped_of_within (hmonotonic.splitRight (cutAt_mem hf))
      ((hwhole.mono hinside).splitRight (cutAt_mem hf)) (drawn_nonneg hon.placed hwidth hi hf)

variable [FloorRing K]

theorem mem_tessellate {point : Point K} (h : point ∈ tessellate cubic) :
    ∃ progress ∈ Set.Icc (0 : K) 1, point = cubicPoint cubic progress := by
  obtain ⟨step, hstep, rfl⟩ := List.mem_map.mp h
  have hlast : step + 1 ≤ subdivisions cubic := List.mem_range.mp hstep
  refine ⟨_, ⟨by positivity, ?_⟩, rfl⟩
  exact div_le_one_of_le₀ (Nat.cast_le.mpr hlast) (Nat.cast_nonneg _)

theorem curveRun_shaped (hon : OnPlot plotSize windowEndMilliseconds points)
    (hwidth : 0 < plotSize.width) :
    (curveRun points (cutoff windowEndMilliseconds)).Shaped plotSize.height := by
  have hcubics : ∀ cubic ∈ (curveRun points (cutoff windowEndMilliseconds)).cubics,
      cubic.Shaped plotSize.height := by
    intro cubic hc
    obtain ⟨index, hindex, hc⟩ := List.mem_filterMap.mp hc
    have hi : index + 1 < points.length := Nat.add_lt_of_lt_sub (List.mem_range.mp hindex)
    exact cubicAt_shaped hon hwidth hi hc
  refine ⟨?_, hcubics, ?_⟩
  · intro point hp
    obtain ⟨timed, ht, rfl⟩ := List.mem_map.mp hp
    exact hon.inside timed (List.mem_of_mem_filter ht)
  · intro point hp
    rcases List.mem_append.mp hp with hp | hp
    · obtain ⟨cubic, hc, rfl⟩ := Option.map_eq_some_iff.mp (Option.mem_toList.mp hp)
      exact (hcubics cubic (List.mem_of_mem_head? hc)).inside _ List.mem_cons_self
    · obtain ⟨cubic, hc, hp⟩ := List.mem_flatMap.mp hp
      obtain ⟨progress, hprogress, rfl⟩ := mem_tessellate hp
      exact (hcubics cubic hc).cubicPoint_mem hprogress

end Shape

section Building

variable {alpha : ℕ → K → K} {plotSize : PlotSize K} {windowEndMilliseconds : K}

theorem ordinate_mem (plotSize : PlotSize K) {ratio : K} (h : ratio ∈ Set.Icc 0 1) :
    ordinate plotSize ratio ∈ Set.Icc headroom (max headroom plotSize.height) := by
  have hheight : usableHeight plotSize = max headroom plotSize.height - headroom := by
    rw [usableHeight, ← max_sub_sub_right, sub_self]
  have htop : headroom ∈ Set.Icc headroom (max headroom plotSize.height) :=
    Set.left_mem_Icc.mpr (le_max_left _ _)
  have hbottom : max headroom plotSize.height ∈ Set.Icc headroom (max headroom plotSize.height) :=
    Set.right_mem_Icc.mpr (le_max_left _ _)
  rw [ordinate, hheight]
  exact Numeric.Cubic.mix_mem_Icc htop hbottom ⟨sub_nonneg.mpr h.2, sub_le_self 1 h.1⟩

omit [IsStrictOrderedRing K] in
theorem OnPlot.nil : OnPlot plotSize windowEndMilliseconds [] :=
  ⟨fun _ hp => absurd hp List.not_mem_nil, fun _ hp => absurd hp List.not_mem_nil⟩

theorem OnPlot.append {points : List (TimedPoint K)} {ratio : K}
    (h : OnPlot plotSize windowEndMilliseconds points) (time : K) (hratio : ratio ∈ Set.Icc 0 1) :
    OnPlot plotSize windowEndMilliseconds (points ++
      [⟨time, abscissa plotSize windowEndMilliseconds time, ordinate plotSize ratio⟩]) := by
  constructor
  · intro point hp
    rcases List.mem_append.mp hp with hp | hp
    · exact h.placed point hp
    · obtain rfl := List.mem_singleton.mp hp
      rfl
  · intro point hp
    rcases List.mem_append.mp hp with hp | hp
    · exact h.inside point hp
    · obtain rfl := List.mem_singleton.mp hp
      exact ordinate_mem plotSize hratio

variable [FloorRing K] {times : List K} {build : Build K} {run : CurveRun K}

/-- A run of samples among these times, drawn. -/
def Drawn (plotSize : PlotSize K) (windowEndMilliseconds : K) (times : List K)
    (run : CurveRun K) : Prop :=
  ∃ points, OnPlot plotSize windowEndMilliseconds points ∧
    points.map TimedPoint.time <:+: times ∧ run = curveRun points (cutoff windowEndMilliseconds)

/-- After the samples at these times. -/
structure Build.Sound (plotSize : PlotSize K) (windowEndMilliseconds : K) (times : List K)
    (build : Build K) : Prop where
  onPlot : OnPlot plotSize windowEndMilliseconds build.run
  timed : build.run.map TimedPoint.time <:+ times
  filtered : ∀ state ∈ build.filterState, state.filteredRatio ∈ Set.Icc 0 1
  runs : ∀ run ∈ build.runs, Drawn plotSize windowEndMilliseconds times run

omit [IsStrictOrderedRing K] in
theorem Drawn.append {later : List K} (h : Drawn plotSize windowEndMilliseconds times run) :
    Drawn plotSize windowEndMilliseconds (times ++ later) run := by
  obtain ⟨points, hon, htimed, rfl⟩ := h
  exact ⟨points, hon, htimed.trans (List.prefix_append _ _).isInfix, rfl⟩

omit [IsStrictOrderedRing K] in
theorem Build.Sound.completeRun (h : build.Sound plotSize windowEndMilliseconds times) :
    ∀ run ∈ completeRun build.run (cutoff windowEndMilliseconds) build.runs,
      Drawn plotSize windowEndMilliseconds times run := by
  intro run hrun
  unfold RpiDashboard.Dashboard.completeRun at hrun
  dsimp only at hrun
  split at hrun
  case isTrue => exact h.runs run hrun
  case isFalse =>
    split at hrun
    case isTrue => exact h.runs run hrun
    case isFalse =>
      rcases List.mem_append.mp hrun with hrun | hrun
      · exact h.runs run hrun
      · exact ⟨build.run, h.onPlot, h.timed.isInfix, List.mem_singleton.mp hrun⟩

theorem Build.Sound.step (halpha : Coefficient alpha) (metric : Metric) (size : ℕ)
    (entry : Sample K × ℕ) (h : build.Sound plotSize windowEndMilliseconds times) :
    (build.step alpha metric plotSize windowEndMilliseconds size entry).Sound plotSize
      windowEndMilliseconds (times ++ [(entry.1.elapsedMilliseconds : K)]) := by
  unfold Build.step
  split
  case h_1 =>
    exact ⟨.nil, List.nil_suffix, fun _ hs => absurd hs (Option.not_mem_none _),
      fun run hrun => (h.completeRun run hrun).append⟩
  case h_2 value _ =>
    have hstate := filterRatio_mem (halpha entry.2) (clamp_mem value (zero_le_one (α := K)))
      h.filtered entry.1.elapsedMilliseconds metric
    refine ⟨h.onPlot.append _ hstate, ?_, ?_, fun run hrun => (h.runs run hrun).append⟩
    · obtain ⟨earlier, hearlier⟩ := h.timed
      refine ⟨earlier, ?_⟩
      rw [List.map_append, ← List.append_assoc, hearlier]
      rfl
    · intro state hs
      obtain rfl := Option.some.inj hs
      exact hstate

theorem Build.Sound.foldl (halpha : Coefficient alpha) (metric : Metric) (size : ℕ)
    (entries : List (Sample K × ℕ)) (h : build.Sound plotSize windowEndMilliseconds times) :
    (entries.foldl (Build.step alpha metric plotSize windowEndMilliseconds size) build).Sound
      plotSize windowEndMilliseconds
      (times ++ entries.map fun entry => (entry.1.elapsedMilliseconds : K)) := by
  induction entries generalizing build times with
  | nil => simpa using h
  | cons entry entries ih =>
    have hnext := ih (h.step halpha metric size entry)
    rw [List.append_assoc] at hnext
    exact hnext

/-- Every curve is drawn from a run of the samples. -/
theorem buildMetricGeometry_drawn (halpha : Coefficient alpha) (metric : Metric)
    (samples retainedPrefix : List (Sample K)) :
    ∀ run ∈ (buildMetricGeometry alpha metric plotSize windowEndMilliseconds samples
        retainedPrefix).runs,
      0 < plotSize.width ∧ Drawn plotSize windowEndMilliseconds
        ((retainedPrefix ++ samples).map fun sample => (sample.elapsedMilliseconds : K)) run := by
  intro run hrun
  unfold buildMetricGeometry at hrun
  split at hrun
  case h_1 => exact absurd hrun List.not_mem_nil
  case h_2 =>
    split at hrun
    case isTrue => exact absurd hrun List.not_mem_nil
    case isFalse hsize =>
      have hempty : ({} : Build K).Sound plotSize windowEndMilliseconds [] :=
        ⟨.nil, List.nil_suffix, fun _ hs => absurd hs (Option.not_mem_none _),
          fun _ hr => absurd hr List.not_mem_nil⟩
      have hbuild := hempty.foldl halpha metric (retainedPrefix ++ samples).length
        (retainedPrefix ++ samples).zipIdx
      have htimes : ((retainedPrefix ++ samples).zipIdx.map
          fun entry => (entry.1.elapsedMilliseconds : K)) =
          (retainedPrefix ++ samples).map fun sample => (sample.elapsedMilliseconds : K) := by
        rw [← List.zipIdx_map_fst 0 (retainedPrefix ++ samples), List.map_map]
        simp only [List.zipIdx_map_fst]
        rfl
      rw [List.nil_append, htimes] at hbuild
      exact ⟨not_le.mp fun hw => hsize (.inl hw), hbuild.completeRun run hrun⟩

/-- Whatever the coefficient is, no curve has an extremum between two samples, and none
leaves the plot above, below or on the left. -/
theorem smoothing_invents_no_extremum (halpha : Coefficient alpha) (metric : Metric)
    (plotSize : PlotSize K) (windowEndMilliseconds : K)
    (samples retainedPrefix : List (Sample K)) :
    ∀ run ∈ (buildMetricGeometry alpha metric plotSize windowEndMilliseconds samples
      retainedPrefix).runs, run.Shaped plotSize.height := by
  intro run hrun
  obtain ⟨hwidth, points, hon, -, rfl⟩ :=
    buildMetricGeometry_drawn halpha metric samples retainedPrefix run hrun
  exact curveRun_shaped hon hwidth

section Sample

/-- A rise, a repeated time, a fall and a time before. -/
def sampleHistory : List (Sample ℚ) :=
  [{ elapsedMilliseconds := 0, cpuUsageRatio := some (1 / 10) },
    { elapsedMilliseconds := 1000, cpuUsageRatio := some (3 / 2) },
    { elapsedMilliseconds := 1000, cpuUsageRatio := some (1 / 2) },
    { elapsedMilliseconds := 2500, cpuUsageRatio := some 0 },
    { elapsedMilliseconds := 2000, cpuUsageRatio := some (2 / 5) }]

def sampleGeometry : MetricGeometry ℚ :=
  buildMetricGeometry (fun _ _ => 1 / 2) .cpu ⟨600, 100⟩ 60500 sampleHistory []

theorem smoothing_invents_no_extremum_sample :
    (sampleGeometry.runs.headD ⟨[], [], []⟩).Shaped 100 := by
  have hrun : sampleGeometry.runs.headD ⟨[], [], []⟩ ∈ sampleGeometry.runs := by
    have hlength : sampleGeometry.runs.length = 1 := by decide +kernel
    obtain ⟨run, hrun⟩ := List.length_eq_one_iff.mp hlength
    rw [hrun]
    exact List.mem_singleton_self run
  refine smoothing_invents_no_extremum ?_ .cpu ⟨600, 100⟩ 60500
    sampleHistory [] _ hrun
  intro _ _ _
  constructor <;> norm_num

end Sample

end Building

end RpiDashboard.Dashboard
