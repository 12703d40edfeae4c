import RpiDashboard.Dashboard.GeometryLaws

/-! Where a curve of the history meets a vertical line. -/

namespace RpiDashboard.Dashboard

open RpiDashboard.Numeric

variable {K : Type} [Field K] [LinearOrder K] [IsStrictOrderedRing K]

section Cubics

variable {cubic : CubicSegment K} {start finish xPosition progress : K} {point : Point K}

namespace CubicSegment

/-- No other parameter is as close to this abscissa. -/
def Closest (cubic : CubicSegment K) (xPosition progress : K) : Prop :=
  progress ∈ Set.Icc 0 1 ∧ ∀ other ∈ Set.Icc (0 : K) 1, other ≠ progress →
    |(cubicPoint cubic progress).x - xPosition| < |(cubicPoint cubic other).x - xPosition|

/-- The ordinate answers for this cubic at an abscissa in its widened range. -/
structure Answers (cubic : CubicSegment K) (xPosition : K) (point : Point K) : Prop where
  near : xPosition ∈ Set.Icc (min cubic.start.x cubic.finish.x - epsilon)
    (max cubic.start.x cubic.finish.x + epsilon)
  ordinate : |cubic.finish.x - cubic.start.x| ≤ epsilon ∧ point.y = cubic.finish.y ∨
    ∃ closest parameter, cubic.Closest xPosition closest ∧
      |parameter - closest| ≤ 1 / 2 ^ 32 ∧ point.y = (cubicPoint cubic parameter).y

end CubicSegment

omit [LinearOrder K] [IsStrictOrderedRing K] in
theorem cubicPoint_x_of_line [CharZero K] (h : cubic.abscissas = .line start finish) :
    (cubicPoint cubic progress).x = start + (finish - start) * progress := by
  rw [cubicPoint_x, h, Numeric.Cubic.eval_line]

/-- The parameter of a line closest to this abscissa. -/
def lineRoot (start finish xPosition : K) : K :=
  max 0 (min ((xPosition - start) / (finish - start)) 1)

theorem lineRoot_mem (start finish xPosition : K) : lineRoot start finish xPosition ∈ Set.Icc 0 1 :=
  ⟨le_max_left _ _, max_le zero_le_one (min_le_right _ _)⟩

theorem lineRoot_closest (h : cubic.abscissas = .line start finish) (hlt : start < finish) :
    cubic.Closest xPosition (lineRoot start finish xPosition) := by
  have hlength : 0 < finish - start := sub_pos.mpr hlt
  have hdistance (progress : K) : |(cubicPoint cubic progress).x - xPosition| =
      (finish - start) * |progress - (xPosition - start) / (finish - start)| := by
    rw [cubicPoint_x_of_line h, ← abs_of_pos hlength, ← abs_mul, abs_of_pos hlength]
    congr 1
    field_simp
    ring
  refine ⟨lineRoot_mem _ _ _, fun other hother hne => ?_⟩
  rw [hdistance, hdistance]
  refine mul_lt_mul_of_pos_left ?_ hlength
  unfold lineRoot at hne ⊢
  set root := (xPosition - start) / (finish - start)
  rcases le_total root 0 with hroot | hroot
  · rw [min_eq_left (hroot.trans zero_le_one), max_eq_left hroot] at hne ⊢
    have hpos : 0 < other := lt_of_le_of_ne hother.1 hne.symm
    rw [abs_of_nonneg (by linarith), abs_of_nonneg (by linarith)]
    linarith
  · rcases le_total root 1 with hroot' | hroot'
    · rw [min_eq_left hroot', max_eq_right hroot] at hne ⊢
      rw [sub_self, abs_zero]
      exact abs_pos.mpr (sub_ne_zero.mpr hne)
    · rw [min_eq_right hroot', max_eq_right zero_le_one] at hne ⊢
      have hlast : other < 1 := lt_of_le_of_ne hother.2 hne
      rw [abs_of_nonpos (by linarith), abs_of_nonpos (by linarith)]
      linarith

theorem below_iff (h : cubic.abscissas = .line start finish) (hlt : start < finish)
    (hp : progress ∈ Set.Icc 0 1) :
    ((cubicPoint cubic progress).x < xPosition → progress ≤ lineRoot start finish xPosition) ∧
      (¬ (cubicPoint cubic progress).x < xPosition →
        lineRoot start finish xPosition ≤ progress) := by
  have hlength : 0 < finish - start := sub_pos.mpr hlt
  rw [cubicPoint_x_of_line h]
  constructor
  · intro hbelow
    have hle : progress ≤ (xPosition - start) / (finish - start) := by
      rw [le_div_iff₀ hlength]
      linarith
    exact le_max_of_le_right (le_min hle hp.2)
  · intro habove
    have hle : (xPosition - start) / (finish - start) ≤ progress := by
      rw [div_le_iff₀ hlength]
      linarith [not_lt.mp habove]
    exact max_le hp.1 ((min_le_left _ _).trans hle)

/-- What a cubic answers is close to the line and to the curve. -/
theorem intersection_answers (h : cubic.abscissas = .line start finish) (hle : start ≤ finish)
    (hpoint : cubic.intersection xPosition = some point) :
    |point.x - xPosition| ≤ 2 * epsilon ∧ cubic.Answers xPosition point := by
  have hs : cubic.start.x = start := congrArg Numeric.Cubic.start h
  have hf : cubic.finish.x = finish := congrArg Numeric.Cubic.finish h
  unfold CubicSegment.intersection at hpoint
  dsimp only at hpoint
  split at hpoint
  case isTrue => cases hpoint
  case isFalse hrange =>
    rw [not_or, not_lt, not_lt] at hrange
    split at hpoint
    case isTrue hnarrow =>
      split at hpoint
      case isFalse => cases hpoint
      case isTrue hnear =>
        obtain rfl := Option.some.inj hpoint
        refine ⟨?_, hrange, .inl ⟨hnarrow, rfl⟩⟩
        calc |cubic.finish.x - xPosition|
            ≤ |cubic.finish.x - cubic.start.x| + |cubic.start.x - xPosition| :=
              abs_sub_le _ _ _
          _ ≤ epsilon + epsilon := add_le_add hnarrow (abs_sub_comm xPosition _ ▸ hnear)
          _ = 2 * epsilon := (two_mul _).symm
    case isFalse hwide =>
      obtain rfl := Option.some.inj hpoint
      have hlt : start < finish := by
        refine lt_of_le_of_ne hle fun heq => hwide ?_
        rw [hs, hf, heq, sub_self, abs_zero]
        norm_num [epsilon]
      let below : K → Bool := fun middle => (cubicPoint cubic middle).x < xPosition
      have hbelow : ∀ progress ∈ Set.Icc (0 : K) 1,
          (below progress → progress ≤ lineRoot start finish xPosition) ∧
            (¬ below progress → lineRoot start finish xPosition ≤ progress) := by
        intro progress hp
        simpa [below] using below_iff h hlt hp
      have hmiddle := abs_middle_sub_le (lineRoot_mem start finish xPosition) hbelow 32
      refine ⟨?_, hrange, .inr ⟨_, _, lineRoot_closest h hlt, hmiddle.trans ?_, rfl⟩⟩
      · simp [epsilon]
      · rw [sub_zero]
        exact one_div_le_one_div_of_le (by positivity) (pow_le_pow_right₀ one_le_two (by decide))

/-- A cubic answers inside its range. -/
theorem intersection_isSome (h : cubic.abscissas = .line start finish) (hle : start ≤ finish)
    (hx : xPosition ∈ Set.Icc start finish) : (cubic.intersection xPosition).isSome := by
  have hs : cubic.start.x = start := congrArg Numeric.Cubic.start h
  have hf : cubic.finish.x = finish := congrArg Numeric.Cubic.finish h
  have hepsilon : (0 : K) < epsilon := by norm_num [epsilon]
  unfold CubicSegment.intersection
  dsimp only
  rw [hs, hf, min_eq_left hle, max_eq_right hle]
  rw [if_neg (not_or.mpr ⟨by linarith [hx.1], by linarith [hx.2]⟩)]
  split
  case isTrue hnarrow =>
    have hnear : |xPosition - start| ≤ epsilon := by
      rw [abs_of_nonneg (sub_nonneg.mpr hx.1)]
      linarith [hx.2, le_abs_self (finish - start)]
    rw [if_pos hnear]
    rfl
  case isFalse => rfl

end Cubics

section Geometry

variable {plotSize : PlotSize K} {windowEndMilliseconds : K} {points : List (TimedPoint K)}

theorem abscissa_mono (hwidth : 0 < plotSize.width) {earlier later : K} (h : earlier ≤ later) :
    abscissa plotSize windowEndMilliseconds earlier ≤
      abscissa plotSize windowEndMilliseconds later := by
  have hwindow : (0 : K) ≤ windowMilliseconds := by norm_num [windowMilliseconds]
  exact mul_le_mul_of_nonneg_left
    (div_le_div_of_nonneg_right (sub_le_sub_right h _) hwindow) hwidth.le

variable [FloorRing K]

/-- The abscissas of every curve run evenly to the right. -/
theorem curveRun_abscissas (hplaced : Placed plotSize windowEndMilliseconds points)
    (hwidth : 0 < plotSize.width)
    (hsorted : (points.map TimedPoint.time).Pairwise (· ≤ ·)) {cubic : CubicSegment K}
    (hcubic : cubic ∈ (curveRun points (cutoff windowEndMilliseconds)).cubics) :
    ∃ start finish, start ≤ finish ∧ cubic.abscissas = .line start finish := by
  obtain ⟨index, hindex, hcubic⟩ := List.mem_filterMap.mp hcubic
  have hi : index + 1 < points.length := Nat.add_lt_of_lt_sub (List.mem_range.mp hindex)
  have hi₀ : index < points.length := Nat.lt_of_succ_lt hi
  rw [cubicAt_eq hplaced hwidth hi] at hcubic
  split at hcubic
  case isTrue => cases hcubic
  case isFalse hlate =>
    obtain rfl := Option.some.inj hcubic
    have hordered : (pointAt points index).time ≤ (pointAt points (index + 1)).time := by
      have hpair := List.pairwise_iff_getElem.mp hsorted index (index + 1) (by simpa using hi₀)
        (by simpa using hi) index.lt_succ_self
      simpa [pointAt, hi₀, hi] using hpair
    exact ⟨_, _, abscissa_mono hwidth (max_le hordered (not_lt.mp hlate)),
      abscissas_drawn hplaced hi (not_lt.mp hlate)⟩

/-- Inside the range of a cubic the intersection is found, on a cubic close by. -/
theorem curveIntersection_correct {alpha : ℕ → K → K} (halpha : Coefficient alpha)
    (metric : Metric) (plotSize : PlotSize K) (windowEndMilliseconds : K)
    (samples retainedPrefix : List (Sample K))
    (hsorted : ((retainedPrefix ++ samples).map Sample.elapsedMilliseconds).Pairwise (· ≤ ·)) :
    let geometry :=
      buildMetricGeometry alpha metric plotSize windowEndMilliseconds samples retainedPrefix
    ∀ xPosition, (∃ run ∈ geometry.runs, ∃ cubic ∈ run.cubics,
        xPosition ∈ Set.uIcc cubic.start.x cubic.finish.x) →
      ∃ point, curveIntersection geometry xPosition = some point ∧
        |point.x - xPosition| ≤ 2 * epsilon ∧
        ∃ run ∈ geometry.runs, ∃ cubic ∈ run.cubics, cubic.Answers xPosition point := by
  intro geometry xPosition hinside
  have hlines : ∀ cubic ∈ geometry.runs.flatMap CurveRun.cubics,
      ∃ start finish, start ≤ finish ∧ cubic.abscissas = .line start finish := by
    intro cubic hcubic
    obtain ⟨run, hrun, hcubic⟩ := List.mem_flatMap.mp hcubic
    obtain ⟨hwidth, points, hon, htimes, rfl⟩ :=
      buildMetricGeometry_drawn halpha metric samples retainedPrefix run hrun
    have hcast : ((retainedPrefix ++ samples).map
        fun sample => (sample.elapsedMilliseconds : K)).Pairwise (· ≤ ·) := by
      rw [List.pairwise_map] at hsorted ⊢
      exact hsorted.imp fun h => Int.cast_le.mpr h
    exact curveRun_abscissas hon.placed hwidth (hcast.sublist htimes.sublist) hcubic
  obtain ⟨run, hrun, cubic, hcubic, hx⟩ := hinside
  have hmem : cubic ∈ geometry.runs.flatMap CurveRun.cubics :=
    List.mem_flatMap.mpr ⟨run, hrun, hcubic⟩
  have hsome : ((geometry.runs.flatMap CurveRun.cubics).findSome?
      fun cubic => cubic.intersection xPosition).isSome := by
    obtain ⟨start, finish, hle, hline⟩ := hlines cubic hmem
    have hs : cubic.start.x = start := congrArg Numeric.Cubic.start hline
    have hf : cubic.finish.x = finish := congrArg Numeric.Cubic.finish hline
    rw [hs, hf, Set.uIcc_of_le hle] at hx
    exact List.findSome?_isSome_iff.mpr ⟨cubic, hmem, intersection_isSome hline hle hx⟩
  obtain ⟨point, hpoint⟩ := Option.isSome_iff_exists.mp hsome
  obtain ⟨answering, hanswering, hanswer⟩ := List.exists_of_findSome?_eq_some hpoint
  obtain ⟨start, finish, hle, hline⟩ := hlines answering hanswering
  obtain ⟨hnear, hanswers⟩ := intersection_answers hline hle hanswer
  obtain ⟨run, hrun, hanswering⟩ := List.mem_flatMap.mp hanswering
  refine ⟨point, ?_, hnear, run, hrun, answering, hanswering, hanswers⟩
  unfold curveIntersection
  rw [hpoint]

section Sample

def sampleSamples : List (Sample ℚ) :=
  [{ elapsedMilliseconds := 0, cpuUsageRatio := some (1 / 10) },
    { elapsedMilliseconds := 1000, cpuUsageRatio := some (3 / 4) },
    { elapsedMilliseconds := 1000, cpuUsageRatio := some (1 / 2) },
    { elapsedMilliseconds := 2500, cpuUsageRatio := some 0 }]

def sampleCurves : MetricGeometry ℚ :=
  buildMetricGeometry (fun _ _ => 1 / 2) .cpu ⟨600, 100⟩ 60500 sampleSamples []

theorem curveIntersection_correct_sample :
    ∃ point, curveIntersection sampleCurves 10 = some point ∧ |point.x - 10| ≤ 2 * epsilon ∧
      ∃ run ∈ sampleCurves.runs, ∃ cubic ∈ run.cubics, cubic.Answers 10 point := by
  have halpha : Coefficient fun _ _ => (1 / 2 : ℚ) := by
    intro _ _ _
    constructor <;> norm_num
  have hinside : (sampleCurves.runs.any fun run => run.cubics.any fun cubic =>
      cubic.start.x ≤ 10 ∧ 10 ≤ cubic.finish.x) = true := by
    decide +kernel
  obtain ⟨run, hrun, hany⟩ := List.any_eq_true.mp hinside
  obtain ⟨cubic, hcubic, hx⟩ := List.any_eq_true.mp hany
  exact curveIntersection_correct halpha .cpu ⟨600, 100⟩ 60500 sampleSamples [] (by decide) 10
    ⟨run, hrun, cubic, hcubic, Set.mem_uIcc_of_le (of_decide_eq_true hx).1 (of_decide_eq_true hx).2⟩

end Sample

end Geometry

end RpiDashboard.Dashboard
