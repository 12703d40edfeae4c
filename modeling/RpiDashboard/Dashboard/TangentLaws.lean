import RpiDashboard.Dashboard.GeometryLaws

/-! The curves of the history have no kinks: the tangents are short enough that no control
ordinate is ever clamped. -/

namespace RpiDashboard.Dashboard

open RpiDashboard.Numeric

variable {K : Type} [Field K] [LinearOrder K] [IsStrictOrderedRing K]

section Limits

variable {tangent slope before after total : K}

/-- In the direction of the slope, and no steeper than three times as steep. -/
def Limited (tangent slope : K) : Prop :=
  tangent ∈ Set.uIcc 0 (3 * slope)

theorem limited_self (slope : K) : Limited slope slope := by
  unfold Limited
  rcases le_total 0 slope with h | h
  · exact Set.mem_uIcc_of_le h (by linarith)
  · exact Set.mem_uIcc_of_ge (by linarith) h

theorem limited_of_mul (hpos : 0 < tangent * slope) (hle : tangent * slope ≤ 3 * slope * slope) :
    Limited tangent slope := by
  rcases pos_and_pos_or_neg_and_neg_of_mul_pos hpos with ⟨ht, hs⟩ | ⟨ht, hs⟩
  · exact Set.mem_uIcc_of_le ht.le (le_of_mul_le_mul_right hle hs)
  · exact Set.mem_uIcc_of_ge ((mul_le_mul_right_of_neg hs).mp hle) ht.le

theorem endpointTangent_limited (firstSlope secondSlope : K) {firstWidth secondWidth : K}
    (hfirst : 0 < firstWidth) (hsecond : 0 < secondWidth) :
    Limited (endpointTangent firstSlope secondSlope firstWidth secondWidth) firstSlope := by
  unfold endpointTangent
  dsimp only
  set tangent := ((2 * firstWidth + secondWidth) * firstSlope - firstWidth * secondSlope) /
    (firstWidth + secondWidth) with htangent
  split
  case isTrue => exact Set.left_mem_uIcc
  case isFalse hpos =>
    split
    case isTrue => exact Set.right_mem_uIcc
    case isFalse hsteep =>
      have hpos' := not_le.mp hpos
      refine limited_of_mul hpos' ?_
      by_cases hturn : firstSlope * secondSlope < 0
      · have hle : |tangent| ≤ |3 * firstSlope| := not_lt.mp fun h => hsteep ⟨hturn, h⟩
        calc tangent * firstSlope = |tangent| * |firstSlope| := by
              rw [← abs_mul, abs_of_pos hpos']
          _ ≤ |3 * firstSlope| * |firstSlope| := mul_le_mul_of_nonneg_right hle (abs_nonneg _)
          _ = 3 * firstSlope * firstSlope := by
              rw [← abs_mul, abs_of_nonneg (by nlinarith [mul_self_nonneg firstSlope])]
      · have hsum : 0 < firstWidth + secondWidth := add_pos hfirst hsecond
        have hweighted : tangent * firstSlope * (firstWidth + secondWidth) =
            (2 * firstWidth + secondWidth) * (firstSlope * firstSlope) -
              firstWidth * (firstSlope * secondSlope) := by
          rw [htangent]
          field_simp
        have hsame := mul_nonneg hfirst.le (not_lt.mp hturn)
        have hsquare := mul_nonneg (add_pos hfirst hsecond).le (mul_self_nonneg firstSlope)
        have hrest := mul_nonneg hsecond.le (mul_self_nonneg firstSlope)
        refine le_of_mul_le_mul_right ?_ hsum
        rw [hweighted]
        linarith

/-- A harmonic mean is at most three times what has a third of the weight. -/
theorem harmonic_le {beforeWeight afterWeight : K} (hb : 0 < beforeWeight) (ha : 0 < afterWeight)
    (hbefore : 0 < before) (hafter : 0 < after) (htotal : total ≤ 3 * beforeWeight) :
    total / (beforeWeight / before + afterWeight / after) ≤ 3 * before := by
  have hfirst : 0 < beforeWeight / before := div_pos hb hbefore
  calc total / (beforeWeight / before + afterWeight / after)
      ≤ 3 * beforeWeight / (beforeWeight / before) :=
        div_le_div₀ (by positivity) htotal hfirst (le_add_of_nonneg_right (div_pos ha hafter).le)
    _ = 3 * before := by field_simp

theorem interiorTangent_limited_of_pos {beforeWidth afterWidth : K} (hb : 0 < beforeWidth)
    (ha : 0 < afterWidth) (hbefore : 0 < before) (hafter : 0 < after) :
    interiorTangent before after beforeWidth afterWidth ∈ Set.Icc 0 (3 * before) ∧
      interiorTangent before after beforeWidth afterWidth ∈ Set.Icc 0 (3 * after) := by
  have hslopes : 0 < before * after := mul_pos hbefore hafter
  rw [interiorTangent, if_neg (by simp [hb, ha, hslopes])]
  dsimp only
  have hbeforeWeight : 0 < 2 * afterWidth + beforeWidth := by positivity
  have hafterWeight : 0 < afterWidth + 2 * beforeWidth := by positivity
  refine ⟨⟨by positivity, ?_⟩, ⟨by positivity, ?_⟩⟩
  · exact harmonic_le hbeforeWeight hafterWeight hbefore hafter (by linarith)
  · rw [add_comm (_ / before)]
    exact harmonic_le hafterWeight hbeforeWeight hafter hbefore (by linarith)

omit [IsStrictOrderedRing K] in
theorem interiorTangent_neg (before after beforeWidth afterWidth : K) :
    interiorTangent (-before) (-after) beforeWidth afterWidth =
      -interiorTangent before after beforeWidth afterWidth := by
  unfold interiorTangent
  rw [neg_mul_neg]
  split
  · exact neg_zero.symm
  · dsimp only
    rw [div_neg, div_neg, ← neg_add, div_neg]

theorem interiorTangent_limited (before after : K) {beforeWidth afterWidth : K}
    (hb : 0 < beforeWidth) (ha : 0 < afterWidth) :
    Limited (interiorTangent before after beforeWidth afterWidth) before ∧
      Limited (interiorTangent before after beforeWidth afterWidth) after := by
  by_cases hsame : before * after ≤ 0
  · rw [interiorTangent, if_pos (.inr (.inr hsame))]
    exact ⟨Set.left_mem_uIcc, Set.left_mem_uIcc⟩
  · rcases pos_and_pos_or_neg_and_neg_of_mul_pos (not_le.mp hsame) with ⟨hs, ht⟩ | ⟨hs, ht⟩
    · obtain ⟨hfirst, hsecond⟩ := interiorTangent_limited_of_pos hb ha hs ht
      exact ⟨Set.mem_uIcc_of_le hfirst.1 hfirst.2, Set.mem_uIcc_of_le hsecond.1 hsecond.2⟩
    · obtain ⟨hfirst, hsecond⟩ :=
        interiorTangent_limited_of_pos hb ha (neg_pos.mpr hs) (neg_pos.mpr ht)
      rw [interiorTangent_neg] at hfirst hsecond
      exact ⟨Set.mem_uIcc_of_ge (by linarith [hfirst.2]) (neg_nonneg.mp hfirst.1),
        Set.mem_uIcc_of_ge (by linarith [hsecond.2]) (neg_nonneg.mp hsecond.1)⟩

end Limits

section Tangents

variable {points : List (TimedPoint K)} {index : ℕ}

/-- The times strictly increase. -/
def Increasing (points : List (TimedPoint K)) : Prop :=
  (points.map TimedPoint.time).Pairwise (· < ·)

omit [IsStrictOrderedRing K] in
theorem Increasing.lt (h : Increasing points) {later : ℕ} (hlt : index < later)
    (hi : later < points.length) : (pointAt points index).time < (pointAt points later).time := by
  have hearlier : index < points.length := hlt.trans hi
  have hpair := List.pairwise_iff_getElem.mp h index later (by simpa using hearlier)
    (by simpa using hi) hlt
  simpa [pointAt, hearlier, hi] using hpair

theorem Increasing.widthAt_pos (h : Increasing points) (hi : index + 1 < points.length) :
    0 < widthAt points index :=
  sub_pos.mpr (h.lt index.lt_succ_self hi)

theorem outerTangent_limited {first second : ℕ} (hfirst : 0 < widthAt points first)
    (hsecond : 0 < widthAt points second) :
    Limited (outerTangent points first second) (slopeAt points first) := by
  rw [outerTangent, if_pos ⟨hfirst, hsecond⟩]
  exact endpointTangent_limited _ _ hfirst hsecond

/-- The tangents at the two ends of an interval. -/
theorem monotoneTangent_limited (h : Increasing points) (hi : index + 1 < points.length) :
    Limited (monotoneTangent points index) (slopeAt points index) ∧
      Limited (monotoneTangent points (index + 1)) (slopeAt points index) := by
  have hlength : ¬ points.length < 2 := by omega
  have hwidth := h.widthAt_pos hi
  unfold monotoneTangent
  rw [if_neg hlength, if_neg hlength]
  by_cases htwo : points.length = 2
  · obtain rfl : index = 0 := by omega
    rw [if_pos htwo, if_pos htwo]
    exact ⟨limited_self _, limited_self _⟩
  · rw [if_neg htwo, if_neg htwo]
    constructor
    · cases index with
      | zero =>
        have hnext : 0 < widthAt points 1 := h.widthAt_pos (by omega)
        rw [if_pos rfl]
        exact outerTangent_limited hwidth hnext
      | succ index =>
        have hbefore : 0 < widthAt points index := h.widthAt_pos (by omega)
        rw [if_neg index.succ_ne_zero, if_pos hi]
        exact (interiorTangent_limited _ _ hbefore hwidth).2
    · rw [if_neg index.succ_ne_zero]
      by_cases hlast : index + 1 + 1 < points.length
      · have hafter : 0 < widthAt points (index + 1) := h.widthAt_pos hlast
        rw [if_pos hlast]
        exact (interiorTangent_limited _ _ hwidth hafter).1
      · obtain ⟨before, rfl⟩ : ∃ before, index = before + 1 := ⟨index - 1, by omega⟩
        have hbefore : 0 < widthAt points before := h.widthAt_pos (by omega)
        have hends : points.length - 2 = before + 1 ∧ points.length - 3 = before := by omega
        rw [if_neg hlast, hends.1, hends.2]
        exact outerTangent_limited hwidth hbefore

theorem Limited.mul_mem {tangent slope width : K} (h : Limited tangent slope) (hw : 0 ≤ width) :
    tangent * width / 3 ∈ Set.uIcc 0 (slope * width) := by
  rcases Set.mem_uIcc.mp h with ⟨hl, hu⟩ | ⟨hl, hu⟩
  · have hle := mul_le_mul_of_nonneg_right hu hw
    exact Set.mem_uIcc_of_le (div_nonneg (mul_nonneg hl hw) zero_le_three) (by linarith)
  · have hle := mul_le_mul_of_nonneg_right hl hw
    have hneg := mul_nonpos_of_nonpos_of_nonneg hu hw
    exact Set.mem_uIcc_of_ge (by linarith) (by linarith)

omit [IsStrictOrderedRing K] in
theorem slopeAt_mul_widthAt (hw : 0 < widthAt points index) :
    slopeAt points index * widthAt points index =
      (pointAt points (index + 1)).point.y - (pointAt points index).point.y := by
  rw [slopeAt, if_pos hw, div_mul_cancel₀ _ hw.ne']

/-- The control ordinates lie between the two samples before they are clamped. -/
theorem freeOrdinate_mem (h : Increasing points) (hi : index + 1 < points.length) :
    freeOrdinate1 points index ∈ Set.uIcc (pointAt points index).point.y
        (pointAt points (index + 1)).point.y ∧
      freeOrdinate2 points index ∈ Set.uIcc (pointAt points index).point.y
        (pointAt points (index + 1)).point.y := by
  have hw := h.widthAt_pos hi
  obtain ⟨hfirst, hsecond⟩ := monotoneTangent_limited h hi
  have hrise₁ := hfirst.mul_mem hw.le
  have hrise₂ := hsecond.mul_mem hw.le
  rw [slopeAt_mul_widthAt hw, Set.mem_uIcc] at hrise₁ hrise₂
  unfold freeOrdinate1 freeOrdinate2
  constructor
  · rcases hrise₁ with ⟨hl, hu⟩ | ⟨hl, hu⟩
    · exact Set.mem_uIcc_of_le (by linarith) (by linarith)
    · exact Set.mem_uIcc_of_ge (by linarith) (by linarith)
  · rcases hrise₂ with ⟨hl, hu⟩ | ⟨hl, hu⟩
    · exact Set.mem_uIcc_of_le (by linarith) (by linarith)
    · exact Set.mem_uIcc_of_ge (by linarith) (by linarith)

end Tangents

section Joints

variable {points : List (TimedPoint K)} {plotSize : PlotSize K} {windowEndMilliseconds cut : K}
  {index : ℕ}

namespace CubicSegment

/-- The slope of the curve at its start. -/
def startSlope (cubic : CubicSegment K) : K :=
  (cubic.control1.y - cubic.start.y) / (cubic.control1.x - cubic.start.x)

def endSlope (cubic : CubicSegment K) : K :=
  (cubic.finish.y - cubic.control2.y) / (cubic.finish.x - cubic.control2.x)

end CubicSegment

/-- A tangent, which is per millisecond, as a slope of the plot. -/
def plotSlope (plotSize : PlotSize K) (tangent : K) : K :=
  tangent * (windowMilliseconds / plotSize.width)

omit [LinearOrder K] [IsStrictOrderedRing K] in
/-- A cut leaves the end slope as it is. -/
theorem endSlope_splitRight (cubic : CubicSegment K) (hcut : cut ≠ 1) :
    (splitRight cubic cut).endSlope = cubic.endSlope := by
  have hrest : 1 - cut ≠ 0 := sub_ne_zero.mpr hcut.symm
  have hx := Numeric.Cubic.splitRight_last cubic.abscissas cut
  have hy := Numeric.Cubic.splitRight_last cubic.ordinates cut
  rw [← abscissas_splitRight] at hx
  rw [← ordinates_splitRight] at hy
  calc (splitRight cubic cut).endSlope
      = (1 - cut) * (cubic.finish.y - cubic.control2.y) /
          ((1 - cut) * (cubic.finish.x - cubic.control2.x)) := congrArg₂ (· / ·) hy hx
    _ = cubic.endSlope := mul_div_mul_left _ _ hrest

/-- The clamps leave the control ordinates as they are. -/
theorem clamp_freeOrdinate (h : Increasing points) (hi : index + 1 < points.length) :
    clamp (freeOrdinate1 points index)
        (min (pointAt points index).point.y (pointAt points (index + 1)).point.y)
        (max (pointAt points index).point.y (pointAt points (index + 1)).point.y) =
      freeOrdinate1 points index ∧
    clamp (freeOrdinate2 points index)
        (min (pointAt points index).point.y (pointAt points (index + 1)).point.y)
        (max (pointAt points index).point.y (pointAt points (index + 1)).point.y) =
      freeOrdinate2 points index :=
  (freeOrdinate_mem h hi).imp clamp_of_mem clamp_of_mem

theorem slopes_wholeCubic (hplaced : Placed plotSize windowEndMilliseconds points)
    (hwidth : 0 < plotSize.width) (h : Increasing points) (hi : index + 1 < points.length) :
    (wholeCubic points index).startSlope = plotSlope plotSize (monotoneTangent points index) ∧
      (wholeCubic points index).endSlope =
        plotSlope plotSize (monotoneTangent points (index + 1)) := by
  have hw := h.widthAt_pos hi
  have hx : (pointAt points (index + 1)).point.x - (pointAt points index).point.x =
      plotSize.width * widthAt points index / windowMilliseconds := by
    rw [hplaced _ (pointAt_mem (Nat.lt_of_succ_lt hi)), hplaced _ (pointAt_mem hi)]
    simp only [abscissa, widthAt]
    ring
  have hslope (tangent : K) : tangent * widthAt points index / 3 /
      (((pointAt points (index + 1)).point.x - (pointAt points index).point.x) / 3) =
        plotSlope plotSize tangent := by
    have hwindow : (windowMilliseconds : K) ≠ 0 := by norm_num [windowMilliseconds]
    have hplot := hwidth.ne'
    have hinterval := hw.ne'
    rw [hx]
    unfold plotSlope
    field_simp
  obtain ⟨h₁, h₂⟩ := clamp_freeOrdinate h hi
  unfold CubicSegment.startSlope CubicSegment.endSlope wholeCubic
  dsimp only
  rw [if_neg hw.not_ge]
  simp only [Point.add_x, Point.sub_x, Point.div_x, Point.mul_x, h₁, h₂]
  constructor
  · rw [freeOrdinate1, add_sub_cancel_left, add_sub_cancel_left]
    exact hslope _
  · have hthird (start finish : K) :
        finish - (start + (finish - start) * (2 / 3)) = (finish - start) / 3 := by
      ring
    rw [freeOrdinate2, sub_sub_cancel, hthird]
    exact hslope _

omit [IsStrictOrderedRing K] in
theorem cutAt_ne_one {cutoff : K} (h : cutoff < (pointAt points (index + 1)).time)
    (hw : 0 < widthAt points index) : cutAt points cutoff index ≠ 1 := by
  unfold cutAt
  split
  · exact fun hone => h.ne (sub_left_inj.mp ((div_eq_one_iff_eq hw.ne').mp hone))
  · exact zero_ne_one

theorem pair_infix_range {m : ℕ} (h : index + 2 ≤ m) : [index, index + 1] <:+: List.range m := by
  obtain ⟨rest, rfl⟩ := Nat.exists_eq_add_of_le h
  refine ⟨List.range index, (List.range rest).map (index + 2 + ·), ?_⟩
  rw [List.range_add (n := index + 2), List.range_succ, List.range_succ]
  simp

variable [FloorRing K]

/-- The cubics on both sides of a sample inside the window follow each other, and both have
its tangent. -/
theorem smooth_joints (hplaced : Placed plotSize windowEndMilliseconds points)
    (hwidth : 0 < plotSize.width) (h : Increasing points) :
    (∀ index, index + 1 < points.length →
      clamp (freeOrdinate1 points index)
          (min (pointAt points index).point.y (pointAt points (index + 1)).point.y)
          (max (pointAt points index).point.y (pointAt points (index + 1)).point.y) =
        freeOrdinate1 points index ∧
      clamp (freeOrdinate2 points index)
          (min (pointAt points index).point.y (pointAt points (index + 1)).point.y)
          (max (pointAt points index).point.y (pointAt points (index + 1)).point.y) =
        freeOrdinate2 points index) ∧
    ∀ index, index + 2 < points.length →
      cutoff windowEndMilliseconds < (pointAt points (index + 1)).time →
      ∃ run left right,
        (∀ runs, completeRun points (cutoff windowEndMilliseconds) runs = runs ++ [run]) ∧
        [left, right] <:+: run.cubics ∧
        left.finish = (pointAt points (index + 1)).point ∧
        right.start = (pointAt points (index + 1)).point ∧
        left.endSlope = plotSlope plotSize (monotoneTangent points (index + 1)) ∧
        right.startSlope = plotSlope plotSize (monotoneTangent points (index + 1)) := by
  refine ⟨fun index hi => clamp_freeOrdinate h hi, fun index hi hcutoff => ?_⟩
  have hi₁ : index + 1 < points.length := Nat.lt_of_succ_lt hi
  have hnext := hcutoff.trans (h.lt (index + 1).lt_succ_self hi)
  have hleft := cubicAt_eq hplaced hwidth hi₁
  have hright := cubicAt_eq hplaced hwidth hi
  rw [if_neg hcutoff.not_gt] at hleft
  rw [if_neg hnext.not_gt, cutAt, if_neg hcutoff.not_gt, splitRight_zero] at hright
  have hinfix : [splitRight (wholeCubic points index)
        (cutAt points (cutoff windowEndMilliseconds) index), wholeCubic points (index + 1)] <:+:
      (curveRun points (cutoff windowEndMilliseconds)).cubics := by
    have hpair := (pair_infix_range (Nat.le_sub_one_of_lt hi)).filterMap
      (cubicAt points (cutoff windowEndMilliseconds))
    simp only [List.filterMap_cons, hleft, hright, List.filterMap_nil] at hpair
    exact hpair
  refine ⟨_, _, _, fun runs => ?_, hinfix, (wholeCubic_ends points index).2,
    (wholeCubic_ends points (index + 1)).1, ?_, (slopes_wholeCubic hplaced hwidth h hi).1⟩
  · have hcubics : (curveRun points (cutoff windowEndMilliseconds)).cubics.isEmpty = false :=
      List.isEmpty_eq_false_iff.mpr fun hnil => by
        rw [hnil] at hinfix
        exact absurd (List.infix_nil.mp hinfix) (List.cons_ne_nil _ _)
    rw [completeRun, if_neg (by omega)]
    dsimp only
    rw [if_neg (by simp [hcubics])]
  · rw [endSlope_splitRight _ (cutAt_ne_one hcutoff (h.widthAt_pos hi₁))]
    exact (slopes_wholeCubic hplaced hwidth h hi₁).2

section Sample

def samplePlot : PlotSize ℚ := ⟨600, 100⟩

/-- A rise that slows down, and a fall. -/
def samplePoints : List (TimedPoint ℚ) :=
  [(0, 90), (1000, 50), (1500, 40), (4000, 70)].map fun entry =>
    ⟨entry.1, abscissa samplePlot 60500 entry.1, entry.2⟩

/-- The cubic on the left is cut at the edge of the window. -/
theorem smooth_joints_sample :
    ∃ run left right,
      (∀ runs, completeRun samplePoints (cutoff 60500) runs = runs ++ [run]) ∧
      [left, right] <:+: run.cubics ∧
      left.finish = (pointAt samplePoints 1).point ∧
      right.start = (pointAt samplePoints 1).point ∧
      left.endSlope = plotSlope samplePlot (monotoneTangent samplePoints 1) ∧
      right.startSlope = plotSlope samplePlot (monotoneTangent samplePoints 1) := by
  have hplaced : Placed samplePlot 60500 samplePoints := by
    intro point hp
    obtain ⟨entry, -, rfl⟩ := List.mem_map.mp hp
    rfl
  have hincreasing : Increasing samplePoints := by
    unfold Increasing
    decide +kernel
  exact (smooth_joints hplaced (by decide +kernel) hincreasing).2 0 (by decide) (by decide +kernel)

end Sample

end Joints

end RpiDashboard.Dashboard
