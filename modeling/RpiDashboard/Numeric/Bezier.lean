import Mathlib.Algebra.Order.Field.Basic
import Mathlib.Order.Interval.Set.UnorderedInterval
import Mathlib.Tactic.FieldSimp
import Mathlib.Tactic.Linarith
import Mathlib.Tactic.Positivity
import Mathlib.Tactic.Ring

/-! Cubic Bezier curves in one coordinate over an ordered field, and bisection. -/

namespace RpiDashboard.Numeric

/-! The numerals of the curves. -/

instance atLeastTwo_two : Nat.AtLeastTwo 2 := ⟨le_rfl⟩

instance atLeastTwo_three : Nat.AtLeastTwo 3 := ⟨by decide⟩

/-- The four control values. -/
@[ext] structure Cubic (K : Type) where
  start : K
  control1 : K
  control2 : K
  finish : K

namespace Cubic

variable {K : Type} [Field K]

def eval (cubic : Cubic K) (progress : K) : K :=
  (1 - progress) ^ 3 * cubic.start + 3 * (1 - progress) ^ 2 * progress * cubic.control1 +
    3 * (1 - progress) * progress ^ 2 * cubic.control2 + progress ^ 3 * cubic.finish

/-- The curve from a parameter on, by de Casteljau's construction. -/
def splitRight (cubic : Cubic K) (progress : K) : Cubic K :=
  let first := cubic.start + (cubic.control1 - cubic.start) * progress
  let second := cubic.control1 + (cubic.control2 - cubic.control1) * progress
  let third := cubic.control2 + (cubic.finish - cubic.control2) * progress
  let fourth := first + (second - first) * progress
  let fifth := second + (third - second) * progress
  { start := fourth + (fifth - fourth) * progress
    control1 := fifth
    control2 := third
    finish := cubic.finish }

/-- The line from one value to another as a cubic. -/
def line (start finish : K) : Cubic K where
  start := start
  control1 := start + (finish - start) / 3
  control2 := start + (finish - start) * (2 / 3)
  finish := finish

@[simp] theorem eval_zero (cubic : Cubic K) : cubic.eval 0 = cubic.start := by
  simp [eval]

@[simp] theorem eval_one (cubic : Cubic K) : cubic.eval 1 = cubic.finish := by
  simp [eval]

@[simp] theorem splitRight_zero (cubic : Cubic K) : cubic.splitRight 0 = cubic := by
  simp [splitRight]

theorem eval_splitRight (cubic : Cubic K) (cut progress : K) :
    (cubic.splitRight cut).eval progress = cubic.eval (cut + (1 - cut) * progress) := by
  simp only [eval, splitRight]
  ring

/-- The curve run through backwards. -/
def reverse (cubic : Cubic K) : Cubic K where
  start := cubic.finish
  control1 := cubic.control2
  control2 := cubic.control1
  finish := cubic.start

theorem eval_reverse (cubic : Cubic K) (progress : K) :
    cubic.reverse.eval progress = cubic.eval (1 - progress) := by
  simp only [eval, reverse]
  ring

section Line

variable [CharZero K]

theorem eval_line (start finish progress : K) :
    (line start finish).eval progress = start + (finish - start) * progress := by
  simp only [eval, line]
  field_simp
  ring

theorem splitRight_line (start finish cut : K) :
    (line start finish).splitRight cut = line (start + (finish - start) * cut) finish := by
  ext <;> simp only [splitRight, line]
  all_goals
    field_simp
    try ring

end Line

/-- What is left of the last third of the control polygon. -/
theorem splitRight_last (cubic : Cubic K) (cut : K) :
    (cubic.splitRight cut).finish - (cubic.splitRight cut).control2 =
      (1 - cut) * (cubic.finish - cubic.control2) := by
  simp only [splitRight]
  ring

section Order

variable [LinearOrder K] [IsStrictOrderedRing K] {cubic : Cubic K}
  {lower upper cut earlier later progress : K}

/-- The control values lie between these bounds. -/
structure Within (cubic : Cubic K) (bounds : Set K) : Prop where
  start : cubic.start ∈ bounds
  control1 : cubic.control1 ∈ bounds
  control2 : cubic.control2 ∈ bounds
  finish : cubic.finish ∈ bounds

theorem mix_mem_Icc {first second : K} (h₁ : first ∈ Set.Icc lower upper)
    (h₂ : second ∈ Set.Icc lower upper) (hp : progress ∈ Set.Icc 0 1) :
    first + (second - first) * progress ∈ Set.Icc lower upper := by
  obtain ⟨hp₀, hp₁⟩ := hp
  have hmix : first + (second - first) * progress = (1 - progress) * first + progress * second := by
    ring
  rw [hmix]
  constructor
  · calc lower = (1 - progress) * lower + progress * lower := by ring
      _ ≤ (1 - progress) * first + progress * second :=
        add_le_add (mul_le_mul_of_nonneg_left h₁.1 (sub_nonneg.mpr hp₁))
          (mul_le_mul_of_nonneg_left h₂.1 hp₀)
  · calc (1 - progress) * first + progress * second
        ≤ (1 - progress) * upper + progress * upper :=
          add_le_add (mul_le_mul_of_nonneg_left h₁.2 (sub_nonneg.mpr hp₁))
            (mul_le_mul_of_nonneg_left h₂.2 hp₀)
      _ = upper := by ring

theorem Within.mono {small large : Set K} (h : cubic.Within small) (hs : small ⊆ large) :
    cubic.Within large :=
  ⟨hs h.start, hs h.control1, hs h.control2, hs h.finish⟩

theorem line_within {start finish : K} (hs : start ∈ Set.Icc lower upper)
    (hf : finish ∈ Set.Icc lower upper) : (line start finish).Within (Set.Icc lower upper) := by
  have hthird : (1 / 3 : K) ∈ Set.Icc 0 1 := by constructor <;> norm_num
  have htwoThirds : (2 / 3 : K) ∈ Set.Icc 0 1 := by constructor <;> norm_num
  refine ⟨hs, ?_, mix_mem_Icc hs hf htwoThirds, hf⟩
  have hmix := mix_mem_Icc hs hf hthird
  rwa [mul_one_div] at hmix

theorem Within.splitRight (h : cubic.Within (Set.Icc lower upper)) (hc : cut ∈ Set.Icc 0 1) :
    (cubic.splitRight cut).Within (Set.Icc lower upper) := by
  have hfirst := mix_mem_Icc h.start h.control1 hc
  have hsecond := mix_mem_Icc h.control1 h.control2 hc
  have hthird := mix_mem_Icc h.control2 h.finish hc
  have hfourth := mix_mem_Icc hfirst hsecond hc
  have hfifth := mix_mem_Icc hsecond hthird hc
  exact ⟨mix_mem_Icc hfourth hfifth hc, hfifth, hthird, h.finish⟩

/-- A value of the curve is where the rest of the curve starts. -/
theorem eval_mem_Icc (h : cubic.Within (Set.Icc lower upper)) (hp : progress ∈ Set.Icc 0 1) :
    cubic.eval progress ∈ Set.Icc lower upper := by
  have hstart : (cubic.splitRight progress).eval 0 = cubic.eval progress := by
    rw [eval_splitRight, mul_zero, add_zero]
  rw [← hstart, eval_zero]
  exact (h.splitRight hp).start

theorem eval_nonneg (h : cubic.Within (Set.Ici 0)) (hp : progress ∈ Set.Icc 0 1) :
    0 ≤ cubic.eval progress := by
  let upper := max (max cubic.start cubic.control1) (max cubic.control2 cubic.finish)
  have hbelow : cubic.Within (Set.Icc 0 upper) :=
    ⟨⟨h.start, le_sup_of_le_left (le_max_left _ _)⟩,
      ⟨h.control1, le_sup_of_le_left (le_max_right _ _)⟩,
      ⟨h.control2, le_sup_of_le_right (le_max_left _ _)⟩,
      ⟨h.finish, le_sup_of_le_right (le_max_right _ _)⟩⟩
  exact (eval_mem_Icc hbelow hp).1

/-- A third of the derivative. -/
def speed (cubic : Cubic K) (progress : K) : K :=
  (1 - progress) ^ 2 * (cubic.control1 - cubic.start) +
    2 * (1 - progress) * progress * (cubic.control2 - cubic.control1) +
    progress ^ 2 * (cubic.finish - cubic.control2)

/-- Simpson's rule is exact on cubics. -/
theorem eval_sub_eval (cubic : Cubic K) (earlier later : K) :
    cubic.eval later - cubic.eval earlier = (later - earlier) / 2 *
      (cubic.speed earlier + 4 * cubic.speed ((earlier + later) / 2) + cubic.speed later) := by
  simp only [eval, speed]
  field_simp
  ring

/-- The speed is affine in the first and in the last control value, so it is enough to look
at the four corners of the square they range over. -/
theorem speed_nonneg (h : cubic.Within (Set.Icc cubic.start cubic.finish))
    (hp : progress ∈ Set.Icc 0 1) : 0 ≤ cubic.speed progress := by
  obtain ⟨hp₀, hp₁⟩ := hp
  let first := cubic.control1 - cubic.start
  let last := cubic.finish - cubic.control2
  let rise := cubic.finish - cubic.start
  have hfirst : 0 ≤ first := sub_nonneg.mpr h.control1.1
  have hlast : 0 ≤ last := sub_nonneg.mpr h.control2.2
  have hfirst' : 0 ≤ rise - first := by
    have := h.control1.2
    simp only [rise, first]
    linarith
  have hlast' : 0 ≤ rise - last := by
    have := h.control2.1
    simp only [rise, last]
    linarith
  have hrest : 0 ≤ 1 - progress := sub_nonneg.mpr hp₁
  rcases (add_nonneg hfirst hfirst').eq_or_lt with hflat | hrise
  · have h₁ : cubic.control1 - cubic.start = 0 := by
      change first = 0
      linarith
    have h₂ : cubic.finish - cubic.control2 = 0 := by
      change last = 0
      linarith
    have h₃ : cubic.control2 - cubic.control1 = 0 := by
      have : first + (rise - first) = cubic.finish - cubic.start := by simp only [rise]; ring
      linarith
    simp [speed, h₁, h₂, h₃]
  · have hcorners : (first + (rise - first)) * cubic.speed progress =
        (rise - first) * (rise - last) * (2 * progress * (1 - progress)) +
          first * (rise - last) * (1 - progress) ^ 2 + (rise - first) * last * progress ^ 2 +
          first * last * (1 - 2 * progress) ^ 2 := by
      simp only [speed, first, last, rise]
      ring
    refine nonneg_of_mul_nonneg_right ?_ hrise
    rw [hcorners]
    positivity

/-- A curve whose control values lie between its ends rises throughout. -/
theorem monotoneOn (h : cubic.Within (Set.Icc cubic.start cubic.finish)) :
    MonotoneOn cubic.eval (Set.Icc 0 1) := by
  intro earlier he later hl hle
  have hmiddle : (earlier + later) / 2 ∈ Set.Icc (0 : K) 1 := by
    constructor
    · linarith [he.1, hl.1]
    · linarith [he.2, hl.2]
  have hspeeds := add_nonneg (add_nonneg (speed_nonneg h he)
    (mul_nonneg (zero_le_four (α := K)) (speed_nonneg h hmiddle))) (speed_nonneg h hl)
  have hrise : 0 ≤ cubic.eval later - cubic.eval earlier := by
    rw [eval_sub_eval]
    exact mul_nonneg (div_nonneg (sub_nonneg.mpr hle) zero_le_two) hspeeds
  exact sub_nonneg.mp hrise

theorem antitoneOn (h : cubic.Within (Set.Icc cubic.finish cubic.start)) :
    AntitoneOn cubic.eval (Set.Icc 0 1) := by
  have hreverse : cubic.reverse.Within (Set.Icc cubic.reverse.start cubic.reverse.finish) :=
    ⟨h.finish, h.control2, h.control1, h.start⟩
  intro earlier he later hl hle
  have hrises := monotoneOn hreverse ⟨sub_nonneg.mpr hl.2, sub_le_self 1 hl.1⟩
    ⟨sub_nonneg.mpr he.2, sub_le_self 1 he.1⟩ (sub_le_sub_left hle 1)
  simpa only [eval_reverse, sub_sub_cancel] using hrises

/-- The ordinate of the curve only rises or only falls. -/
def Monotonic (cubic : Cubic K) : Prop :=
  MonotoneOn cubic.eval (Set.Icc 0 1) ∨ AntitoneOn cubic.eval (Set.Icc 0 1)

theorem Within.monotonic (h : cubic.Within (Set.uIcc cubic.start cubic.finish)) :
    cubic.Monotonic := by
  rcases le_total cubic.start cubic.finish with hle | hle
  · rw [Set.uIcc_of_le hle] at h
    exact .inl (monotoneOn h)
  · rw [Set.uIcc_of_ge hle] at h
    exact .inr (antitoneOn h)

theorem Monotonic.splitRight (h : cubic.Monotonic) (hc : cut ∈ Set.Icc 0 1) :
    (cubic.splitRight cut).Monotonic := by
  have hrest : 0 ≤ 1 - cut := sub_nonneg.mpr hc.2
  have hmaps : Set.MapsTo (fun progress => cut + (1 - cut) * progress) (Set.Icc 0 1)
      (Set.Icc (0 : K) 1) := by
    intro progress hp
    constructor
    · exact add_nonneg hc.1 (mul_nonneg hrest hp.1)
    · linarith [mul_le_mul_of_nonneg_left hp.2 hrest]
  have hgrows : MonotoneOn (fun progress => cut + (1 - cut) * progress) (Set.Icc (0 : K) 1) :=
    fun _ _ _ _ hle => add_le_add_right (mul_le_mul_of_nonneg_left hle hrest) cut
  have heval : (cubic.splitRight cut).eval =
      cubic.eval ∘ fun progress => cut + (1 - cut) * progress := by
    funext progress
    exact eval_splitRight cubic cut progress
  unfold Monotonic
  rw [heval]
  exact h.imp (fun hm => hm.comp hgrows hmaps) fun hm => hm.comp_MonotoneOn hgrows hmaps

theorem Monotonic.eval_mem_uIcc (h : cubic.Monotonic) (hp : progress ∈ Set.Icc 0 1) :
    cubic.eval progress ∈ Set.uIcc cubic.start cubic.finish := by
  have hzero : (0 : K) ∈ Set.Icc (0 : K) 1 := Set.left_mem_Icc.mpr zero_le_one
  have hone : (1 : K) ∈ Set.Icc (0 : K) 1 := Set.right_mem_Icc.mpr zero_le_one
  rw [← cubic.eval_zero, ← cubic.eval_one]
  rcases h with hm | hm
  · exact Set.mem_uIcc_of_le (hm hzero hp hp.1) (hm hp hone hp.2)
  · exact Set.mem_uIcc_of_ge (hm hp hone hp.2) (hm hzero hp hp.1)

end Order

end Cubic

section Bisection

variable {K : Type} [Field K]

/-- An interval halved again and again, towards where `below` stops to hold. -/
def bisect (below : K → Bool) : ℕ → K → K → K × K
  | 0, lower, upper => (lower, upper)
  | n + 1, lower, upper =>
    let middle := (lower + upper) / 2
    if below middle then bisect below n middle upper else bisect below n lower middle

variable [LinearOrder K] [IsStrictOrderedRing K] {below : K → Bool} {lower upper root : K}

theorem bisect_width (below : K → Bool) (n : ℕ) (lower upper : K) :
    (bisect below n lower upper).2 - (bisect below n lower upper).1 =
      (upper - lower) / 2 ^ n := by
  induction n generalizing lower upper with
  | zero => simp [bisect]
  | succ n ih =>
    simp only [bisect]
    split
    · rw [ih, pow_succ]
      field_simp
      ring
    · rw [ih, pow_succ]
      field_simp
      ring

theorem bisect_brackets (h : root ∈ Set.Icc lower upper)
    (hbelow : ∀ progress ∈ Set.Icc lower upper,
      (below progress → progress ≤ root) ∧ (¬ below progress → root ≤ progress)) (n : ℕ) :
    root ∈ Set.Icc (bisect below n lower upper).1 (bisect below n lower upper).2 := by
  induction n generalizing lower upper with
  | zero => exact h
  | succ n ih =>
    have hle : lower ≤ upper := h.1.trans h.2
    have hmiddle : (lower + upper) / 2 ∈ Set.Icc lower upper := by
      constructor
      · linarith
      · linarith
    simp only [bisect]
    split
    case isTrue hb =>
      exact ih ⟨(hbelow _ hmiddle).1 hb, h.2⟩
        fun progress hp => hbelow progress ⟨hmiddle.1.trans hp.1, hp.2⟩
    case isFalse hb =>
      exact ih ⟨h.1, (hbelow _ hmiddle).2 hb⟩
        fun progress hp => hbelow progress ⟨hp.1, hp.2.trans hmiddle.2⟩

/-- The middle of what `n` halvings leave is no further from the root than half its width. -/
theorem abs_middle_sub_le (h : root ∈ Set.Icc lower upper)
    (hbelow : ∀ progress ∈ Set.Icc lower upper,
      (below progress → progress ≤ root) ∧ (¬ below progress → root ≤ progress)) (n : ℕ) :
    |((bisect below n lower upper).1 + (bisect below n lower upper).2) / 2 - root| ≤
      (upper - lower) / 2 ^ (n + 1) := by
  obtain ⟨hl, hu⟩ := bisect_brackets h hbelow n
  have hwidth := bisect_width below n lower upper
  have hhalf : (upper - lower) / 2 ^ (n + 1) = (upper - lower) / 2 ^ n / 2 := by
    rw [pow_succ, div_div]
  rw [hhalf, ← hwidth, abs_le]
  constructor
  · linarith
  · linarith

end Bisection

end RpiDashboard.Numeric
