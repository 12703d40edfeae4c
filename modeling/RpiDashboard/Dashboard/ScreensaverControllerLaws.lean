import RpiDashboard.Dashboard.ScreensaverController
import Mathlib.Data.List.Chain

/-! What reaches the application: whole sequences of touches, or nothing of them. -/

namespace RpiDashboard.Dashboard.ScreensaverController

open Sessions

variable {c : ScreensaverController}

def touchPart : QEventType → Option Part
  | .touchBegin => some .opens
  | .touchUpdate => some .goesOn
  | .touchEnd | .touchCancel => some .closes
  | _ => none

def inputPart : Input → Option Part
  | .event type => touchPart type
  | .timeout => none

/-- What holds between two inputs, whatever they are. -/
structure Consistent (timeout : Int) (c : ScreensaverController) : Prop where
  enabled : c.enabled = decide (timeout > 0)
  timer : c.timer = (c.enabled && !c.active)
  disabled : c.enabled = false → c.active = false ∧ c.consumingTouchSequence = false
  alternates : (false :: c.activeChanged).IsChain (· ≠ ·)
  last : (false :: c.activeChanged).getLast? = some c.active

theorem consistent_create (timeout : Int) : (create timeout).Consistent timeout := by
  unfold create
  split <;> constructor <;> simp_all

/-- The signals after one more, which changes the value. -/
theorem alternates_concat {values : List Bool} {b b' : Bool}
    (h : (false :: values).IsChain (· ≠ ·)) (hlast : (false :: values).getLast? = some b)
    (hne : b ≠ b') : (false :: (values ++ [b'])).IsChain (· ≠ ·) := by
  rw [← List.cons_append, List.isChain_append]
  refine ⟨h, List.isChain_singleton b', fun x hx y hy => ?_⟩
  rw [hlast] at hx
  cases hx
  cases hy
  exact hne

theorem getLast?_signals (values : List Bool) (b : Bool) :
    (false :: (values ++ [b])).getLast? = some b := by
  rw [← List.cons_append, List.getLast?_concat]

/-- The event is one of a sequence of touches that is being swallowed. -/
def Consumes (c : ScreensaverController) (type : QEventType) : Prop :=
  c.consumingTouchSequence = true ∧ type.isTouchEvent = true

section Filter

variable {type : QEventType}

theorem isActivityEvent_of_touch (h : type.isTouchEvent = true) : type.isActivityEvent = true := by
  cases type with
  | other n => simp [QEventType.isTouchEvent] at h
  | _ => rfl

theorem eventFilter_passes (h : c.enabled = false ∨ type.isActivityEvent = false) :
    c.eventFilter type = (false, c) := if_pos (by simpa using h)

theorem eventFilter_consumes (he : c.enabled = true) (h : c.Consumes type) :
    c.eventFilter type = (true, { c with
      consumingTouchSequence := !(type = .touchEnd || type = .touchCancel) }) := by
  have hactivity : type.isActivityEvent = true := isActivityEvent_of_touch h.2
  rw [eventFilter, if_neg (by simp [he, hactivity]), if_pos (by simp [h.1, h.2])]
  dsimp only
  split
  · next hends => simp [hends]
  · next hends => simp [hends, ← h.1]

theorem eventFilter_wakes (he : c.enabled = true) (htype : type.isActivityEvent = true)
    (h : ¬ c.Consumes type) (hactive : c.active = true) :
    c.eventFilter type = (true, { c with
      consumingTouchSequence := type = .touchBegin
      active := false
      timer := true
      activeChanged := c.activeChanged ++ [false] }) := by
  rw [eventFilter, if_neg (by simp [he, htype]), if_neg (by simpa [Consumes] using h),
    if_pos hactive]
  simp [setActive, startTimer, hactive]

theorem eventFilter_delivers (he : c.enabled = true) (htype : type.isActivityEvent = true)
    (h : ¬ c.Consumes type) (hactive : c.active = false) :
    c.eventFilter type = (false, { c with timer := true }) := by
  rw [eventFilter, if_neg (by simp [he, htype]), if_neg (by simpa [Consumes] using h),
    if_neg (by simp [hactive])]
  rfl

end Filter

theorem step_timeout (h : c.timer = true) (hactive : c.active = false) : c.step .timeout = { c with
    timer := false
    active := true
    activeChanged := c.activeChanged ++ [true] } := by
  simp [step, setActive, h, hactive]

theorem Consistent.step {timeout : Int} (h : c.Consistent timeout) (input : Input) :
    (c.step input).Consistent timeout := by
  obtain ⟨henabled, htimer, hdisabled, halternates, hlast⟩ := h
  cases input with
  | timeout =>
    cases ht : c.timer with
    | false =>
      rw [ScreensaverController.step, ht]
      exact ⟨henabled, htimer, hdisabled, halternates, hlast⟩
    | true =>
      have hrunning : c.enabled = true ∧ c.active = false := by simpa [ht] using htimer.symm
      rw [step_timeout ht hrunning.2]
      refine ⟨henabled, by simp, by simp [hrunning.1], ?_, getLast?_signals _ true⟩
      exact alternates_concat halternates hlast (by simp [hrunning.2])
  | event type =>
    rw [ScreensaverController.step]
    by_cases hpass : c.enabled = false ∨ type.isActivityEvent = false
    · rw [eventFilter_passes hpass]
      exact ⟨henabled, htimer, hdisabled, halternates, hlast⟩
    · obtain ⟨he, htype⟩ : c.enabled = true ∧ type.isActivityEvent = true := by
        simpa using hpass
      by_cases hconsumed : c.Consumes type
      · rw [eventFilter_consumes he hconsumed]
        exact ⟨henabled, htimer, by simp [he], halternates, hlast⟩
      · cases hactive : c.active with
        | false =>
          rw [eventFilter_delivers he htype hconsumed hactive]
          exact ⟨henabled, by simp [he, hactive], by simp [he], halternates, hlast⟩
        | true =>
          rw [eventFilter_wakes he htype hconsumed hactive]
          refine ⟨henabled, by simp [he], by simp [he], ?_, getLast?_signals _ false⟩
          exact alternates_concat halternates hlast (by simp [hactive])

/-- What has reached the application and what has been swallowed, `isOpen` if a touch goes on:
sequences of touches, of which the last is the one's or the other's. -/
structure Sorted (isOpen : Bool) (c : ScreensaverController) (reached kept : List QEventType) :
    Prop where
  reached : leaves touchPart reached = some (isOpen && !c.consumingTouchSequence)
  kept : leaves touchPart kept = some (isOpen && c.consumingTouchSequence)
  closed : isOpen = false → c.consumingTouchSequence = false
  awake : isOpen = true → c.active = false

section Touches

variable {type : QEventType} {b b' : Bool} {reached kept : List QEventType}

theorem touchPart_eq_none (h : type.isTouchEvent = false) : touchPart type = none := by
  cases type <;> first | rfl | simp [QEventType.isTouchEvent] at h

/-- An event that is no touch leaves the sequences as they are. -/
theorem Sorted.aside (h : Sorted b c reached kept) (htype : type.isTouchEvent = false)
    {c' : ScreensaverController} (hc : c'.consumingTouchSequence = c.consumingTouchSequence)
    (hactive : c'.active = true → c.active = true) (filtered : Bool) :
    Sorted b c' (reached ++ if filtered then [] else [type])
      (kept ++ if filtered then [type] else []) := by
  have hfollow (o : Option Bool) : follow touchPart o type = o := by
    simp [follow, touchPart_eq_none htype]
  refine ⟨?_, ?_, fun hb => hc.trans (h.closed hb), fun hb => ?_⟩
  · rw [hc, ← h.reached]
    cases filtered <;> simp [leaves_concat, hfollow]
  · rw [hc, ← h.kept]
    cases filtered <;> simp [leaves_concat, hfollow]
  · exact Bool.eq_false_iff.mpr fun hactive' => absurd (hactive hactive') (by simp [h.awake hb])

/-- A touch that is not being swallowed reaches the application. -/
theorem Sorted.reach (h : Sorted b' c reached kept) (hc : c.consumingTouchSequence = false)
    (hf : follow touchPart (some b') type = some b) {c' : ScreensaverController}
    (hc' : c'.consumingTouchSequence = false) (hactive : c'.active = false) :
    Sorted b c' (reached ++ [type]) kept where
  reached := by
    have hreached : leaves touchPart reached = some b' := by simpa [hc] using h.reached
    rw [leaves_concat, hreached, hf, hc']
    simp
  kept := by simpa [hc, hc'] using h.kept
  closed _ := hc'
  awake _ := hactive

/-- A touch of a sequence that is being swallowed. -/
theorem Sorted.keep (h : Sorted b' c reached kept) (hc : c.consumingTouchSequence = true)
    (hf : follow touchPart (some b') type = some b) {c' : ScreensaverController}
    (hc' : c'.consumingTouchSequence = b) (hactive : c'.active = c.active) :
    Sorted b c' reached (kept ++ [type]) := by
  have hopen : b' = true := by
    cases b' with
    | false => exact absurd hc (by simp [h.closed rfl])
    | true => rfl
  subst hopen
  refine ⟨?_, ?_, ?_, ?_⟩
  · rw [h.reached, hc, hc']
    cases b <;> rfl
  · have hkept : leaves touchPart kept = some true := by simpa [hc] using h.kept
    rw [leaves_concat, hkept, hf, hc', Bool.and_self]
  · rintro rfl
    exact hc'
  · exact fun _ => hactive.trans (h.awake rfl)

/-- The touch that wakes the screen opens a sequence, which is swallowed. -/
theorem Sorted.wake (h : Sorted b' c reached kept) (hclosed : b' = false)
    (hf : follow touchPart (some b') type = some b) (htype : type.isTouchEvent = true)
    {c' : ScreensaverController} (hc' : c'.consumingTouchSequence = decide (type = .touchBegin))
    (hactive : c'.active = false) : Sorted b c' reached (kept ++ [type]) := by
  subst hclosed
  have hbegin : type = .touchBegin ∧ b = true := by
    cases type <;> simp_all [follow, touchPart, QEventType.isTouchEvent]
  obtain ⟨rfl, rfl⟩ := hbegin
  have hconsuming : c'.consumingTouchSequence = true := hc'
  refine ⟨?_, ?_, by simp, fun _ => hactive⟩
  · rw [h.reached, hconsuming]
    rfl
  · rw [leaves_concat, h.kept, Bool.false_and, hf, hconsuming, Bool.and_self]

theorem consuming_of_ends (hf : follow touchPart (some true) type = some b)
    (htype : type.isTouchEvent = true) : (!(type = .touchEnd || type = .touchCancel)) = b := by
  cases type <;> simp_all [follow, touchPart, QEventType.isTouchEvent]

/-- Another event does not change what becomes of a touch that goes on. -/
theorem eventFilter_not_touch (htype : type.isTouchEvent = false)
    (hclosed : c.active = true → c.consumingTouchSequence = false) :
    (c.eventFilter type).2.consumingTouchSequence = c.consumingTouchSequence ∧
      ((c.eventFilter type).2.active = true → c.active = true) := by
  have hconsumed : ¬ c.Consumes type := fun h => absurd h.2 (by simp [htype])
  by_cases hpass : c.enabled = false ∨ type.isActivityEvent = false
  · rw [eventFilter_passes hpass]
    exact ⟨rfl, id⟩
  · obtain ⟨he, hactivity⟩ : c.enabled = true ∧ type.isActivityEvent = true := by
      simpa using hpass
    cases hactive : c.active with
    | false =>
      rw [eventFilter_delivers he hactivity hconsumed hactive]
      exact ⟨rfl, fun h => hactive ▸ h⟩
    | true =>
      have hbegin : type ≠ .touchBegin := by
        rintro rfl
        cases htype
      rw [eventFilter_wakes he hactivity hconsumed hactive]
      exact ⟨by simp [hbegin, hclosed hactive], fun _ => rfl⟩

theorem Sorted.step {timeout : Int} (h : Sorted b' c reached kept) (hc : c.Consistent timeout)
    (hf : follow touchPart (some b') type = some b) :
    Sorted b (c.step (.event type)) (reached ++ c.delivered (.event type))
      (kept ++ c.swallowed (.event type)) := by
  have hclosed (hactive : c.active = true) : b' = false :=
    Bool.eq_false_iff.mpr fun hopen => absurd hactive (by simp [h.awake hopen])
  cases htype : type.isTouchEvent with
  | false =>
    obtain rfl : b' = b := by simpa [follow, touchPart_eq_none htype] using hf
    obtain ⟨hsame, hactive⟩ := eventFilter_not_touch htype fun ha => h.closed (hclosed ha)
    exact h.aside htype hsame hactive _
  | true =>
    have hactivity := isActivityEvent_of_touch htype
    rw [ScreensaverController.step, delivered, swallowed]
    cases he : c.enabled with
    | false =>
      obtain ⟨hawake, hfree⟩ := hc.disabled he
      rw [eventFilter_passes (.inl he)]
      simpa using h.reach hfree hf hfree hawake
    | true =>
      by_cases hconsumed : c.Consumes type
      · have hopen : b' = true := by
          by_contra hb
          exact absurd hconsumed.1 (by simp [h.closed (Bool.not_eq_true b' ▸ hb)])
        subst hopen
        have hends := consuming_of_ends hf htype
        rw [eventFilter_consumes he hconsumed, hends]
        have hkept : Sorted b { c with consumingTouchSequence := b } reached (kept ++ [type]) :=
          h.keep hconsumed.1 hf rfl rfl
        simpa using hkept
      · have hfree : c.consumingTouchSequence = false := by simpa [Consumes, htype] using hconsumed
        cases hactive : c.active with
        | false =>
          rw [eventFilter_delivers he hactivity hconsumed hactive]
          have hreached : Sorted b { c with timer := true } (reached ++ [type]) kept :=
            h.reach hfree hf hfree hactive
          simpa using hreached
        | true =>
          rw [eventFilter_wakes he hactivity hconsumed hactive]
          have hkept : Sorted b { c with
              consumingTouchSequence := type = .touchBegin
              active := false
              timer := true
              activeChanged := c.activeChanged ++ [false] } reached (kept ++ [type]) :=
            h.wake (hclosed hactive) hf htype rfl rfl
          simpa using hkept

theorem Sorted.timeout (h : Sorted false c reached kept) :
    Sorted false (c.step .timeout) reached kept := by
  have hsame : (c.step .timeout).consumingTouchSequence = c.consumingTouchSequence := by
    rw [ScreensaverController.step]
    split
    · simp only [setActive]
      split <;> rfl
    · rfl
  exact ⟨hsame ▸ h.reached, hsame ▸ h.kept, fun _ => hsame.trans (h.closed rfl), by simp⟩

end Touches

/-- The timer does not run out while a touch goes on. -/
def Undisturbed (inputs : List Input) : Prop :=
  Throughout (follow inputPart) (fun touch input => input = .timeout → touch = some false)
    (some false) inputs

instance (inputs : List Input) : Decidable (Undisturbed inputs) :=
  inferInstanceAs (Decidable (Throughout ..))

theorem consistent_run (timeout : Int) (inputs : List Input) :
    (run step (create timeout) inputs).Consistent timeout :=
  run_invariant (consistent_create timeout) fun _ input _ h => h.step input

theorem sorted_run (timeout : Int) {inputs : List Input} (hu : Undisturbed inputs) {b : Bool}
    (h : leaves inputPart inputs = some b) :
    Sorted b (run step (create timeout) inputs)
      (emitted step delivered (create timeout) inputs)
      (emitted step swallowed (create timeout) inputs) := by
  induction inputs using List.reverseRecOn generalizing b with
  | nil =>
    obtain rfl : false = b := Option.some.inj h
    have hfree : (create timeout).consumingTouchSequence = false := by
      unfold create
      split <;> rfl
    exact ⟨rfl, rfl, fun _ => hfree, by simp⟩
  | append_singleton inputs input ih =>
    obtain ⟨b', hb', hf⟩ := of_leaves_concat h
    obtain ⟨hu, hquiet⟩ := throughout_concat.mp hu
    have hsorted := ih hu hb'
    rw [run_concat, emitted_append, emitted_append]
    simp only [emitted, List.append_nil]
    cases input with
    | event type => exact hsorted.step (consistent_run timeout inputs) hf
    | timeout =>
      have hclosed : leaves inputPart inputs = some false := hquiet rfl
      obtain rfl : false = b' := Option.some.inj (hclosed.symm.trans hb')
      obtain rfl : false = b := Option.some.inj hf
      simpa [delivered, swallowed] using hsorted.timeout

/-- If touches come in sequences, and the timer does not run out while one goes on, then each
sequence reaches the application as a whole or is swallowed as a whole. -/
theorem touches_whole (timeout : Int) (inputs : List Input) (hu : Undisturbed inputs) (b : Bool)
    (h : leaves inputPart inputs = some b) :
    leaves touchPart (emitted step delivered (create timeout) inputs) =
        some (b && !(run step (create timeout) inputs).consumingTouchSequence) ∧
      leaves touchPart (emitted step swallowed (create timeout) inputs) =
        some (b && (run step (create timeout) inputs).consumingTouchSequence) :=
  have hsorted := sorted_run timeout hu h
  ⟨hsorted.reached, hsorted.kept⟩

/-- A touch wakes the screen, and the next one is for the application. -/
theorem touches_whole_sample :
    leaves touchPart (emitted step delivered (create 600000)
        [.timeout, .event .touchBegin, .event .touchUpdate, .event .touchEnd, .event .touchBegin]) =
      some true :=
  (touches_whole 600000 [.timeout, .event .touchBegin, .event .touchUpdate, .event .touchEnd,
    .event .touchBegin] (by decide) true (by decide)).1

/-- While the screensaver is on, no activity reaches the application; only then, or in a sequence
of touches that has woken it, is anything swallowed. -/
structure Guards (c : ScreensaverController) (input : Input) : Prop where
  delivered : c.active = true → ∀ type ∈ c.delivered input, type.isActivityEvent = false
  swallowed : ∀ type ∈ c.swallowed input, c.active = true ∨ c.Consumes type

theorem Consistent.guards {timeout : Int} (h : c.Consistent timeout) (input : Input) :
    c.Guards input := by
  cases input with
  | timeout => constructor <;> simp [delivered, swallowed]
  | event type =>
    by_cases hpass : c.enabled = false ∨ type.isActivityEvent = false
    · have hfilter := eventFilter_passes hpass
      refine ⟨fun hactive t ht => ?_, by simp [swallowed, hfilter]⟩
      obtain rfl : t = type := by simpa [delivered, hfilter] using ht
      rcases hpass with he | hactivity
      · exact absurd hactive (by simp [(h.disabled he).1])
      · exact hactivity
    · obtain ⟨he, hactivity⟩ : c.enabled = true ∧ type.isActivityEvent = true := by
        simpa using hpass
      by_cases hconsumed : c.Consumes type
      · have hfilter := eventFilter_consumes he hconsumed
        constructor <;>
          simp [delivered, swallowed, hfilter, hconsumed]
      · cases hactive : c.active with
        | false =>
          have hfilter := eventFilter_delivers he hactivity hconsumed hactive
          constructor <;> simp [swallowed, hfilter, hactive]
        | true =>
          have hfilter := eventFilter_wakes he hactivity hconsumed hactive
          constructor <;> simp [delivered, hfilter, hactive]

end RpiDashboard.Dashboard.ScreensaverController
