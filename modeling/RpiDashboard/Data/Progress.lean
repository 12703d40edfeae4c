import Mathlib.Order.WellFounded
import RpiDashboard.Data.Run

/-! Endless runs of a machine, and what is reached in them when a measure never rises and falls
again and again. -/

namespace RpiDashboard

variable {σ ε μ : Type*} (step : σ → ε → σ) (s : σ) (e : ℕ → ε)

/-- The state before the event at this place. -/
def stateAt : ℕ → σ
  | 0 => s
  | n + 1 => step (stateAt n) (e n)

variable {step s e}

@[simp] theorem stateAt_zero : stateAt step s e 0 = s := rfl

@[simp] theorem stateAt_succ {n : ℕ} :
    stateAt step s e (n + 1) = step (stateAt step s e n) (e n) := rfl

/-- From some place on, what holds there and is kept by every step. -/
theorem stateAt_invariant {P : σ → Prop} {start : ℕ} (h₀ : P (stateAt step s e start))
    (h : ∀ n, P (stateAt step s e n) → P (step (stateAt step s e n) (e n)))
    {n : ℕ} (hn : start ≤ n) : P (stateAt step s e n) :=
  Nat.le_induction h₀ (fun n _ ih => h n ih) n hn

section Measure

variable [Preorder μ] {measure : σ → μ} {P : σ → Prop} {n : ℕ}

/-- Up to the next state with the property, the measure does not rise. -/
theorem measure_le (hle : ∀ n, ¬ P (stateAt step s e n) → P (stateAt step s e (n + 1)) ∨
      measure (stateAt step s e (n + 1)) ≤ measure (stateAt step s e n))
    (hnot : ∀ m, n ≤ m → ¬ P (stateAt step s e m)) {m : ℕ} (hm : n ≤ m) :
    measure (stateAt step s e m) ≤ measure (stateAt step s e n) := by
  induction m, hm using Nat.le_induction with
  | base => exact le_rfl
  | succ m hm ih =>
    have hstep := (hle m (hnot m hm)).resolve_left (hnot (m + 1) (Nat.le_succ_of_le hm))
    exact hstep.trans ih

/-- If until a property holds every step leaves a measure as it is or makes it less, and again and
again there is a step that makes it less, then again and again the property holds. -/
theorem exists_stateAt [WellFoundedLT μ] (measure : σ → μ) (helpful : σ → ε → Prop)
    (hle : ∀ n, ¬ P (stateAt step s e n) → P (stateAt step s e (n + 1)) ∨
      measure (stateAt step s e (n + 1)) ≤ measure (stateAt step s e n))
    (hlt : ∀ n, ¬ P (stateAt step s e n) → helpful (stateAt step s e n) (e n) →
      P (stateAt step s e (n + 1)) ∨
        measure (stateAt step s e (n + 1)) < measure (stateAt step s e n))
    (hfair : ∀ n, ¬ P (stateAt step s e n) →
      ∃ m, n ≤ m ∧ helpful (stateAt step s e m) (e m)) (n : ℕ) :
    ∃ m, n ≤ m ∧ P (stateAt step s e m) := by
  induction hmeasure : measure (stateAt step s e n) using WellFoundedLT.induction
    generalizing n with
  | ind x ih =>
    subst hmeasure
    by_contra hnone
    have hnot : ∀ m, n ≤ m → ¬ P (stateAt step s e m) := fun m hm hp => hnone ⟨m, hm, hp⟩
    obtain ⟨m, hm, hhelpful⟩ := hfair n (hnot n le_rfl)
    have hless := (hlt m (hnot m hm) hhelpful).resolve_left (hnot (m + 1) (Nat.le_succ_of_le hm))
    obtain ⟨later, hlater, hp⟩ :=
      ih _ (hless.trans_le (measure_le hle hnot hm)) (m + 1) rfl
    exact hnot later (hm.trans ((Nat.le_succ m).trans hlater)) hp

end Measure

end RpiDashboard
