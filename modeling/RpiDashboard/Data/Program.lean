import Mathlib.Tactic.TypeStar

/-! Programs that act on a state one atomic step after the other.  A step may fail, and the
program may be stopped before any of its steps. -/

namespace RpiDashboard

inductive Program (σ α : Type*)
  | done : α → Program σ α
  /-- An action; what comes next depends on the state that it finds. -/
  | step : (σ → σ) → (σ → Program σ α) → Program σ α

namespace Program

variable {σ α : Type*}

/-- The state after so many steps at most, and the result if there is one by then. -/
def stop : Nat → Program σ α → σ → σ × Option α
  | _, .done a, s => (s, some a)
  | 0, .step _ _, s => (s, none)
  | n + 1, .step act next, s => stop n (next s) (act s)

/-- An action that may fail, and then leaves the state as it is. -/
def attempt (ok : σ → Bool) (act : σ → σ) (next otherwise : Program σ α) : Program σ α :=
  .step (fun s => if ok s then act s else s) fun s => if ok s then next else otherwise

/-- It holds wherever the program is stopped, and where it is done. -/
def Always (P : σ → Option α → Prop) : Program σ α → σ → Prop
  | .done a, s => P s (some a)
  | .step act next, s => P s none ∧ (next s).Always P (act s)

variable {P Q : σ → Option α → Prop} {p next otherwise : Program σ α} {s : σ} {ok : σ → Bool}
  {act : σ → σ}

theorem Always.stop (h : p.Always P s) (n : Nat) : P (p.stop n s).1 (p.stop n s).2 := by
  induction p generalizing n s with
  | done a => rwa [Program.stop]
  | step act next ih =>
    cases n with
    | zero => exact h.1
    | succ n => exact ih s h.2 n

theorem always_attempt (h₀ : P s none) (hnext : ok s → next.Always P (act s))
    (hother : otherwise.Always P s) : (attempt ok act next otherwise).Always P s := by
  refine ⟨h₀, ?_⟩
  cases hok : ok s with
  | false => simpa [hok] using hother
  | true => simpa [hok] using hnext hok

end Program

end RpiDashboard
