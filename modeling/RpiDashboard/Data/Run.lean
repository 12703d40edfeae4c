import Mathlib.Data.List.Induction

/-! Runs of a deterministic machine: a state, and a step for every event. -/

namespace RpiDashboard

variable {σ τ ε δ : Type*} (step : σ → ε → σ)

def run (s : σ) (es : List ε) : σ := es.foldl step s

/-- What the steps of a run put out, in order. -/
def emitted (output : σ → ε → List δ) : σ → List ε → List δ
  | _, [] => []
  | s, e :: es => output s e ++ emitted output (step s e) es

/-- Every step of a run has the property. -/
def Throughout (P : σ → ε → Prop) : σ → List ε → Prop
  | _, [] => True
  | s, e :: es => P s e ∧ Throughout P (step s e) es

instance Throughout.decidable (P : σ → ε → Prop) [∀ s e, Decidable (P s e)] :
    (s : σ) → (es : List ε) → Decidable (Throughout step P s es)
  | _, [] => .isTrue trivial
  | s, e :: es =>
    have := Throughout.decidable P (step s e) es
    inferInstanceAs (Decidable (P s e ∧ Throughout step P (step s e) es))

variable {step} {s : σ} {es : List ε}

@[simp] theorem run_nil : run step s [] = s := rfl

@[simp] theorem run_cons {e : ε} : run step s (e :: es) = run step (step s e) es := rfl

theorem run_append {fs : List ε} : run step s (es ++ fs) = run step (run step s es) fs :=
  List.foldl_append

@[simp] theorem run_concat {e : ε} : run step s (es ++ [e]) = step (run step s es) e := run_append

/-- What holds at the start and is kept by every step of the run holds at its end. -/
theorem run_invariant {P : σ → Prop} (h₀ : P s) (h : ∀ s, ∀ e ∈ es, P s → P (step s e)) :
    P (run step s es) := by
  induction es generalizing s with
  | nil => exact h₀
  | cons e es ih =>
    refine ih (h s e List.mem_cons_self h₀) ?_
    exact fun s e he => h s e (List.mem_cons_of_mem _ he)

theorem throughout_of_forall {P : σ → ε → Prop} (h : ∀ s, ∀ e ∈ es, P s e) :
    Throughout step P s es := by
  induction es generalizing s with
  | nil => trivial
  | cons e es ih =>
    exact ⟨h s e List.mem_cons_self, ih fun s e he => h s e (List.mem_cons_of_mem _ he)⟩

/-- The same for a step that keeps it only where the run meets a condition. -/
theorem Throughout.invariant {P : σ → Prop} {Q : σ → ε → Prop} (h : Throughout step Q s es)
    (h₀ : P s) (hstep : ∀ s e, Q s e → P s → P (step s e)) : P (run step s es) := by
  induction es generalizing s with
  | nil => exact h₀
  | cons e es ih => exact ih h.2 (hstep s e h.1 h₀)

/-- What follows from the invariant and the condition holds of every step. -/
theorem Throughout.imp {P : σ → Prop} {Q R : σ → ε → Prop} (h : Throughout step Q s es)
    (h₀ : P s) (hstep : ∀ s e, Q s e → P s → P (step s e)) (hr : ∀ s e, Q s e → P s → R s e) :
    Throughout step R s es := by
  induction es generalizing s with
  | nil => trivial
  | cons e es ih => exact ⟨hr s e h.1 h₀, ih h.2 (hstep s e h.1 h₀)⟩

theorem Throughout.and {P Q : σ → ε → Prop} (hp : Throughout step P s es)
    (hq : Throughout step Q s es) : Throughout step (fun s e => P s e ∧ Q s e) s es := by
  induction es generalizing s with
  | nil => trivial
  | cons e es ih => exact ⟨⟨hp.1, hq.1⟩, ih hp.2 hq.2⟩

/-- Two conditions on the steps that agree under an invariant, which the first of them keeps. -/
theorem throughout_iff {I : σ → Prop} {P Q : σ → ε → Prop} (h₀ : I s)
    (hiff : ∀ s e, I s → (P s e ↔ Q s e)) (hkeep : ∀ s e, I s → P s e → I (step s e)) :
    Throughout step P s es ↔ Throughout step Q s es := by
  induction es generalizing s with
  | nil => exact Iff.rfl
  | cons e es ih =>
    rw [Throughout, Throughout, ← hiff s e h₀]
    exact and_congr_right fun hp => ih (hkeep s e h₀ hp)

theorem throughout_concat {P : σ → ε → Prop} {e : ε} :
    Throughout step P s (es ++ [e]) ↔ Throughout step P s es ∧ P (run step s es) e := by
  induction es generalizing s with
  | nil => exact and_comm
  | cons e es ih => exact (and_congr_right fun _ => ih).trans and_assoc.symm

/-- The same for a property of the events so far and the state they lead to. -/
theorem Throughout.history {P : List ε → σ → Prop} {Q : σ → ε → Prop}
    (hq : Throughout step Q s es) (h₀ : P [] s)
    (h : ∀ es e, Q (run step s es) e → P es (run step s es) →
      P (es ++ [e]) (step (run step s es) e)) : P es (run step s es) := by
  induction es using List.reverseRecOn with
  | nil => exact h₀
  | append_singleton es e ih =>
    rw [throughout_concat] at hq
    rw [run_concat]
    exact h es e hq.2 (ih hq.1)

theorem run_history {P : List ε → σ → Prop} (h₀ : P [] s)
    (h : ∀ es e, P es (run step s es) → P (es ++ [e]) (step (run step s es) e)) (es : List ε) :
    P es (run step s es) :=
  (throughout_of_forall fun _ _ _ => trivial : Throughout step (fun _ _ => True) s es).history h₀
    fun es e _ => h es e

theorem emitted_append {output : σ → ε → List δ} {fs : List ε} :
    emitted step output s (es ++ fs) =
      emitted step output s es ++ emitted step output (run step s es) fs := by
  induction es generalizing s with
  | nil => rfl
  | cons e es ih => rw [List.cons_append, emitted, ih, emitted, run_cons, List.append_assoc]

theorem forall_mem_emitted {output : σ → ε → List δ} {P : δ → Prop}
    (h : ∀ s e, ∀ x ∈ output s e, P x) : ∀ x ∈ emitted step output s es, P x := by
  induction es generalizing s with
  | nil => simp [emitted]
  | cons e es ih => exact List.forall_mem_append.mpr ⟨h s e, ih⟩

/-- What one step of a run puts out is among what the run puts out. -/
theorem mem_emitted {output : σ → ε → List δ} {e : ε} {later : List ε} {x : δ}
    (h : x ∈ output (run step s es) e) : x ∈ emitted step output s (es ++ e :: later) := by
  induction es generalizing s with
  | nil => exact List.mem_append_left _ h
  | cons e es ih => exact List.mem_append_right _ (ih h)

/-- If every step moves a view of the state by the steps it puts out for another
machine, then so does every run. -/
theorem run_refines {step' : τ → δ → τ} {view : σ → τ} {calls : σ → ε → List δ}
    (h : ∀ s e, view (step s e) = run step' (view s) (calls s e)) :
    view (run step s es) = run step' (view s) (emitted step calls s es) := by
  induction es generalizing s with
  | nil => rfl
  | cons e es ih => rw [run_cons, ih, h, emitted, run_append]

end RpiDashboard
