import RpiDashboard.Data.Run

/-! Bindings to the properties of an object: what is shown of a property is read again whenever the
property's signal is sent, from the object as it is then. -/

namespace RpiDashboard

section Pages

variable {σ ε μ π : Type*} {step : σ → ε → σ} {sent : σ → ε → List μ} {hear : π → μ → π}
  {Q : σ → ε → Prop} {s : σ} {es : List ε} {page : π}

/-- A relation between a page that hears the messages of a run and the state, if every step keeps
it, holds after the run. -/
theorem heard_run {R : π → σ → Prop} (hrun : Throughout step Q s es) (h₀ : R page s)
    (h : ∀ page s e, Q s e → R page s → R ((sent s e).foldl hear page) (step s e)) :
    R ((emitted step sent s es).foldl hear page) (run step s es) := by
  induction es generalizing s page with
  | nil => exact h₀
  | cons e es ih =>
    rw [emitted, List.foldl_append, run_cons]
    exact ih hrun.2 (h _ _ _ hrun.1 h₀)

end Pages

variable {σ τ ε ς α : Type*} [DecidableEq ς] {signal : ς} {read : τ → α} {shown : α}

/-- What a binding shows after signals, each with the object that sends it. -/
def rebind (signal : ς) (read : τ → α) (shown : α) (sent : List (ς × τ)) : α :=
  sent.foldl (fun shown message => if message.1 = signal then read message.2 else shown) shown

@[simp] theorem rebind_nil : rebind signal read shown [] = shown := rfl

@[simp] theorem rebind_cons {message : ς × τ} {sent : List (ς × τ)} :
    rebind signal read shown (message :: sent) =
      rebind signal read (if message.1 = signal then read message.2 else shown) sent := rfl

@[simp] theorem rebind_append {sent later : List (ς × τ)} :
    rebind signal read shown (sent ++ later) =
      rebind signal read (rebind signal read shown sent) later :=
  List.foldl_append

section Runs

variable {step : σ → ε → σ} {sent : σ → ε → List (ς × τ)} {Q : σ → ε → Prop} {s : σ} {es : List ε}

/-- If no step changes a property without its signal, then what is shown is the property. -/
theorem shown_run (object : σ → τ) {I : σ → Prop} (hrun : Throughout step Q s es) (h₀ : I s)
    (hI : ∀ s e, I s → I (step s e))
    (h : ∀ s e, Q s e → I s →
      rebind signal read (read (object s)) (sent s e) = read (object (step s e))) :
    rebind signal read (read (object s)) (emitted step sent s es) = read (object (run step s es)) :=
  (heard_run (R := fun a s => I s ∧ a = read (object s)) hrun ⟨h₀, rfl⟩
    fun _ s e hq ha => ⟨hI s e ha.1, ha.2 ▸ h s e hq ha.1⟩).2

end Runs

end RpiDashboard
