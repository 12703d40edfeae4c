import RpiDashboard.Data.Run

/-! Streams of sessions: each is opened, goes on, and is closed before the next one. -/

namespace RpiDashboard

namespace Sessions

inductive Part
  | opens | goesOn | closes
  deriving DecidableEq

variable {ε : Type*} (part : ε → Option Part)

/-- Whether a session is open; none after an event out of place. -/
def follow (isOpen : Option Bool) (e : ε) : Option Bool :=
  match part e, isOpen with
  | none, isOpen => isOpen
  | some .opens, some false => some true
  | some .goesOn, some true => some true
  | some .closes, some true => some false
  | some _, _ => none

/-- What a stream leaves open, if it has nothing out of place. -/
def leaves (es : List ε) : Option Bool := run (follow part) (some false) es

variable {part} {es : List ε} {e : ε}

@[simp] theorem leaves_nil : leaves part [] = some false := rfl

theorem leaves_concat : leaves part (es ++ [e]) = follow part (leaves part es) e := run_concat

@[simp] theorem follow_none : follow part none e = none := by
  unfold follow
  cases part e with
  | none => rfl
  | some p => cases p <;> rfl

/-- What comes before an event in place is in place. -/
theorem of_leaves_concat {b : Bool} (h : leaves part (es ++ [e]) = some b) :
    ∃ b', leaves part es = some b' ∧ follow part (some b') e = some b := by
  rw [leaves_concat] at h
  cases hb : leaves part es with
  | none => simp [hb] at h
  | some b' => exact ⟨b', rfl, hb ▸ h⟩

theorem follow_eq_some {b b' : Bool} : follow part (some b) e = some b' ↔
    (part e = none ∧ b' = b) ∨ (part e = some .opens ∧ b = false ∧ b' = true) ∨
      (part e = some .goesOn ∧ b = true ∧ b' = true) ∨
      (part e = some .closes ∧ b = true ∧ b' = false) := by
  unfold follow
  cases part e with
  | none => simp [eq_comm]
  | some p => cases p <;> cases b <;> simp [eq_comm]

end Sessions

end RpiDashboard
