import Mathlib.Data.List.InsertIdx
import Mathlib.Data.List.Infix

/-! List models and the views that follow them (`QAbstractItemModel`): a row gives a value for
every role, and a view changes by what the model announces. -/

namespace RpiDashboard.Qt

variable {ρ ν : Type*} [DecidableEq ρ]

/-- What a model announces: one row that is there now, one that is there no more, the roles of a
row that are to be read again, or all of it. -/
inductive Announcement (ρ : Type*)
  | rowsInserted : Nat → Announcement ρ
  | rowsRemoved : Nat → Announcement ρ
  | dataChanged : Nat → List ρ → Announcement ρ
  | modelReset : Announcement ρ

/-- The rows of a model, or of a view of it. -/
abbrev Rows (ρ ν : Type*) := List (ρ → ν)

/-- The roles of a row that are read again. -/
def reread (roles : List ρ) (now old : ρ → ν) : ρ → ν :=
  fun role => if role ∈ roles then now role else old role

/-- The view after an announcement; what it reads, it reads of the model as it is `now`. -/
def Rows.apply (now : Rows ρ ν) (view : Rows ρ ν) : Announcement ρ → Rows ρ ν
  | .rowsInserted row => match now[row]? with
    | some shown => view.insertIdx row shown
    | none => view
  | .rowsRemoved row => view.eraseIdx row
  | .dataChanged row roles => match now[row]? with
    | some shown => view.modify row (reread roles shown)
    | none => view
  | .modelReset => now

/-- The view after announcements, each with the model as it was when it was made. -/
def Rows.follow (view : Rows ρ ν) (announced : List (Announcement ρ × Rows ρ ν)) : Rows ρ ν :=
  announced.foldl (fun view announcement => announcement.2.apply view announcement.1) view

variable {now before : Rows ρ ν} {row : Nat} {shown : ρ → ν} {roles : List ρ}

@[simp] theorem Rows.follow_nil {view : Rows ρ ν} : view.follow [] = view := rfl

@[simp] theorem Rows.apply_modelReset {view : Rows ρ ν} : now.apply view .modelReset = now := rfl

/-- The roles that are not read again are the same as before. -/
theorem reread_eq {now old : ρ → ν} (h : ∀ role, role ∉ roles → now role = old role) :
    reread roles now old = now := by
  funext role
  rw [reread]
  split
  case isTrue => rfl
  case isFalse hmem => exact (h role hmem).symm

/-- A change of one row that is announced with all its roles. -/
theorem Rows.apply_dataChanged (hnow : now = before.set row shown) {old : ρ → ν}
    (hold : before[row]? = some old) (h : ∀ role, role ∉ roles → shown role = old role) :
    now.apply before (.dataChanged row roles) = now := by
  obtain ⟨hlt, hget⟩ := List.getElem?_eq_some_iff.mp hold
  have hshown : now[row]? = some shown := by
    rw [hnow, List.getElem?_set_self hlt]
  simp only [Rows.apply, hshown]
  rw [List.modify_eq_set_getElem?, hold, hnow]
  simp [reread_eq h]

/-- A row at the end. -/
theorem Rows.apply_rowsInserted_concat :
    Rows.apply (before ++ [shown]) before (.rowsInserted before.length) = before ++ [shown] := by
  have hshown : (before ++ [shown])[before.length]? = some shown := List.getElem?_concat_length
  simp only [Rows.apply, hshown]
  exact List.insertIdx_length_self

section Spans

variable {α : Type*}

/-- What a list model announces of its rows: those from the first to the last are there no more, or
are there now. -/
inductive RowsChange
  | removed : Nat → Nat → RowsChange
  | inserted : Nat → Nat → RowsChange

/-- The view after a change; the rows that are inserted it reads of the model as it is `now`. -/
def RowsChange.apply (now view : List α) : RowsChange → List α
  | .removed first last => view.take first ++ view.drop (last + 1)
  | .inserted first last =>
    view.take first ++ (now.drop first).take (last + 1 - first) ++ view.drop first

/-- The view after changes, each with the rows of the model as it was when it was announced. -/
def RowsChange.follow (view : List α) (announced : List (RowsChange × List α)) : List α :=
  announced.foldl (fun view change => change.1.apply change.2 view) view

variable {rows now : List α} {count : Nat} {row : α}

theorem RowsChange.apply_removed_front (h : 0 < count) :
    RowsChange.apply now rows (.removed 0 (count - 1)) = rows.drop count := by
  rw [RowsChange.apply, List.take_zero, List.nil_append, Nat.sub_add_cancel h]

theorem RowsChange.apply_inserted_back :
    RowsChange.apply (rows ++ [row]) rows (.inserted rows.length rows.length) = rows ++ [row] := by
  rw [RowsChange.apply, List.take_length, List.drop_length, List.drop_left,
    Nat.add_sub_cancel_left, List.append_nil]
  rfl

end Spans

end RpiDashboard.Qt
