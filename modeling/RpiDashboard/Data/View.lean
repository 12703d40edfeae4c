import Mathlib.Data.List.Basic

/-! Two file systems that look alike to a program which sees one of the files only in part. -/

namespace RpiDashboard

variable {π δ ρ α β : Type*}

/-- They differ at one path, and there in nothing that the view shows. -/
structure AgreeBut (view : δ → ρ) (path : π) (files files' : π → Option δ) : Prop where
  elsewhere : ∀ other, other ≠ path → files' other = files other
  viewed : (files' path).map view = (files path).map view

variable {view : δ → ρ} {path : π} {files files' : π → Option δ}

/-- What is read of the file through the view is the same. -/
theorem AgreeBut.bind_eq (h : AgreeBut view path files files') {read : δ → Option α}
    (hread : ∀ contents contents', view contents = view contents' →
      read contents = read contents') :
    (files' path).bind read = (files path).bind read := by
  have hviewed := h.viewed
  cases hcontents' : files' path with
  | none =>
    rw [hcontents', Option.map_none] at hviewed
    rw [Option.map_eq_none_iff.mp hviewed.symm]
  | some contents' =>
    rw [hcontents', Option.map_some] at hviewed
    obtain ⟨contents, hcontents, heq⟩ := Option.map_eq_some_iff.mp hviewed.symm
    rw [hcontents]
    exact hread contents' contents heq.symm

theorem filter_eq_of_forall {x : Option α} {p : α → Bool} (h : ∀ a ∈ x, p a) : x.filter p = x := by
  cases x with
  | none => rfl
  | some a => exact Option.filter_some_pos (h a rfl)

/-- The same where both are within the limits of the reader. -/
theorem AgreeBut.bounded_eq (h : AgreeBut view path files files') {within : δ → Bool}
    (hw : ∀ contents ∈ files path, within contents)
    (hw' : ∀ contents ∈ files' path, within contents) {read : δ → Option α}
    (hread : ∀ contents contents', view contents = view contents' →
      read contents = read contents') :
    ((files' path).filter within).bind read = ((files path).filter within).bind read := by
  rw [filter_eq_of_forall hw, filter_eq_of_forall hw']
  exact h.bind_eq hread

/-- A search passes over what it does not take. -/
theorem findSome?_filter_of_taken {p : α → Bool} {f : α → Option β}
    (h : ∀ x, (f x).isSome → p x) (xs : List α) : (xs.filter p).findSome? f = xs.findSome? f := by
  induction xs with
  | nil => rfl
  | cons x xs ih =>
    rw [List.findSome?_cons, List.filter_cons]
    cases hf : f x with
    | none =>
      split
      · rw [List.findSome?_cons, hf]
        exact ih
      · exact ih
    | some y => rw [if_pos (h x (by rw [hf]; rfl)), List.findSome?_cons, hf]

/-- Hence it is decided by those that it may take. -/
theorem findSome?_eq_of_filter_eq {p : α → Bool} {f : α → Option β}
    (h : ∀ x, (f x).isSome → p x) {xs xs' : List α} (heq : xs.filter p = xs'.filter p) :
    xs.findSome? f = xs'.findSome? f := by
  rw [← findSome?_filter_of_taken h xs, heq, findSome?_filter_of_taken h]

end RpiDashboard
