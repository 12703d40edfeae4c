import Mathlib.Data.List.Nodup
import Mathlib.Data.List.Pairwise

/-! The first entry of each key of a list. -/

namespace RpiDashboard

variable {α κ : Type*}

section Firsts

variable [DecidableEq κ] (key : α → κ)

/-- The first entry of each key, other than those that have been seen. -/
def firstOfEach (seen : List κ) : List α → List α
  | [] => []
  | x :: xs => if key x ∈ seen then firstOfEach seen xs else x :: firstOfEach (key x :: seen) xs

variable {key} {seen : List κ} {l : List α} {x : α}

theorem mem_firstOfEach (h : x ∈ firstOfEach key seen l) : x ∈ l ∧ key x ∉ seen := by
  induction l generalizing seen with
  | nil => cases h
  | cons y l ih =>
    rw [firstOfEach] at h
    split at h
    case isTrue =>
      obtain ⟨hl, hseen⟩ := ih h
      exact ⟨List.mem_cons_of_mem _ hl, hseen⟩
    case isFalse hnew =>
      rcases List.mem_cons.mp h with rfl | h
      · exact ⟨List.mem_cons_self, hnew⟩
      · obtain ⟨hl, hseen⟩ := ih h
        exact ⟨List.mem_cons_of_mem _ hl, fun h => hseen (List.mem_cons_of_mem _ h)⟩

theorem firstOfEach_sublist (seen : List κ) (l : List α) : (firstOfEach key seen l).Sublist l := by
  induction l generalizing seen with
  | nil => exact List.Sublist.refl _
  | cons y l ih =>
    rw [firstOfEach]
    split
    case isTrue => exact (ih seen).cons y
    case isFalse => exact (ih _).cons_cons y

theorem nodup_firstOfEach (seen : List κ) (l : List α) : ((firstOfEach key seen l).map key).Nodup := by
  induction l generalizing seen with
  | nil => exact List.nodup_nil
  | cons y l ih =>
    rw [firstOfEach]
    split
    case isTrue => exact ih seen
    case isFalse =>
      refine List.nodup_cons.mpr ⟨fun hy => ?_, ih _⟩
      obtain ⟨z, hz, heq⟩ := List.mem_map.mp hy
      exact (mem_firstOfEach hz).2 (heq ▸ List.mem_cons_self)

/-- No key is lost. -/
theorem exists_firstOfEach (hx : x ∈ l) (hseen : key x ∉ seen) :
    key x ∈ (firstOfEach key seen l).map key := by
  induction l generalizing seen with
  | nil => cases hx
  | cons y l ih =>
    rw [firstOfEach]
    split
    case isTrue hy =>
      rcases List.mem_cons.mp hx with rfl | hx
      · exact absurd hy hseen
      · exact ih hx hseen
    case isFalse =>
      by_cases heq : key x = key y
      case pos =>
        rw [heq]
        exact List.mem_cons_self
      case neg =>
        have hl : x ∈ l := (List.mem_cons.mp hx).resolve_left fun h => heq (h ▸ rfl)
        refine List.mem_cons_of_mem _ (ih hl fun h => ?_)
        exact (List.mem_cons.mp h).elim heq hseen

/-- What is sorted is strictly sorted once there is one entry of each key. -/
theorem pairwise_firstOfEach {before : κ → κ → Prop}
    (hsorted : l.Pairwise fun x y => ¬ before (key y) (key x))
    (hconnected : ∀ p q, p ≠ q → before p q ∨ before q p) :
    ((firstOfEach key seen l).map key).Pairwise before := by
  have hdistinct : (firstOfEach key seen l).Pairwise fun x y => key x ≠ key y :=
    List.pairwise_map.mp (nodup_firstOfEach seen l)
  rw [List.pairwise_map]
  exact (hdistinct.and (hsorted.sublist (firstOfEach_sublist seen l))).imp fun h =>
    (hconnected _ _ h.1).resolve_right h.2

end Firsts

/-- What comes too late to be among the first entries of a sorted list comes after all of these. -/
theorem of_notMem_take {R : α → α → Prop} {l : List α} {x : α} {n : Nat} (h : l.Pairwise R)
    (hx : x ∈ l) (hlate : x ∉ l.take n) : (l.take n).length = n ∧ ∀ y ∈ l.take n, R y x := by
  have hdrop : x ∈ l.drop n := by
    rw [← List.take_append_drop n l] at hx
    exact (List.mem_append.mp hx).resolve_left hlate
  rw [← List.take_append_drop n l] at h
  refine ⟨?_, fun y hy => (List.pairwise_append.mp h).2.2 y hy x hdrop⟩
  have hpos := List.length_pos_of_mem hdrop
  rw [List.length_drop] at hpos
  rw [List.length_take]
  omega

end RpiDashboard
