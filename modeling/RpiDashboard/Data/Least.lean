import Mathlib.Order.Defs.LinearOrder
import Mathlib.Data.Set.Function

/-! An entry of least rank in a list. -/

namespace RpiDashboard

variable {α ι : Type*} [LinearOrder ι] {rank : α → ι} {x y : α} {as l : List α}

def Least (rank : α → ι) (l : List α) (x : α) : Prop := x ∈ l ∧ ∀ y ∈ l, rank x ≤ rank y

/-- The second, if it is of lesser rank. -/
def lesser (rank : α → ι) (x y : α) : α := if rank y < rank x then y else x

theorem least_foldl (rank : α → ι) (x : α) (l : List α) : Least rank (x :: l) (l.foldl (lesser rank) x) := by
  induction l generalizing x with
  | nil => exact ⟨List.mem_singleton_self x, by simp⟩
  | cons y l ih =>
    obtain ⟨hmem, hle⟩ := ih (lesser rank x y)
    obtain ⟨hfirst, hrest⟩ := List.forall_mem_cons.mp hle
    rw [List.foldl_cons]
    generalize l.foldl (lesser rank) (lesser rank x y) = z at hmem hfirst hrest
    rw [lesser] at hmem hfirst
    split at hmem
    case isTrue hlt =>
      rw [if_pos hlt] at hfirst
      refine ⟨List.mem_cons_of_mem x hmem, ?_⟩
      exact List.forall_mem_cons.mpr ⟨hfirst.trans hlt.le, List.forall_mem_cons.mpr ⟨hfirst, hrest⟩⟩
    case isFalse hge =>
      rw [if_neg hge] at hfirst
      refine ⟨?_, List.forall_mem_cons.mpr ⟨hfirst, List.forall_mem_cons.mpr
        ⟨hfirst.trans (not_lt.mp hge), hrest⟩⟩⟩
      rcases List.mem_cons.mp hmem with rfl | hmem
      · exact List.mem_cons_self
      · exact List.mem_cons_of_mem _ (List.mem_cons_of_mem _ hmem)

/-- Whichever of two entries of one rank is chosen. -/
theorem least_foldl_choice {choice : α → α → α} (hmem : ∀ x y, choice x y = x ∨ choice x y = y)
    (hleft : ∀ x y, rank (choice x y) ≤ rank x) (hright : ∀ x y, rank (choice x y) ≤ rank y)
    (x : α) (l : List α) : Least rank (x :: l) (l.foldl choice x) := by
  induction l generalizing x with
  | nil => exact ⟨List.mem_singleton_self x, by simp⟩
  | cons y l ih =>
    obtain ⟨hchosen, hle⟩ := ih (choice x y)
    obtain ⟨hfirst, hrest⟩ := List.forall_mem_cons.mp hle
    refine ⟨?_, List.forall_mem_cons.mpr ⟨hfirst.trans (hleft x y),
      List.forall_mem_cons.mpr ⟨hfirst.trans (hright x y), hrest⟩⟩⟩
    rw [List.foldl_cons]
    rcases List.mem_cons.mp hchosen with heq | hlater
    · rw [heq]
      rcases hmem x y with hx | hy
      · rw [hx]
        exact List.mem_cons_self
      · rw [hy]
        exact List.mem_cons_of_mem x List.mem_cons_self
    · exact List.mem_cons_of_mem x (List.mem_cons_of_mem y hlater)

/-- One entry of least rank stands for a list. -/
theorem Least.append_iff (hrank : Set.InjOn rank {z | z ∈ as ++ l}) (h : Least rank l x) :
    Least rank (as ++ [x]) y ↔ Least rank (as ++ l) y := by
  obtain ⟨hx, hle⟩ := h
  constructor
  · rintro ⟨hmem, hleast⟩
    have hyx : rank y ≤ rank x := hleast x (by simp)
    refine ⟨?_, List.forall_mem_append.mpr ⟨fun z hz => hleast z (by simp [hz]),
      fun z hz => hyx.trans (hle z hz)⟩⟩
    rcases List.mem_append.mp hmem with hmem | hmem
    · exact List.mem_append_left l hmem
    · rw [List.mem_singleton.mp hmem]
      exact List.mem_append_right as hx
  · rintro ⟨hmem, hleast⟩
    have hyx : rank y ≤ rank x := hleast x (by simp [hx])
    refine ⟨?_, List.forall_mem_append.mpr ⟨fun z hz => hleast z (by simp [hz]),
      fun z hz => by rwa [List.mem_singleton.mp hz]⟩⟩
    rcases List.mem_append.mp hmem with hy | hy
    · exact List.mem_append_left _ hy
    · have heq : y = x := hrank hmem (by simp [hx]) (hyx.antisymm (hle y hy))
      simp [heq]

end RpiDashboard
