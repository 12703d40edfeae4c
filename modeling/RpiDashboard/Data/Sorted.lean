import Mathlib.Data.List.Sort

/-! Sorting by a key in a linear order. -/

namespace RpiDashboard

variable {α β : Type*} [LinearOrder β] (f : α → β)

def sortOn (xs : List α) : List α := xs.insertionSort fun a b => f a ≤ f b

theorem sortOn_perm (xs : List α) : (sortOn f xs).Perm xs := List.perm_insertionSort _ xs

theorem sortOn_pairwise (xs : List α) : (sortOn f xs).Pairwise fun a b => f a ≤ f b := by
  have : Std.Total fun a b => f a ≤ f b := ⟨fun a b => le_total (f a) (f b)⟩
  have : IsTrans α fun a b => f a ≤ f b := ⟨fun _ _ _ => le_trans⟩
  exact List.pairwise_insertionSort _ xs

/-- Where the keys are different, the order of what is sorted does not matter. -/
theorem sortOn_eq_of_perm {xs ys : List α} (h : xs.Perm ys)
    (hf : ∀ a ∈ xs, ∀ b ∈ xs, f a = f b → a = b) : sortOn f xs = sortOn f ys := by
  refine List.Perm.eq_of_pairwise ?_ (sortOn_pairwise f xs) (sortOn_pairwise f ys) ?_
  · intro a b ha hb hab hba
    have hb' : b ∈ xs := h.mem_iff.mpr ((sortOn_perm f ys).mem_iff.mp hb)
    exact hf a ((sortOn_perm f xs).mem_iff.mp ha) b hb' (le_antisymm hab hba)
  · exact (sortOn_perm f xs).trans (h.trans (sortOn_perm f ys).symm)

/-- A comparison that goes by the key sorts by the key. -/
theorem insertionSort_eq_sortOn {r : α → α → Prop} [DecidableRel r] {xs : List α}
    (h : ∀ a ∈ xs, ∀ b ∈ xs, r a b ↔ f a ≤ f b) : xs.insertionSort r = sortOn f xs := by
  have hmap := List.map_insertionSort r (fun a b => f a ≤ f b) id xs h
  rwa [List.map_id, List.map_id] at hmap

end RpiDashboard
