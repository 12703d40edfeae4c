import Mathlib.Data.List.Basic
import Mathlib.Data.List.TakeWhile

/-! Lists from whose front old entries are dropped, all but the last of them. -/

namespace RpiDashboard

variable {α : Type*}

/-- In a list that is old up to somewhere, what is left after the old front is not old. -/
theorem dropWhile_eq_filter {old : α → Bool} {l : List α} (h : l.Pairwise fun x y => old y → old x) :
    l.dropWhile old = l.filter fun x => !old x := by
  induction l with
  | nil => rfl
  | cons x l ih =>
    obtain ⟨hx, hl⟩ := List.pairwise_cons.mp h
    cases hold : old x with
    | true => rw [List.dropWhile_cons_of_pos hold, ih hl, List.filter_cons_of_neg (by simp [hold])]
    | false =>
      have hnone : ∀ y ∈ x :: l, !old y := by
        refine List.forall_mem_cons.mpr ⟨by simp [hold], fun y hy => ?_⟩
        cases hy' : old y with
        | true => rw [hx y hy hy'] at hold; cases hold
        | false => rfl
      rw [List.dropWhile_cons_of_neg (by simp [hold]), List.filter_eq_self.mpr hnone]

/-- What is kept is the end of what has been seen, with every entry that is not old and
the one before these. -/
structure Covers (old : α → Prop) (seen kept : List α) : Prop where
  suffix : kept <:+ seen
  inside : ∀ front x rest, seen = front ++ x :: rest → ¬ old x → x :: rest <:+ kept
  predecessor : ∀ front x rest, seen = front ++ x :: rest → old x → (∀ y ∈ rest, ¬ old y) →
    x :: rest <:+ kept

/-- Only old entries are dropped, and only with an old one left in front. -/
structure Dropped (old : α → Prop) (dropped kept : List α) : Prop where
  allOld : ∀ x ∈ dropped, old x
  front : dropped ≠ [] → ∃ x ∈ kept.head?, old x

namespace Dropped

variable {old : α → Prop} {dropped dropped' kept : List α}

theorem nil (old : α → Prop) (kept : List α) : Dropped old [] kept where
  allOld _ hx := absurd hx List.not_mem_nil
  front h := absurd rfl h

theorem mono {older : α → Prop} (h : Dropped older dropped kept) (hold : ∀ x, older x → old x) :
    Dropped old dropped kept where
  allOld x hx := hold x (h.allOld x hx)
  front hne := (h.front hne).imp fun x hx => ⟨hx.1, hold x hx.2⟩

theorem append (h : Dropped old dropped kept) (more : List α) :
    Dropped old dropped (kept ++ more) where
  allOld := h.allOld
  front hne := by
    obtain ⟨x, hx, hold⟩ := h.front hne
    refine ⟨x, ?_, hold⟩
    rw [List.head?_append, Option.mem_def.mp hx]
    rfl

theorem trans (h : Dropped old dropped (dropped' ++ kept)) (h' : Dropped old dropped' kept) :
    Dropped old (dropped ++ dropped') kept where
  allOld := List.forall_mem_append.mpr ⟨h.allOld, h'.allOld⟩
  front hne := by
    by_cases hnil : dropped' = []
    · subst hnil
      exact h.front (by simpa using hne)
    · exact h'.front hnil

theorem suffix_or_mem {front rest : List α} {x : α} (h : dropped ++ kept = front ++ x :: rest) :
    x :: rest <:+ kept ∨ x ∈ dropped ∧ kept <:+ rest := by
  rcases List.append_eq_append_iff.mp h with ⟨mid, -, hkept⟩ | ⟨mid, hdropped, hrest⟩
  · exact .inl ⟨mid, hkept.symm⟩
  · cases mid with
    | nil => exact .inl ⟨[], by simpa using hrest⟩
    | cons y mid =>
      obtain ⟨rfl, rfl⟩ := List.cons.inj hrest
      exact .inr ⟨by simp [hdropped], List.suffix_append mid kept⟩

theorem covers (h : Dropped old dropped kept) : Covers old (dropped ++ kept) kept where
  suffix := List.suffix_append dropped kept
  inside front x rest hseen hx := by
    rcases suffix_or_mem hseen with hkept | ⟨hdropped, -⟩
    · exact hkept
    · exact absurd (h.allOld x hdropped) hx
  predecessor front x rest hseen hx hrest := by
    rcases suffix_or_mem hseen with hkept | ⟨hdropped, hsuffix⟩
    · exact hkept
    · obtain ⟨y, hy, hold⟩ := h.front (List.ne_nil_of_mem hdropped)
      exact absurd hold (hrest y (hsuffix.mem (List.mem_of_mem_head? hy)))

end Dropped

/-- A list without its leading old entries, except for the last of these. -/
theorem exists_dropped (p : α → Bool) (xs : List α) :
    ∃ dropped, xs = dropped ++ xs.drop ((xs.takeWhile p).length - 1) ∧
      Dropped (p · = true) dropped (xs.drop ((xs.takeWhile p).length - 1)) := by
  refine ⟨xs.take ((xs.takeWhile p).length - 1), (List.take_append_drop _ _).symm, ?_⟩
  have hsplit : xs.takeWhile p ++ xs.dropWhile p = xs := List.takeWhile_append_dropWhile
  have hold : ∀ x ∈ xs.takeWhile p, p x = true := fun x hx => List.mem_takeWhile_imp hx
  generalize xs.takeWhile p = olds at hsplit hold
  rcases List.eq_nil_or_concat olds with rfl | ⟨front, x, rfl⟩
  · exact .nil _ _
  · rw [← hsplit]
    simp only [List.concat_eq_append, List.forall_mem_append, List.forall_mem_singleton] at hold
    simpa using (⟨hold.1, fun _ => ⟨x, rfl, hold.2⟩⟩ :
      Dropped (p · = true) front (x :: xs.dropWhile p))

end RpiDashboard
