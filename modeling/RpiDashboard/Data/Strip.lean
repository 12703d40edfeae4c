import Mathlib.Data.List.Basic
import Mathlib.Data.List.TakeWhile

/-! A list without the entries of a kind at its ends. -/

namespace RpiDashboard

variable {α : Type*} {p q : α → Bool} {s t before after : List α}

def strip (p : α → Bool) (s : List α) : List α :=
  ((s.dropWhile p).reverse.dropWhile p).reverse

/-- Neither end is of the kind. -/
structure Bare (p : α → Bool) (s : List α) : Prop where
  head : ∀ x ∈ s.head?, p x = false
  last : ∀ x ∈ s.getLast?, p x = false

theorem bare_of_forall (h : ∀ x ∈ s, p x = false) : Bare p s :=
  ⟨fun x hx => h x (List.mem_of_mem_head? hx), fun x hx => h x (List.mem_of_mem_getLast? hx)⟩

theorem bare_between (hs : Bare p s) (hne : s ≠ []) (ht : Bare p t) (htne : t ≠ [])
    (middle : List α) : Bare p (s ++ middle ++ t) := by
  constructor
  · rw [List.append_assoc, List.head?_append_of_ne_nil _ hne]
    exact hs.head
  · rw [List.getLast?_append_of_ne_nil _ htne]
    exact ht.last

theorem Bare.front_nil (h : Bare p (before ++ s)) (hb : ∀ x ∈ before, p x) : before = [] := by
  cases before with
  | nil => rfl
  | cons x before =>
    have hx : p x = false := h.head x rfl
    simp [hb x List.mem_cons_self] at hx

theorem Bare.back_nil (h : Bare p (s ++ after)) (ha : ∀ x ∈ after, p x) : after = [] := by
  by_contra hne
  obtain ⟨x, hx⟩ := Option.ne_none_iff_exists'.mp (mt List.getLast?_eq_none_iff.mp hne)
  have hlast : p x = false := h.last x (by rw [List.getLast?_append_of_ne_nil _ hne, hx]; rfl)
  simp [ha x (List.mem_of_getLast? hx)] at hlast

theorem dropWhile_front (hb : ∀ x ∈ before, p x) (hs : ∀ x ∈ s.head?, p x = false) :
    (before ++ s).dropWhile p = s := by
  rw [List.dropWhile_append_of_pos hb]
  cases s with
  | nil => rfl
  | cons x s =>
    have hx : p x = false := hs x rfl
    exact List.dropWhile_cons_of_neg (by simp [hx])

/-- A run of a kind ends where it does. -/
theorem run_cancel {rest rest' s' : List α} (hs : ∀ x ∈ s, p x) (hs' : ∀ x ∈ s', p x)
    (hr : ∀ x ∈ rest.head?, p x = false) (hr' : ∀ x ∈ rest'.head?, p x = false)
    (h : s ++ rest = s' ++ rest') : s = s' ∧ rest = rest' := by
  have hrest := dropWhile_front hs hr
  rw [h, dropWhile_front hs' hr'] at hrest
  subst hrest
  exact ⟨List.append_cancel_right h, rfl⟩

theorem strip_eq_nil_iff : strip p s = [] ↔ ∀ x ∈ s, p x := by
  rw [strip, List.reverse_eq_nil_iff, List.dropWhile_eq_nil_iff]
  constructor
  · intro h
    have hnil : s.dropWhile p = [] := by
      cases hd : s.dropWhile p with
      | nil => rfl
      | cons x rest =>
        have hx : p x := h x (by simp [hd])
        have hhead := List.head?_dropWhile_not p s
        simp [hd, hx] at hhead
    exact List.dropWhile_eq_nil_iff.mp hnil
  · intro h x hx
    exact h x ((List.dropWhile_suffix p).mem (List.mem_reverse.mp hx))

/-- What is taken off is of the kind, and what is left is bare. -/
theorem strip_append (hb : ∀ x ∈ before, p x) (ha : ∀ x ∈ after, p x) (hs : Bare p s) :
    strip p (before ++ s ++ after) = s := by
  cases s with
  | nil =>
    have hall : ∀ x ∈ before ++ after, p x := fun x hx =>
      (List.mem_append.mp hx).elim (hb x) (ha x)
    rw [List.append_nil]
    exact strip_eq_nil_iff.mpr hall
  | cons x s =>
    have hfront : (before ++ (x :: s ++ after)).dropWhile p = x :: s ++ after :=
      dropWhile_front hb fun y hy => hs.head y hy
    have hback : (after.reverse ++ (x :: s).reverse).dropWhile p = (x :: s).reverse := by
      refine dropWhile_front (fun y hy => ha y (List.mem_reverse.mp hy)) fun y hy => ?_
      rw [List.head?_reverse] at hy
      exact hs.last y hy
    rw [strip, List.append_assoc, hfront, List.reverse_append, hback, List.reverse_reverse]

theorem strip_of_bare (h : Bare p s) : strip p s = s := by
  have hstrip : strip p ([] ++ s ++ []) = s := strip_append (by simp) (by simp) h
  simpa using hstrip

theorem exists_strip (p : α → Bool) (s : List α) : ∃ before after,
    s = before ++ strip p s ++ after ∧ (∀ x ∈ before, p x) ∧ ∀ x ∈ after, p x := by
  have hfront := List.takeWhile_append_dropWhile (p := p) (l := s)
  have hback := List.takeWhile_append_dropWhile (p := p) (l := (s.dropWhile p).reverse)
  have hsplit : s.dropWhile p = strip p s ++ ((s.dropWhile p).reverse.takeWhile p).reverse := by
    rw [strip, ← List.reverse_append, hback, List.reverse_reverse]
  refine ⟨s.takeWhile p, ((s.dropWhile p).reverse.takeWhile p).reverse, ?_,
    fun x hx => List.mem_takeWhile_imp hx,
    fun x hx => List.mem_takeWhile_imp (List.mem_reverse.mp hx)⟩
  rw [List.append_assoc, ← hsplit, hfront]

theorem bare_strip (p : α → Bool) (s : List α) : Bare p (strip p s) := by
  constructor
  · intro x hx
    have hfront : strip p s <+: s.dropWhile p := by
      have hsuffix := List.dropWhile_suffix (l := (s.dropWhile p).reverse) p
      simpa [strip] using List.reverse_prefix.mpr hsuffix
    obtain ⟨rest, hrest⟩ := hfront
    have hhead := List.head?_dropWhile_not p s
    rw [← hrest, List.head?_append_of_ne_nil _ (List.ne_nil_of_mem (List.mem_of_mem_head? hx))]
      at hhead
    simpa [Option.mem_def.mp hx] using hhead
  · intro x hx
    have hlast := List.head?_dropWhile_not p (s.dropWhile p).reverse
    rw [strip, List.getLast?_reverse] at hx
    simpa [Option.mem_def.mp hx] using hlast

/-- If what one kind leaves has bare ends for another that the list has more of, both leave it. -/
theorem strip_mono (hpq : ∀ x ∈ s, p x → q x) (h : Bare q (strip p s)) : strip q s = strip p s := by
  obtain ⟨before, after, hsplit, hb, ha⟩ := exists_strip p s
  have hmem : ∀ x, x ∈ before ∨ x ∈ after → x ∈ s := by
    intro x hx
    rw [hsplit]
    rcases hx with hx | hx <;> simp [hx]
  have hstrip : strip q (before ++ strip p s ++ after) = strip p s :=
    strip_append (fun x hx => hpq x (hmem x (.inl hx)) (hb x hx))
      (fun x hx => hpq x (hmem x (.inr hx)) (ha x hx)) h
  rwa [← hsplit] at hstrip

end RpiDashboard
