import Mathlib.Data.List.Nodup

/-! Lists whose entries carry a key.  Every operation acts on the first entry with
the key it is given. -/

namespace RpiDashboard.Keyed

variable {α κ : Type*} [DecidableEq κ] (key : α → κ)

def find (k : κ) (l : List α) : Option α := l.find? fun x => key x = k

def modify (k : κ) (f : α → α) : List α → List α
  | [] => []
  | x :: xs => if key x = k then f x :: xs else x :: modify k f xs

def erase (k : κ) (l : List α) : List α := l.eraseP fun x => key x = k

variable {key} {k k' : κ} {f : α → α} {l : List α} {x : α}

@[simp] theorem find_nil : find key k [] = none := rfl

theorem find_cons : find key k (x :: l) = if key x = k then some x else find key k l := by
  simp only [find, List.find?_cons]
  split <;> simp_all

theorem key_of_find (h : find key k l = some x) : key x = k := by
  simpa using List.find?_some h

theorem mem_of_find (h : find key k l = some x) : x ∈ l := List.mem_of_find?_eq_some h

theorem find_eq_none : find key k l = none ↔ k ∉ l.map key := by
  simp [find, List.find?_eq_none]

theorem find_of_mem (hl : (l.map key).Nodup) (h : x ∈ l) : find key (key x) l = some x := by
  induction l with
  | nil => cases h
  | cons y ys ih =>
    rw [List.map_cons, List.nodup_cons] at hl
    rw [find_cons]
    rcases List.mem_cons.mp h with rfl | h
    · exact if_pos rfl
    · have hne : key y ≠ key x := fun e => hl.1 (e ▸ List.mem_map_of_mem h)
      rw [if_neg hne]
      exact ih hl.2 h

theorem find_perm {m : List α} (hl : (l.map key).Nodup) (h : m.Perm l) :
    find key k m = find key k l := by
  cases hfind : find key k l with
  | none =>
    rw [find_eq_none] at hfind ⊢
    exact fun hk => hfind ((h.map key).mem_iff.mp hk)
  | some x =>
    have hm : (m.map key).Nodup := (h.map key).nodup_iff.mpr hl
    have hx := find_of_mem hm (h.mem_iff.mpr (mem_of_find hfind))
    rwa [key_of_find hfind] at hx

theorem find_map (hf : ∀ x, key (f x) = key x) : find key k (l.map f) = (find key k l).map f := by
  induction l with
  | nil => rfl
  | cons y ys ih =>
    rw [List.map_cons, find_cons, find_cons, hf, ih]
    split <;> rfl

theorem find_append_singleton :
    find key k (l ++ [x]) = (find key k l).or (if key x = k then some x else none) := by
  induction l with
  | nil => simp [find_cons]
  | cons y ys ih =>
    rw [List.cons_append, find_cons, find_cons, ih]
    split <;> rfl

/-- The first entry with the key is the one that is modified. -/
theorem modify_eq : modify key k f l = l.modify (l.findIdx fun x => key x = k) f := by
  induction l with
  | nil => rfl
  | cons y ys ih =>
    rw [modify, List.findIdx_cons]
    by_cases h : key y = k
    case pos => simp [h]
    case neg => simp [h, ih]

theorem exists_modify_eq_set (h : find key k l = some x) :
    ∃ i < l.length, modify key k f l = l.set i (f x) := by
  induction l with
  | nil => cases h
  | cons y ys ih =>
    rw [find_cons] at h
    rw [modify]
    split at h
    case isTrue hy =>
      obtain rfl := Option.some.inj h
      exact ⟨0, Nat.succ_pos _, if_pos hy⟩
    case isFalse hy =>
      obtain ⟨i, hi, heq⟩ := ih h
      exact ⟨i + 1, Nat.succ_lt_succ hi, by rw [if_neg hy, heq, List.set_cons_succ]⟩

theorem key_of_findIdx {i : Nat} (hi : l.findIdx (fun x => key x = k) = i) (hx : l[i]? = some x) :
    key x = k := by
  obtain ⟨hlt, hget⟩ := List.getElem?_eq_some_iff.mp hx
  have hfound := List.findIdx_getElem (w := hi ▸ hlt)
  simpa [hi, hget] using hfound

/-- What the change leaves alone in every entry is as before. -/
theorem map_modify {β : Type*} {g : α → β} (hf : ∀ x, g (f x) = g x) :
    (modify key k f l).map g = l.map g := by
  induction l with
  | nil => rfl
  | cons y ys ih =>
    rw [modify]
    split <;> simp [hf, ih]

theorem map_key_modify (hf : ∀ x, key (f x) = key x) : (modify key k f l).map key = l.map key :=
  map_modify hf

theorem find_modify_self (hf : ∀ x, key (f x) = key x) :
    find key k (modify key k f l) = (find key k l).map f := by
  induction l with
  | nil => rfl
  | cons y ys ih =>
    rw [modify, find_cons]
    split
    · rename_i h
      rw [find_cons, hf, if_pos h]
      rfl
    · rename_i h
      rw [find_cons, if_neg h, ih]

theorem find_modify_of_ne (hf : ∀ x, key (f x) = key x) (h : k' ≠ k) :
    find key k' (modify key k f l) = find key k' l := by
  induction l with
  | nil => rfl
  | cons y ys ih =>
    rw [modify]
    split
    · rename_i hy
      have hne : key y ≠ k' := hy ▸ h.symm
      rw [find_cons, find_cons, hf, if_neg hne, if_neg hne]
    · rw [find_cons, find_cons, ih]

theorem erase_cons : erase key k (x :: l) = if key x = k then l else x :: erase key k l := by
  simp only [erase, List.eraseP_cons]
  split <;> simp_all

theorem map_key_erase : (erase key k l).map key = (l.map key).erase k := by
  induction l with
  | nil => rfl
  | cons y ys ih =>
    rw [erase_cons, List.map_cons, List.erase_cons]
    split <;> simp_all

theorem find_erase_of_ne (h : k' ≠ k) : find key k' (erase key k l) = find key k' l := by
  induction l with
  | nil => rfl
  | cons y ys ih =>
    rw [erase_cons, find_cons]
    split
    · rename_i hy
      rw [if_neg (hy ▸ h.symm)]
    · rw [find_cons, ih]

theorem find_erase_self (hl : (l.map key).Nodup) : find key k (erase key k l) = none := by
  induction l with
  | nil => rfl
  | cons y ys ih =>
    rw [List.map_cons, List.nodup_cons] at hl
    rw [erase_cons]
    split
    · rename_i hy
      exact find_eq_none.mpr (hy ▸ hl.1)
    · rename_i hy
      rw [find_cons, if_neg hy]
      exact ih hl.2

end RpiDashboard.Keyed
