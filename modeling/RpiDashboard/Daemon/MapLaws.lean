import RpiDashboard.Daemon.Value

/-! Laws of `std::map` as the list of its entries in the order of their keys. -/

namespace RpiDashboard.Daemon.StdMap

/-- The representation invariant: the keys increase strictly. -/
def Ordered (m : StdMap) : Prop := (m.map Prod.fst).Pairwise (· < ·)
  deriving Decidable

variable {m : StdMap} {key key' : StdString} {value : Value} {e : StdString × Value}

theorem ordered_nil : Ordered [] := List.Pairwise.nil

theorem ordered_cons : Ordered (e :: m) ↔ (∀ d ∈ m, e.1 < d.1) ∧ Ordered m := by
  simp [Ordered]

theorem Ordered.nodup (h : Ordered m) : (m.map Prod.fst).Nodup :=
  List.Pairwise.imp (S := (· ≠ ·)) (fun hlt heq => List.lt_irrefl _ (heq ▸ hlt)) h

theorem mem_of_mem_assign (h : e ∈ assign m key value) : e = (key, value) ∨ e ∈ m := by
  induction m with
  | nil => simpa [assign] using h
  | cons d m ih =>
    rw [assign] at h
    split_ifs at h
    · simp only [List.mem_cons] at h ⊢
      tauto
    · simpa using h
    · simp only [List.mem_cons] at h ⊢
      rcases h with h | h
      · exact .inr (.inl h)
      · exact (ih h).imp_right .inr

theorem Ordered.assign (h : Ordered m) : Ordered (assign m key value) := by
  induction m with
  | nil => simp [StdMap.assign, Ordered]
  | cons d m ih =>
    obtain ⟨hlt, hm⟩ := ordered_cons.mp h
    rw [StdMap.assign]
    split_ifs with heq hkey
    · exact ordered_cons.mpr ⟨fun c hc => heq ▸ hlt c hc, hm⟩
    · refine ordered_cons.mpr ⟨?_, h⟩
      intro c hc
      rcases List.mem_cons.mp hc with rfl | hc
      · exact hkey
      · exact List.lt_trans hkey (hlt c hc)
    · refine ordered_cons.mpr ⟨?_, ih hm⟩
      intro c hc
      rcases mem_of_mem_assign hc with rfl | hc
      · have hle : d.1 ≤ key := List.not_lt.mp hkey
        by_contra hnot
        exact heq (List.le_antisymm hle (List.not_lt.mp hnot))
      · exact hlt c hc

@[simp] theorem find_nil : find [] key = none := rfl

theorem find_cons : find (e :: m) key = if e.1 = key then some e.2 else find m key := rfl

theorem find_assign :
    (assign m key value).find key' = if key = key' then some value else m.find key' := by
  induction m with
  | nil => simp [assign, find]
  | cons d m ih =>
    rw [assign]
    split_ifs with h₁ h₂ <;> simp only [find_cons, ih] <;> split_ifs <;> simp_all

/-- A key that is new is put among the others. -/
theorem assign_perm (h : key ∉ m.map Prod.fst) : (assign m key value).Perm ((key, value) :: m) := by
  induction m with
  | nil => rfl
  | cons d m ih =>
    simp only [List.map_cons, List.mem_cons, not_or] at h
    rw [assign, if_neg fun he => h.1 he.symm]
    split
    · rfl
    · exact ((ih h.2).cons d).trans (.swap _ _ _)

/-- The order of the entries is determined by their keys. -/
theorem Ordered.eq_of_perm {l : StdMap} (hl : Ordered l) (hm : Ordered m) (h : l.Perm m) :
    l = m := by
  induction l generalizing m with
  | nil => exact h.nil_eq
  | cons d l ih =>
    cases m with
    | nil => exact absurd h.eq_nil (List.cons_ne_nil d l)
    | cons c m =>
      obtain ⟨hd, hls⟩ := ordered_cons.mp hl
      obtain ⟨hc, hms⟩ := ordered_cons.mp hm
      have hdc : d = c := by
        rcases List.mem_cons.mp (h.mem_iff.mp List.mem_cons_self) with heq | hmem
        · exact heq
        rcases List.mem_cons.mp (h.mem_iff.mpr List.mem_cons_self) with heq | hmem'
        · exact heq.symm
        exact absurd (hc d hmem) (List.lt_asymm (hd c hmem'))
      subst hdc
      exact congrArg (d :: ·) (ih hls hms ((List.perm_cons d).mp h))

end RpiDashboard.Daemon.StdMap
