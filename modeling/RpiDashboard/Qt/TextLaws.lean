import Mathlib.Data.List.Lex
import RpiDashboard.Qt.Text

/-! Laws of the order of texts. -/

namespace RpiDashboard.Qt

/-- The code units of one character. -/
def units (c : Char) : List Nat :=
  if c.toNat < 0x10000 then [c.toNat]
  else [0xd800 + (c.toNat - 0x10000) / 0x400, 0xdc00 + (c.toNat - 0x10000) % 0x400]

theorem utf16_eq (text : QString) : utf16 text = text.toList.flatMap units := rfl

/-- A character outside the first plane starts with a unit that no character is. -/
theorem units_cancel {c d : Char} {us vs : List Nat} (h : units c ++ us = units d ++ vs) :
    c = d ∧ us = vs := by
  have hc := c.valid
  have hd := d.valid
  simp only [UInt32.isValidChar, Nat.isValidChar] at hc hd
  have hcn : c.val.toNat = c.toNat := rfl
  have hdn : d.val.toNat = d.toNat := rfl
  unfold units at h
  split at h <;> split at h
  · simp only [List.cons_append, List.nil_append, List.cons.injEq] at h
    exact ⟨Char.toNat_inj.mp h.1, h.2⟩
  · simp only [List.cons_append, List.nil_append, List.cons.injEq] at h
    omega
  · simp only [List.cons_append, List.nil_append, List.cons.injEq] at h
    omega
  · simp only [List.cons_append, List.nil_append, List.cons.injEq] at h
    exact ⟨Char.toNat_inj.mp (by omega), h.2.2⟩

theorem utf16_injective {a b : QString} (h : utf16 a = utf16 b) : a = b := by
  rw [utf16_eq, utf16_eq] at h
  refine String.toList_injective ?_
  generalize a.toList = cs at h ⊢
  generalize b.toList = ds at h ⊢
  have hne : ∀ c, units c ≠ [] := fun c => by unfold units; split <;> simp
  induction cs generalizing ds with
  | nil =>
    cases ds with
    | nil => rfl
    | cons d ds => simp [hne] at h
  | cons c cs ih =>
    cases ds with
    | nil => simp [hne] at h
    | cons d ds =>
      obtain ⟨rfl, hrest⟩ := units_cancel h
      rw [ih ds hrest]

end RpiDashboard.Qt
