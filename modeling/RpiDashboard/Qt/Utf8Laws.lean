import RpiDashboard.Qt.ValueLaws
import Mathlib.Data.List.Forall2

/-! Which bytes are UTF-8: the ASCII characters of a text can be exchanged or left out. -/

namespace RpiDashboard.Qt

def encodeChars (cs : List Char) : QByteArray := cs.flatMap String.utf8EncodeChar

theorem toUtf8_eq_encodeChars (s : QString) : toUtf8 s = encodeChars s.toList := by
  rw [toUtf8, ← String.utf8Encode_toList, List.utf8Encode, encodeChars]
  simp

theorem isSome_fromUtf8? {b : QByteArray} : (fromUtf8? b).isSome ↔ ∃ cs, b = encodeChars cs := by
  constructor
  case mp =>
    intro h
    obtain ⟨s, hs⟩ := Option.isSome_iff_exists.mp h
    exact ⟨s.toList, by rw [fromUtf8?_eq_some.mp hs, toUtf8_eq_encodeChars]⟩
  case mpr =>
    rintro ⟨cs, rfl⟩
    have htext : encodeChars cs = toUtf8 (String.ofList cs) := by
      rw [toUtf8_eq_encodeChars, String.toList_ofList]
    rw [htext, fromUtf8?_toUtf8]
    rfl

/-- A character is one byte of ASCII or none of its bytes is. -/
theorem utf8EncodeChar_cases (c : Char) :
    (∃ b, b < 0x80 ∧ String.utf8EncodeChar c = [b]) ∨
      ∀ b ∈ String.utf8EncodeChar c, 0x80 ≤ b := by
  have hc : c.val.toNat < 0x110000 := by
    rcases c.valid with h | h <;> omega
  rw [String.utf8EncodeChar]
  generalize c.val.toNat = v at hc
  split_ifs
  · refine .inl ⟨_, ?_, rfl⟩
    simp [UInt8.lt_iff_toNat_lt]
    omega
  all_goals
    refine .inr ?_
    simp [UInt8.le_iff_toNat_le]
    omega

theorem exists_utf8EncodeChar {b : UInt8} (h : b < 0x80) :
    ∃ c, String.utf8EncodeChar c = [b] := by
  have hb : b.toNat < 0x80 := UInt8.lt_iff_toNat_lt.mp h
  have hval : (Char.ofUInt8 b).val.toNat = b.toNat := b.toNat_toUInt32
  refine ⟨Char.ofUInt8 b, ?_⟩
  rw [String.utf8EncodeChar, hval, if_pos (by omega)]
  simp

/-- The bytes are the same, or both are ASCII. -/
def Exchanges (a b : UInt8) : Prop := a = b ∨ (a < 0x80 ∧ b < 0x80)

theorem Exchanges.symm {a b : UInt8} (h : Exchanges a b) : Exchanges b a :=
  h.imp Eq.symm And.symm

theorem eq_of_forall₂_exchanges {t u : QByteArray} (h : List.Forall₂ Exchanges u t)
    (ht : ∀ b ∈ t, 0x80 ≤ b) : u = t := by
  induction h with
  | nil => rfl
  | @cons a b u t hab _ ih =>
    obtain ⟨hb, htail⟩ := List.forall_mem_cons.mp ht
    rcases hab with rfl | ⟨-, hlt⟩
    · rw [ih htail]
    · exact absurd hlt (UInt8.not_lt.mpr hb)

theorem encodeChars_exchanges {cs : List Char} {u : QByteArray}
    (h : List.Forall₂ Exchanges u (encodeChars cs)) : ∃ ds, u = encodeChars ds := by
  induction cs generalizing u with
  | nil =>
    cases h
    exact ⟨[], rfl⟩
  | cons c cs ih =>
    rw [encodeChars, List.flatMap_cons] at h
    have hfirst := List.forall₂_take_append _ _ _ h
    obtain ⟨ds, hds⟩ := ih (List.forall₂_drop_append _ _ _ h)
    obtain ⟨d, hd⟩ : ∃ d, u.take (String.utf8EncodeChar c).length = String.utf8EncodeChar d := by
      rcases utf8EncodeChar_cases c with ⟨b, hb, hc⟩ | hhigh
      · rw [hc] at hfirst ⊢
        cases u with
        | nil => cases hfirst
        | cons a u =>
          have hab : Exchanges a b := by simpa using hfirst
          have ha : a < 0x80 := by
            rcases hab with rfl | ⟨ha, -⟩
            · exact hb
            · exact ha
          obtain ⟨d, hd⟩ := exists_utf8EncodeChar ha
          exact ⟨d, by simp [hd]⟩
      · exact ⟨c, eq_of_forall₂_exchanges hfirst hhigh⟩
    refine ⟨d :: ds, ?_⟩
    rw [encodeChars, List.flatMap_cons, ← hd]
    conv_lhs => rw [← List.take_append_drop (String.utf8EncodeChar c).length u, hds]
    rfl

theorem isSome_fromUtf8?_of_exchanges {t u : QByteArray} (h : List.Forall₂ Exchanges u t)
    (ht : (fromUtf8? t).isSome) : (fromUtf8? u).isSome := by
  obtain ⟨cs, rfl⟩ := isSome_fromUtf8?.mp ht
  exact isSome_fromUtf8?.mpr (encodeChars_exchanges h)

/-- An ASCII character in front can be left out. -/
theorem isSome_fromUtf8?_of_cons {b : UInt8} {t : QByteArray} (hb : b < 0x80)
    (ht : (fromUtf8? (b :: t)).isSome) : (fromUtf8? t).isSome := by
  obtain ⟨cs, hcs⟩ := isSome_fromUtf8?.mp ht
  refine isSome_fromUtf8?.mpr ?_
  cases cs with
  | nil => cases hcs
  | cons c cs =>
    rw [encodeChars, List.flatMap_cons] at hcs
    rcases utf8EncodeChar_cases c with ⟨a, -, hc⟩ | hhigh
    · rw [hc, List.singleton_append, List.cons.injEq] at hcs
      exact ⟨cs, hcs.2⟩
    · cases hbytes : String.utf8EncodeChar c with
      | nil => exact absurd hbytes (String.utf8EncodeChar_ne_nil)
      | cons a bytes =>
        rw [hbytes] at hcs hhigh
        cases hcs
        exact absurd hb (UInt8.not_lt.mpr (hhigh b List.mem_cons_self))

end RpiDashboard.Qt
