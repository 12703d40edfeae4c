import Mathlib.Algebra.Group.Nat.Defs
import Mathlib.Data.List.Basic

/-! UTF-8 by its grammar, and the sequences that only have the right form: a lead byte and as
many continuation bytes as it announces. -/

namespace RpiDashboard.Utf8

def within (low high b : UInt8) : Bool := low ≤ b && b ≤ high

def tail (b : UInt8) : Bool := within 0x80 0xbf b

/-- A character of the grammar: no longer than it must be, no surrogate and nothing above
U+10FFFF. -/
def character : List UInt8 → Bool
  | [a] => a ≤ 0x7f
  | [a, b] => within 0xc2 0xdf a && tail b
  | [a, b, c] =>
    (a = 0xe0 && within 0xa0 0xbf b || within 0xe1 0xec a && tail b ||
      a = 0xed && within 0x80 0x9f b || within 0xee 0xef a && tail b) && tail c
  | [a, b, c, d] =>
    (a = 0xf0 && within 0x90 0xbf b || within 0xf1 0xf3 a && tail b ||
      a = 0xf4 && within 0x80 0x8f b) && tail c && tail d
  | _ => false

def WellFormed (s : List UInt8) : Prop :=
  ∃ cs : List (List UInt8), cs.flatten = s ∧ ∀ c ∈ cs, character c

/-- How many continuation bytes a lead byte announces. -/
def announced (a : UInt8) : Option Nat :=
  if a ≤ 0x7f then some 0
  else if within 0xc0 0xdf a then some 1
  else if within 0xe0 0xef a then some 2
  else if within 0xf0 0xf7 a then some 3
  else none

def sequence : List UInt8 → Bool
  | [] => false
  | a :: t => announced a = some t.length && t.all tail

/-- The bits that a sequence carries. -/
def codePoint : List UInt8 → Nat
  | [] => 0
  | [a] => a.toNat
  | a :: t => t.foldl (fun n b => n * 0x40 + b.toNat % 0x40) (a.toNat % 2 ^ (6 - t.length))

/-- The first code point that needs so many bytes. -/
def least : Nat → Nat
  | 2 => 0x80
  | 3 => 0x800
  | 4 => 0x10000
  | _ => 0

/-- The shortest form of a scalar value. -/
def Proper (c : List UInt8) : Prop := least c.length ≤ codePoint c ∧ (codePoint c).isValidChar

theorem within_iff {low high b : UInt8} :
    within low high b ↔ low.toNat ≤ b.toNat ∧ b.toNat ≤ high.toNat := by
  simp [within, UInt8.le_iff_toNat_le]

theorem tail_iff {b : UInt8} : tail b ↔ 0x80 ≤ b.toNat ∧ b.toNat ≤ 0xbf :=
  within_iff

theorem announced_eq_some {a : UInt8} {n : Nat} : announced a = some n ↔
    (n = 0 ∧ a.toNat ≤ 0x7f) ∨ (n = 1 ∧ 0xc0 ≤ a.toNat ∧ a.toNat ≤ 0xdf) ∨
      (n = 2 ∧ 0xe0 ≤ a.toNat ∧ a.toNat ≤ 0xef) ∨ (n = 3 ∧ 0xf0 ≤ a.toNat ∧ a.toNat ≤ 0xf7) := by
  unfold announced
  simp only [within_iff, UInt8.le_iff_toNat_le, UInt8.reduceToNat]
  split_ifs <;> simp <;> omega

theorem sequence_cons {a : UInt8} {t : List UInt8} :
    sequence (a :: t) ↔ announced a = some t.length ∧ ∀ b ∈ t, tail b := by
  simp [sequence]

/-- The characters are the sequences that are the shortest form of a scalar value. -/
theorem character_iff {c : List UInt8} : character c ↔ sequence c ∧ Proper c := by
  match c with
  | [] => simp [character, sequence]
  | [a] =>
    have := a.toNat_lt
    simp [sequence, announced_eq_some, character, Proper, least, codePoint, Nat.isValidChar,
      UInt8.le_iff_toNat_le]
    omega
  | [a, b] =>
    have := a.toNat_lt
    simp [sequence, announced_eq_some, character, Proper, least, codePoint, Nat.isValidChar,
      tail_iff, within_iff]
    omega
  | [a, b, c] =>
    have := a.toNat_lt
    simp [sequence, announced_eq_some, character, Proper, least, codePoint, Nat.isValidChar,
      tail_iff, within_iff, ← UInt8.toNat_inj]
    omega
  | [a, b, c, d] =>
    have := a.toNat_lt
    simp [sequence, announced_eq_some, character, Proper, least, codePoint, Nat.isValidChar,
      tail_iff, within_iff, ← UInt8.toNat_inj]
    omega
  | a :: b :: c :: d :: e :: t => simp [sequence, announced_eq_some, character]

/-- A lead byte says where its sequence ends. -/
theorem append_inj {c d s t : List UInt8} (hc : sequence c) (hd : sequence d)
    (h : c ++ s = d ++ t) : c = d ∧ s = t := by
  cases c with
  | nil => cases hc
  | cons a c =>
    cases d with
    | nil => cases hd
    | cons b d =>
      obtain ⟨rfl, happend⟩ := List.cons.inj h
      have hlength : c.length = d.length :=
        Option.some.inj ((sequence_cons.mp hc).1.symm.trans (sequence_cons.mp hd).1)
      obtain ⟨rfl, rfl⟩ := List.append_inj happend hlength
      exact ⟨rfl, rfl⟩

theorem flatten_inj {cs ds : List (List UInt8)} (hcs : ∀ c ∈ cs, sequence c)
    (hds : ∀ d ∈ ds, sequence d) (h : cs.flatten = ds.flatten) : cs = ds := by
  induction cs generalizing ds with
  | nil =>
    cases ds with
    | nil => rfl
    | cons d ds =>
      obtain ⟨rfl, -⟩ := List.append_eq_nil_iff.mp h.symm
      cases (List.forall_mem_cons.mp hds).1
  | cons c cs ih =>
    obtain ⟨hc, hcs⟩ := List.forall_mem_cons.mp hcs
    cases ds with
    | nil =>
      obtain ⟨rfl, -⟩ := List.append_eq_nil_iff.mp h
      cases hc
    | cons d ds =>
      obtain ⟨hd, htail⟩ := List.forall_mem_cons.mp hds
      obtain ⟨rfl, hrest⟩ := append_inj hc hd h
      rw [ih hcs htail hrest]

/-- A text that is divided into sequences is well formed just if they all are characters. -/
theorem wellFormed_flatten {cs : List (List UInt8)} (h : ∀ c ∈ cs, sequence c) :
    WellFormed cs.flatten ↔ ∀ c ∈ cs, Proper c := by
  constructor
  case mp =>
    rintro ⟨ds, hflatten, hds⟩
    obtain rfl := flatten_inj (fun d hd => (character_iff.mp (hds d hd)).1) h hflatten
    exact fun c hc => (character_iff.mp (hds c hc)).2
  case mpr =>
    exact fun hproper => ⟨cs, rfl, fun c hc => character_iff.mpr ⟨h c hc, hproper c hc⟩⟩

end RpiDashboard.Utf8
