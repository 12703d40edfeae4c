import Mathlib.Data.List.Basic
import Mathlib.Data.List.Infix

/-! The matches of a pattern in a text, from left to right, and a text with each of them
replaced. -/

namespace RpiDashboard

/-- How much of a text a pattern takes at its front: something, if it matches there. -/
structure Pattern (α : Type*) where
  matched : List α → Option Nat
  matched_bound : ∀ {s n}, matched s = some n → 0 < n ∧ n ≤ s.length

variable {α : Type*}

/-- Where the first match starts, and how long it is. -/
def firstMatch (pattern : Pattern α) : List α → Option (Nat × Nat)
  | [] => none
  | a :: s =>
    match pattern.matched (a :: s) with
    | some n => some (0, n)
    | none => (firstMatch pattern s).map fun (start, n) => (start + 1, n)

/-- No match starts in the text, with `after` following it. -/
def Clear (pattern : Pattern α) (text after : List α) : Prop :=
  ∀ v, v <:+ text → v ≠ [] → pattern.matched (v ++ after) = none

/-- A text cut at its matches: each with the gap before it, and what follows the last. -/
inductive Tokens (pattern : Pattern α) : List α → List (List α × List α) → List α → Prop
  | last {s : List α} : Clear pattern s [] → Tokens pattern s [] s
  | token {gap token rest last : List α} {pieces : List (List α × List α)} :
      Clear pattern gap (token ++ rest) →
      pattern.matched (token ++ rest) = some token.length →
      Tokens pattern rest pieces last →
      Tokens pattern (gap ++ (token ++ rest)) ((gap, token) :: pieces) last

/-- The gaps as they are, and what `f` makes of each token between them. -/
def replaced (f : List α → List α) (pieces : List (List α × List α)) (last : List α) : List α :=
  pieces.flatMap (fun (gap, token) => gap ++ f token) ++ last

variable {pattern : Pattern α} {s gap token rest last : List α} {pieces : List (List α × List α)}

@[simp] theorem replaced_nil {f : List α → List α} : replaced f [] last = last := rfl

@[simp] theorem replaced_cons {f : List α → List α} :
    replaced f ((gap, token) :: pieces) last = gap ++ (f token ++ replaced f pieces last) := by
  simp [replaced]

theorem clear_nil : Clear pattern [] rest := fun _ hv hne => absurd (List.suffix_nil.mp hv) hne

theorem clear_cons {a : α} :
    Clear pattern (a :: gap) rest ↔
      pattern.matched (a :: gap ++ rest) = none ∧ Clear pattern gap rest := by
  constructor
  · intro h
    exact ⟨h _ List.suffix_rfl (List.cons_ne_nil a gap),
      fun v hv => h v (hv.trans (List.suffix_cons a gap))⟩
  · rintro ⟨hfront, h⟩ v hv hne
    rcases List.suffix_cons_iff.mp hv with rfl | hv
    · exact hfront
    · exact h v hv hne

theorem firstMatch_eq_none_iff : firstMatch pattern s = none ↔ Clear pattern s [] := by
  induction s with
  | nil => exact iff_of_true rfl clear_nil
  | cons a s ih =>
    rw [clear_cons, List.append_nil, ← ih, firstMatch]
    cases pattern.matched (a :: s) <;> simp

theorem firstMatch_append (h : Clear pattern gap (token ++ rest))
    (ht : pattern.matched (token ++ rest) = some token.length) :
    firstMatch pattern (gap ++ (token ++ rest)) = some (gap.length, token.length) := by
  induction gap with
  | nil =>
    cases hs : token ++ rest with
    | nil =>
      obtain ⟨hpos, hle⟩ := pattern.matched_bound ht
      simp only [hs, List.length_nil] at hle
      omega
    | cons a s =>
      rw [hs] at ht
      simp [firstMatch, ht]
  | cons a gap ih =>
    obtain ⟨hfront, h⟩ := clear_cons.mp h
    rw [List.cons_append] at hfront
    simp [firstMatch, hfront, ih h]

theorem exists_of_firstMatch {start n : Nat} (h : firstMatch pattern s = some (start, n)) :
    ∃ gap token rest, s = gap ++ (token ++ rest) ∧ gap.length = start ∧ token.length = n ∧
      Clear pattern gap (token ++ rest) ∧ pattern.matched (token ++ rest) = some token.length := by
  induction s generalizing start with
  | nil => cases h
  | cons a s ih =>
    cases hm : pattern.matched (a :: s) with
    | some m =>
      simp only [firstMatch, hm, Option.some.injEq, Prod.mk.injEq] at h
      obtain ⟨rfl, rfl⟩ := h
      have hlength : ((a :: s).take m).length = m :=
        List.length_take_of_le (pattern.matched_bound hm).2
      refine ⟨[], (a :: s).take m, (a :: s).drop m, ?_, rfl, hlength, clear_nil, ?_⟩
      · exact (List.take_append_drop m _).symm
      · rw [List.take_append_drop, hm, hlength]
    | none =>
      simp only [firstMatch, hm, Option.map_eq_some_iff, Prod.exists, Prod.mk.injEq] at h
      obtain ⟨start, n, h, rfl, rfl⟩ := h
      obtain ⟨gap, token, rest, rfl, rfl, rfl, hclear, ht⟩ := ih h
      exact ⟨a :: gap, token, rest, rfl, rfl, rfl, clear_cons.mpr ⟨hm, hclear⟩, ht⟩

/-- Every text is cut at its matches in one way or another. -/
theorem exists_tokens (pattern : Pattern α) (s : List α) :
    ∃ pieces last, Tokens pattern s pieces last := by
  induction hlength : s.length using Nat.strong_induction_on generalizing s with
  | _ n ih =>
    cases hm : firstMatch pattern s with
    | none => exact ⟨[], s, .last (firstMatch_eq_none_iff.mp hm)⟩
    | some found =>
      obtain ⟨gap, token, rest, rfl, -, -, hclear, ht⟩ := exists_of_firstMatch hm
      have hpos := (pattern.matched_bound ht).1
      have hrest : rest.length < n := by
        simp only [List.length_append] at hlength
        omega
      obtain ⟨pieces, last, h⟩ := ih rest.length hrest rest rfl
      exact ⟨(gap, token) :: pieces, last, .token hclear ht h⟩

namespace Tokens

/-- Nothing of the text is lost. -/
theorem text (h : Tokens pattern s pieces last) : replaced id pieces last = s := by
  induction h with
  | last => rfl
  | token _ _ _ ih => rw [replaced_cons, ih, id]

theorem matched (h : Tokens pattern s pieces last) :
    ∀ piece ∈ pieces, ∃ rest, pattern.matched (piece.2 ++ rest) = some piece.2.length := by
  induction h with
  | last => nofun
  | token _ ht _ ih => exact List.forall_mem_cons.mpr ⟨⟨_, ht⟩, ih⟩

theorem length_le (h : Tokens pattern s pieces last) : pieces.length ≤ s.length := by
  induction h with
  | last => exact Nat.zero_le _
  | token _ ht _ ih =>
    have hpos := (pattern.matched_bound ht).1
    simp only [List.length_append, List.length_cons]
    omega

end Tokens

end RpiDashboard
