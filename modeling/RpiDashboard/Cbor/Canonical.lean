import RpiDashboard.Cbor.ItemLaws
import Mathlib.Data.List.Forall2
import Mathlib.Data.List.Induction

/-! Canonical encodings (RFC 8949, section 4.2.3): among the encodings of an item the
one with shortest heads, and with the keys of every map in length-first order. -/

namespace RpiDashboard.Cbor

/-- A well-formed head of major type `major` with argument `n`, of whatever width. -/
def IsHead (major n : Nat) (h : List UInt8) : Prop :=
  ∃ b tail, h = b :: tail ∧ b.toNat / 32 = major ∧ argument (b.toNat % 32) tail = some (n, [])

def IsShortestHead (major n : Nat) (h : List UInt8) : Prop :=
  IsHead major n h ∧ ∀ h', IsHead major n h' → h.length ≤ h'.length

/-- A shorter encoded key sorts earlier; among keys of one length the bytes decide. -/
def LengthFirst (a b : List UInt8) : Prop :=
  a.length < b.length ∨ a.length = b.length ∧ a < b

inductive Canonical : Item → List UInt8 → Prop
  | unsigned {n h} : IsShortestHead 0 n.toNat h → Canonical (.unsigned n) h
  | negative {n h} : IsShortestHead 1 n.toNat h → Canonical (.negative n) h
  | bytes {b h} : IsShortestHead 2 b.length h → Canonical (.bytes b) (h ++ b)
  | text {b h} : IsShortestHead 3 b.length h → Canonical (.text b) (h ++ b)
  | array {xs h bs} : IsShortestHead 4 xs.length h → List.Forall₂ Canonical xs bs →
      Canonical (.array xs) (h ++ bs.flatten)
  | map {es h} {bs : List (List UInt8 × List UInt8)} : IsShortestHead 5 es.length h →
      List.Forall₂ Canonical (es.map Prod.fst) (bs.map Prod.fst) →
      List.Forall₂ Canonical (es.map Prod.snd) (bs.map Prod.snd) →
      (bs.map Prod.fst).Pairwise LengthFirst →
      Canonical (.map es) (h ++ bs.flatMap fun b => b.1 ++ b.2)
  | tag {n h x b} : IsShortestHead 6 n.toNat h → Canonical x b → Canonical (.tag n x) (h ++ b)
  | simple {n : UInt8} : n < 24 ∨ 32 ≤ n → Canonical (.simple n) (Item.simple n).encode
  | half {f} : Canonical (.half f) (Item.half f).encode
  | single {f} : Canonical (.single f) (Item.single f).encode
  | double {f} : Canonical (.double f) (Item.double f).encode

theorem ofBigEndian_lt (bytes : List UInt8) : ofBigEndian bytes < 256 ^ bytes.length := by
  induction bytes using List.reverseRecOn with
  | nil => simp [ofBigEndian]
  | append_singleton bytes b ih =>
    have hb := b.toNat_lt
    rw [ofBigEndian, List.foldl_append, List.length_append, List.length_singleton, pow_succ]
    change ofBigEndian bytes * 256 + b.toNat < _
    omega

/-- What the width of a head says about its argument. -/
theorem width_of_argument {info n : Nat} {tail : List UInt8}
    (h : argument info tail = some (n, [])) :
    tail.length = 0 ∧ n < 24 ∨ tail.length = 1 ∧ n < 256 ∨ tail.length = 2 ∧ n < 65536 ∨
      tail.length = 4 ∧ n < 4294967296 ∨ tail.length = 8 := by
  have payload : ∀ width, (take width tail).map (Prod.map ofBigEndian id) = some (n, []) →
      tail.length = width ∧ n < 256 ^ width := by
    intro width h
    obtain ⟨rfl, rfl⟩ := take_eq_some h
    exact ⟨rfl, ofBigEndian_lt tail⟩
  unfold argument at h
  split_ifs at h with h₁ h₂ h₃ h₄ h₅
  · cases h
    exact .inl ⟨rfl, h₁⟩
  · exact .inr (.inl (payload 1 h))
  · exact .inr (.inr (.inl (payload 2 h)))
  · exact .inr (.inr (.inr (.inl (payload 4 h))))
  · exact .inr (.inr (.inr (.inr (payload 8 h).1)))

theorem isHead_head {major n : Nat} (hm : major < 8) (hn : n < 2 ^ 64) :
    IsHead major n (head major n) := by
  obtain ⟨b, tail, e, hb, harg⟩ := head_eq_cons hm hn
  refine ⟨b, tail, e, hb, ?_⟩
  simpa using harg []

theorem length_head_le_five {n : Nat} (h : n < 4294967296) (major : Nat) :
    (head major n).length ≤ 5 := by
  unfold head
  split_ifs <;> simp

/-- No head of the same type and argument is shorter. -/
theorem isShortestHead_head {major n : Nat} (hm : major < 8) (hn : n < 2 ^ 64) :
    IsShortestHead major n (head major n) := by
  refine ⟨isHead_head hm hn, ?_⟩
  rintro _ ⟨b, tail, rfl, -, harg⟩
  rw [List.length_cons]
  obtain ⟨hw, hlt⟩ | ⟨hw, hlt⟩ | ⟨hw, hlt⟩ | ⟨hw, hlt⟩ | hw := width_of_argument harg <;> rw [hw]
  · exact (length_head_of_lt hlt major).le
  · exact length_head_le_two hlt major
  · exact length_head_le_three hlt major
  · exact length_head_le_five hlt major
  · exact length_head_le_nine major n

end RpiDashboard.Cbor
