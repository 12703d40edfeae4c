import Mathlib.Data.Int.Basic
import Mathlib.Data.Nat.Pairing
import Mathlib.Logic.Encodable.Basic
import Mathlib.Logic.Equiv.List
import RpiDashboard.Qt.JsonText
import RpiDashboard.Qt.TextLaws

/-! A text for every document and for every time, so that what is written is read again. -/

namespace RpiDashboard.Qt

open Numeric

section Code

def textCode (s : QString) : ℕ := Encodable.encode (utf16 s)

theorem textCode_injective : Function.Injective textCode :=
  fun _ _ h => utf16_injective (Encodable.encode_injective h)

mutual

/-- A number for each document. -/
def QJsonValue.code : QJsonValue → ℕ
  | .undefined => Nat.pair 0 0
  | .null => Nat.pair 1 0
  | .bool b => Nat.pair 2 b.toNat
  | .integer i => Nat.pair 3 i.toBitVec.toNat
  | .double d => Nat.pair 4 d.bits.toNat
  | .string s => Nat.pair 5 (textCode s)
  | .array xs => Nat.pair 6 (codeItems xs)
  | .object o => Nat.pair 7 (codeMembers o)

def codeItems : List QJsonValue → ℕ
  | [] => 0
  | x :: xs => Nat.pair x.code (codeItems xs) + 1

def codeMembers : List (QString × QJsonValue) → ℕ
  | [] => 0
  | (key, x) :: o => Nat.pair (textCode key) (Nat.pair x.code (codeMembers o)) + 1

end

mutual

theorem QJsonValue.code_inj : ∀ a b : QJsonValue, a.code = b.code → a = b
  | .undefined, b, h => by cases b <;> simp [QJsonValue.code] at h ⊢
  | .null, b, h => by cases b <;> simp [QJsonValue.code] at h ⊢
  | .bool b', b, h => by
    cases b <;> simp [QJsonValue.code] at h ⊢
    case bool c => cases b' <;> cases c <;> simp at h ⊢
  | .integer i, b, h => by
    cases b <;> simp [QJsonValue.code] at h ⊢
    exact Int64.toBitVec.inj (BitVec.eq_of_toNat_eq h)
  | .double d, b, h => by
    cases b <;> simp [QJsonValue.code] at h ⊢
    exact congrArg Double.mk (BitVec.eq_of_toNat_eq h)
  | .string s, b, h => by
    cases b <;> simp [QJsonValue.code] at h ⊢
    exact textCode_injective h
  | .array xs, b, h => by
    cases b <;> simp [QJsonValue.code] at h ⊢
    exact codeItems_inj xs _ h
  | .object o, b, h => by
    cases b <;> simp [QJsonValue.code] at h ⊢
    exact codeMembers_inj o _ h

theorem codeItems_inj : ∀ xs ys : List QJsonValue, codeItems xs = codeItems ys → xs = ys
  | [], ys, h => by cases ys <;> simp [codeItems] at h ⊢
  | x :: xs, ys, h => by
    cases ys <;> simp [codeItems] at h ⊢
    exact ⟨x.code_inj _ h.1, codeItems_inj xs _ h.2⟩

theorem codeMembers_inj : ∀ o o' : List (QString × QJsonValue),
    codeMembers o = codeMembers o' → o = o'
  | [], o', h => by cases o' <;> simp [codeMembers] at h ⊢
  | (key, x) :: o, o', h => by
    cases o' <;> simp [codeMembers] at h ⊢
    exact ⟨Prod.ext (textCode_injective h.1) (x.code_inj _ h.2.1), codeMembers_inj o _ h.2.2⟩

end

theorem QJsonValue.code_injective : Function.Injective QJsonValue.code := QJsonValue.code_inj

end Code

theorem QJsonObject.value_cases (o : QJsonObject) (key : QString) :
    o.value key = .undefined ∨ (key, o.value key) ∈ o := by
  induction o with
  | nil => exact .inl rfl
  | cons e o ih =>
    obtain ⟨k, v⟩ := e
    by_cases hk : k = key
    · right
      simp [QJsonObject.value, hk]
    · simpa [QJsonObject.value, hk, Ne.symm hk] using ih

theorem QJsonValue.Alike.refl : ∀ a : QJsonValue, a.Alike a
  | .undefined => .undefined
  | .null => .null
  | .bool b => .bool b
  | .integer _ => .number rfl rfl rfl rfl
  | .double _ => .number rfl rfl rfl rfl
  | .string s => .string s
  | .array xs => .array (List.forall₂_same.mpr fun x _ => refl x)
  | .object o => by
    refine .object (fun key => ?_) rfl
    obtain hvalue | hmem := QJsonObject.value_cases o key
    · rw [hvalue]
      exact .undefined
    · have := List.sizeOf_lt_of_mem hmem
      exact refl (QJsonObject.value o key)
decreasing_by
  · have := List.sizeOf_lt_of_mem ‹_ ∈ xs›
    simp_wf
    omega
  · simp_wf
    simp only [Prod.mk.sizeOf_spec] at this
    omega

section Reference

variable (document : QJsonValue) (text : QByteArray) (seconds : ℤ) (isoText : QString)

/-- As many zeros as the code says, but for the document that has this text. -/
def writtenJson (other : QJsonValue) : QByteArray :=
  Equiv.swap (List.replicate document.code 0) text (List.replicate other.code 0)

theorem writtenJson_self : writtenJson document text document = text := Equiv.swap_apply_left _ _

theorem writtenJson_injective : Function.Injective (writtenJson document text) := by
  intro d d' h
  have hreplicate := (Equiv.swap _ _).injective h
  exact QJsonValue.code_injective (List.replicate_left_injective _ hreplicate)

def stamp (t : ℤ) : QString := String.ofList (List.replicate (Encodable.encode t + 1) '+')

theorem stamp_injective : Function.Injective stamp := by
  intro t t' h
  have hreplicate := List.replicate_left_injective _ (String.ofList_injective h)
  exact Encodable.encode_injective (Nat.succ.inj hreplicate)

def writtenTime (other : ℤ) : QString := Equiv.swap (stamp seconds) isoText (stamp other)

theorem writtenTime_self : writtenTime seconds isoText seconds = isoText :=
  Equiv.swap_apply_left _ _

theorem writtenTime_injective : Function.Injective (writtenTime seconds isoText) := by
  intro t t' h
  exact stamp_injective ((Equiv.swap _ _).injective h)

def referenceWriter : QtWriter where
  toJson := writtenJson document text
  toIsoDate t := match t.msecs with
    | some msecs => writtenTime seconds isoText (msecs / 1000)
    | none => ""

/-- Reads what `referenceWriter` writes. -/
noncomputable def referenceText (qt : QtText) : QtText :=
  { qt with
    fromJson := Function.partialInv (writtenJson document text)
    fromIsoDate := fun s =>
      { msecs := (Function.partialInv (writtenTime seconds isoText) s).map (· * 1000) } }

theorem writtenTime_ne {t : ℤ} (h : isoText ≠ "") : writtenTime seconds isoText t ≠ "" := by
  have hstamp (t : ℤ) : stamp t ≠ "" := by simp [stamp, List.replicate_succ]
  rw [writtenTime, Equiv.swap_apply_def]
  split_ifs
  · exact h
  · exact hstamp _
  · exact hstamp _

theorem reference_roundTrips (qt : QtText) (h : isoText ≠ "") :
    (referenceWriter document text seconds isoText).RoundTrips
      (referenceText document text seconds isoText qt) where
  json d _ := ⟨d, Function.partialInv_left (writtenJson_injective document text) d, .refl d⟩
  isoDate t ht hoffset := by
    obtain ⟨msecs, offset⟩ := t
    cases msecs with
    | none => cases ht
    | some msecs =>
      cases hoffset
      simp [referenceWriter, referenceText, QDateTime.wholeSeconds,
        Function.partialInv_left (writtenTime_injective seconds isoText)]
  invalid t ht := by
    obtain ⟨msecs, offset⟩ := t
    cases msecs with
    | some => cases ht
    | none =>
      have hnone : Function.partialInv (writtenTime seconds isoText) "" = none :=
        dif_neg fun ⟨t, ht⟩ => writtenTime_ne seconds isoText h ht
      simp [referenceWriter, referenceText, hnone]

end Reference

end RpiDashboard.Qt
