import RpiDashboard.Cbor.Grammar
import RpiDashboard.Qt.ValueLaws
import Mathlib.Algebra.Order.BigOperators.Group.List

/-! A reader and writer that meet `QtCbor.Rfc8949`: maps are written in insertion
order, the first item of a buffer is read, and integers beyond 64 signed bits
become doubles. -/

namespace RpiDashboard.Qt

open Numeric Cbor

def ofSimple (n : UInt8) : QCborValue :=
  if n = 20 then .boolean false
  else if n = 21 then .boolean true
  else if n = 22 then .null
  else if n = 23 then .undefined
  else .simpleType n

mutual
def QCborValue.ofItem : Item → Option QCborValue
  | .unsigned n =>
    some (if n.toNat < 2 ^ 63 then .integer (Int64.ofInt n.toNat) else .double (Double.ofInt n.toNat))
  | .negative n =>
    some (if n.toNat < 2 ^ 63 then .integer (Int64.ofInt (-1 - n.toNat))
      else .double (Double.ofInt (-1 - n.toNat)))
  | .bytes b => some (.byteArray b)
  | .text b => (fromUtf8? b).map .string
  | .array xs => (ofItems xs).map .array
  | .map es => (ofEntries es).map .map
  | .tag n x => (QCborValue.ofItem x).map (.tag n)
  | .simple n => some (ofSimple n)
  | .half f => some (.double (Double.widen 5 10 f.toNat))
  | .single f => some (.double (Double.widen 8 23 f.toNat))
  | .double f => some (.double ⟨f⟩)

def ofItems : List Item → Option (List QCborValue)
  | [] => some []
  | x :: xs => return (← QCborValue.ofItem x) :: (← ofItems xs)

def ofEntries : List (Item × Item) → Option QCborMap
  | [] => some []
  | (k, v) :: es => return (← QCborValue.ofItem k, ← QCborValue.ofItem v) :: (← ofEntries es)
end

theorem ofItems_eq_some {xs : List Item} {ys : List QCborValue} (h : ofItems xs = some ys) :
    List.Forall₂ (fun x y => QCborValue.ofItem x = some y) xs ys := by
  induction xs generalizing ys with
  | nil =>
    cases h
    exact .nil
  | cons x xs ih =>
    simp only [ofItems, Option.bind_eq_bind, Option.bind_eq_some_iff, Option.pure_def,
      Option.some.injEq] at h
    obtain ⟨y, hy, ys, hys, rfl⟩ := h
    exact .cons hy (ih hys)

theorem ofEntries_eq_some {es : List (Item × Item)} {m : QCborMap} (h : ofEntries es = some m) :
    List.Forall₂ (fun e r => QCborValue.ofItem e.1 = some r.1 ∧ QCborValue.ofItem e.2 = some r.2)
      es m := by
  induction es generalizing m with
  | nil =>
    cases h
    exact .nil
  | cons e es ih =>
    simp only [ofEntries, Option.bind_eq_bind, Option.bind_eq_some_iff, Option.pure_def,
      Option.some.injEq] at h
    obtain ⟨k, hk, v, hv, m, hm, rfl⟩ := h
    exact .cons ⟨hk, hv⟩ (ih hm)

def QtCbor.reference : QtCbor where
  toCbor v := v.toItem.encode
  fromCbor b := (decode 1024 b).bind fun (x, _) => QCborValue.ofItem x

theorem QCborValue.arrange_id {depth : Nat} {v : QCborValue} (h : v.Plain depth) :
    v.arrange id = v := by
  induction depth generalizing v with
  | zero => exact h.elim
  | succ depth ih =>
    cases v with
    | array xs =>
      rw [QCborValue.arrange_array, List.map_congr_left fun x hx => ih (h x hx), List.map_id']
    | map m =>
      have hm : ∀ e ∈ m, arrangeEntry id e = e := fun e he =>
        Prod.ext (ih (h e he).1) (ih (h e he).2)
      rw [QCborValue.arrange_map, QCborMap.arrange, List.map_congr_left hm, List.map_id', id_eq]
    | tag n v => exact h.elim
    | _ => simp [QCborValue.arrange]

theorem QCborValue.ofItem_integer (i : Int64) :
    QCborValue.ofItem (QCborValue.integer i).toItem = some (.integer i) := by
  have hlo := i.le_toInt
  have hhi := i.toInt_lt
  rw [QCborValue.toItem]
  split
  · next h =>
    have hn : (UInt64.ofNat i.toInt.toNat).toNat = i.toInt.toNat := UInt64.toNat_ofNat_of_lt' (by
      simp only [UInt64.size]; omega)
    have hi : ((i.toInt.toNat : Nat) : Int) = i.toInt := Int.toNat_of_nonneg h
    rw [QCborValue.ofItem, hn, if_pos (by omega), hi, Int64.ofInt_toInt]
  · next h =>
    have hn : (UInt64.ofNat (-1 - i.toInt).toNat).toNat = (-1 - i.toInt).toNat :=
      UInt64.toNat_ofNat_of_lt' (by simp only [UInt64.size]; omega)
    have hi : -1 - (((-1 - i.toInt).toNat : Nat) : Int) = i.toInt := by omega
    rw [QCborValue.ofItem, hn, if_pos (by omega), hi, Int64.ofInt_toInt]

theorem QCborValue.ofItem_toItem {depth : Nat} {v : QCborValue} (h : v.Plain depth) :
    QCborValue.ofItem v.toItem = some v := by
  induction depth generalizing v with
  | zero => exact h.elim
  | succ depth ih =>
    cases v with
    | array xs =>
      have hxs : ofItems (toItems xs) = some xs := by
        induction xs with
        | nil => rfl
        | cons x xs ihs =>
          simp [toItems, ofItems, ih (h x List.mem_cons_self),
            ihs fun y hy => h y (List.mem_cons_of_mem x hy)]
      simp [QCborValue.toItem, QCborValue.ofItem, hxs]
    | map m =>
      have hm : ofEntries (toEntries m) = some m := by
        induction m with
        | nil => rfl
        | cons e m ihs =>
          have he := h e List.mem_cons_self
          simp [toEntries, ofEntries, ih he.1, ih he.2,
            ihs fun d hd => h d (List.mem_cons_of_mem e hd)]
      simp [QCborValue.toItem, QCborValue.ofItem, hm]
    | integer i => exact QCborValue.ofItem_integer i
    | boolean b => cases b <;> rfl
    | string s => simp [QCborValue.toItem, QCborValue.ofItem]
    | simpleType n => exact h.elim
    | tag n v => exact h.elim
    | _ => rfl

theorem QCborValue.fits_toItem {depth : Nat} {v : QCborValue} (h : v.Plain depth)
    (hs : v.encodedSize < 2 ^ 63) : v.toItem.Fits depth := by
  induction depth generalizing v with
  | zero => exact h.elim
  | succ depth ih =>
    cases v with
    | array xs =>
      rw [QCborValue.encodedSize_array] at hs
      rw [QCborValue.toItem, toItems_eq_map]
      refine ⟨?_, ?_⟩
      · have : xs.length ≤ (xs.map QCborValue.encodedSize).sum := by
          simpa using List.length_le_sum_of_one_le (xs.map QCborValue.encodedSize) (by
            intro i hi
            obtain ⟨x, -, rfl⟩ := List.mem_map.mp hi
            exact QCborValue.encodedSize_pos x)
        rw [List.length_map]
        omega
      · intro y hy
        obtain ⟨x, hx, rfl⟩ := List.mem_map.mp hy
        have : x.encodedSize ≤ (xs.map QCborValue.encodedSize).sum :=
          List.single_le_sum (by simp) _ (List.mem_map_of_mem hx)
        exact ih (h x hx) (by omega)
    | map m =>
      rw [QCborValue.encodedSize_map, QCborMap.entriesSize] at hs
      rw [QCborValue.toItem, toEntries_eq_map]
      refine ⟨?_, ?_⟩
      · have : m.length ≤ (m.map fun e => e.1.encodedSize + e.2.encodedSize).sum := by
          simpa using List.length_le_sum_of_one_le
            (m.map fun e => e.1.encodedSize + e.2.encodedSize) (by
              intro i hi
              obtain ⟨e, -, rfl⟩ := List.mem_map.mp hi
              have := QCborValue.encodedSize_pos e.1
              omega)
        rw [List.length_map]
        omega
      · intro y hy
        obtain ⟨e, he, rfl⟩ := List.mem_map.mp hy
        have : e.1.encodedSize + e.2.encodedSize ≤
            (m.map fun e => e.1.encodedSize + e.2.encodedSize).sum :=
          List.single_le_sum (by simp) _ (List.mem_map_of_mem he)
        exact ⟨ih (h e he).1 (by omega), ih (h e he).2 (by omega)⟩
    | integer i =>
      rw [QCborValue.toItem]
      split <;> trivial
    | boolean b => cases b <;> exact Or.inl (by decide)
    | string s =>
      simp only [QCborValue.encodedSize, QCborValue.toItem, Item.encode, List.length_append] at hs
      show (toUtf8 s).length < 2 ^ 64
      omega
    | byteArray b =>
      simp only [QCborValue.encodedSize, QCborValue.toItem, Item.encode, List.length_append] at hs
      show b.length < 2 ^ 64
      omega
    | simpleType n => exact h.elim
    | tag n v => exact h.elim
    | double d => trivial
    | _ => exact Or.inl (by decide)

theorem QtCbor.reference_rfc8949 : QtCbor.reference.Rfc8949 where
  toCbor_eq := ⟨id, fun _ => .rfl, fun v hv => by rw [QCborValue.arrange_id hv]; rfl⟩
  fromCbor_encode := by
    intro v hv hs
    have hfits : v.toItem.Fits 1024 := (QCborValue.fits_toItem hv hs).mono (by omega)
    have := decode_encode hfits []
    rw [List.append_nil] at this
    simp [QtCbor.reference, this, QCborValue.ofItem_toItem hv]

/-- `QCborValue::fromCbor` decodes the first item of the buffer: it takes no notice of what
follows it. -/
def QtCbor.ReadsFirstItem (qt : QtCbor) : Prop :=
  ∀ item rest, Wellformed item → qt.fromCbor (item ++ rest) = qt.fromCbor item

theorem QtCbor.reference_readsFirstItem : QtCbor.reference.ReadsFirstItem := by
  intro item rest h
  have hread := h.decode_append 1024 rest
  have hbind : ∀ b, QtCbor.reference.fromCbor b =
      ((decode 1024 b).map Prod.fst).bind QCborValue.ofItem := by
    intro b
    rw [Option.bind_map]
    rfl
  rw [hbind, hbind, hread]

end RpiDashboard.Qt
