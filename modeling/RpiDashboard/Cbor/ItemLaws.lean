import RpiDashboard.Cbor.Item
import Mathlib.Algebra.BigOperators.Group.List.Basic
import Mathlib.Algebra.Order.BigOperators.Group.List
import Mathlib.Algebra.Order.Ring.Nat
import Mathlib.Tactic.IntervalCases
import Mathlib.Tactic.Ring

namespace RpiDashboard.Cbor

@[simp] theorem length_bigEndian (width n : Nat) : (bigEndian width n).length = width := by
  induction width with
  | zero => rfl
  | succ width ih => simp [bigEndian, ih]

theorem foldl_bigEndian (width n acc : Nat) :
    (bigEndian width n).foldl (fun n b => n * 256 + b.toNat) acc =
      acc * 256 ^ width + n % 256 ^ width := by
  induction width generalizing acc with
  | zero => simp [bigEndian, Nat.mod_one]
  | succ width ih =>
    have split : n % 256 ^ (width + 1) =
        n / 256 ^ width % 256 * 256 ^ width + n % 256 ^ width := by
      rw [pow_succ, Nat.mod_mul]
      ring
    simp only [bigEndian, List.foldl_cons, ih, UInt8.toNat_ofNat', split]
    ring

theorem ofBigEndian_bigEndian {width n : Nat} (h : n < 256 ^ width) :
    ofBigEndian (bigEndian width n) = n := by
  rw [ofBigEndian, foldl_bigEndian, Nat.mod_eq_of_lt h]
  ring

@[simp] theorem take_append (xs rest : List UInt8) :
    take xs.length (xs ++ rest) = some (xs, rest) := by
  simp [take]

theorem take_bigEndian (width : Nat) {n : Nat} (h : n < 256 ^ width) (rest : List UInt8) :
    (take width (bigEndian width n ++ rest)).map (Prod.map ofBigEndian id) = some (n, rest) := by
  have := take_append (bigEndian width n) rest
  rw [length_bigEndian] at this
  simp [this, ofBigEndian_bigEndian h]

/-- The bytes that a width uses up. -/
theorem take_eq_some {width n : Nat} {tail : List UInt8}
    (h : (take width tail).map (Prod.map ofBigEndian id) = some (n, [])) :
    tail.length = width ∧ ofBigEndian tail = n := by
  simp only [take] at h
  split at h
  case isTrue hle =>
    simp only [Option.map_some, Prod.map, id_eq, Option.some.injEq, Prod.mk.injEq,
      List.drop_eq_nil_iff] at h
    obtain ⟨hn, hge⟩ := h
    rw [List.take_of_length_le hge] at hn
    exact ⟨le_antisymm hge hle, hn⟩
  case isFalse => cases h

theorem initial_toNat {major info : Nat} (hm : major < 8) (hi : info < 32) :
    (initial major info).toNat = major * 32 + info := by
  rw [initial, UInt8.toNat_ofNat']
  omega

/-- Reading the head back: the initial byte yields the major type and the
additional information under which `argument` recovers `n`. -/
theorem head_eq_cons {major n : Nat} (hm : major < 8) (hn : n < 2 ^ 64) :
    ∃ b tail, head major n = b :: tail ∧ b.toNat / 32 = major ∧
      ∀ rest, argument (b.toNat % 32) (tail ++ rest) = some (n, rest) := by
  unfold head
  split_ifs with h₁ h₂ h₃ h₄
  · refine ⟨_, _, rfl, ?_, fun rest => ?_⟩ <;> rw [initial_toNat hm (by omega)]
    · omega
    · rw [show (major * 32 + n) % 32 = n by omega]
      simp [argument, h₁]
  · refine ⟨_, _, rfl, ?_, fun rest => ?_⟩ <;> rw [initial_toNat hm (by omega)]
    · omega
    · rw [show (major * 32 + 24) % 32 = 24 by omega]
      simpa [argument] using take_bigEndian 1 (by omega) rest
  · refine ⟨_, _, rfl, ?_, fun rest => ?_⟩ <;> rw [initial_toNat hm (by omega)]
    · omega
    · rw [show (major * 32 + 25) % 32 = 25 by omega]
      simpa [argument] using take_bigEndian 2 (by omega) rest
  · refine ⟨_, _, rfl, ?_, fun rest => ?_⟩ <;> rw [initial_toNat hm (by omega)]
    · omega
    · rw [show (major * 32 + 26) % 32 = 26 by omega]
      simpa [argument] using take_bigEndian 4 (by omega) rest
  · refine ⟨_, _, rfl, ?_, fun rest => ?_⟩ <;> rw [initial_toNat hm (by omega)]
    · omega
    · rw [show (major * 32 + 27) % 32 = 27 by omega]
      simpa [argument] using take_bigEndian 8 (by omega) rest

theorem length_head_of_lt {n : Nat} (h : n < 24) (major : Nat) : (head major n).length = 1 := by
  simp [head, h]

theorem length_head_le_two {n : Nat} (h : n < 256) (major : Nat) : (head major n).length ≤ 2 := by
  unfold head
  split_ifs <;> simp

theorem length_head_le_three {n : Nat} (h : n < 65536) (major : Nat) :
    (head major n).length ≤ 3 := by
  unfold head
  split_ifs <;> simp

theorem length_head_le_nine (major n : Nat) : (head major n).length ≤ 9 := by
  unfold head
  split_ifs <;> simp

theorem length_head_pos (major n : Nat) : 0 < (head major n).length := by
  unfold head
  split_ifs <;> simp

theorem body_congr_info (item : Decoder Item) {major : Nat} (hm : major < 7)
    (info info' n : Nat) : body item major info n = body item major info' n := by
  funext input
  interval_cases major <;> rfl

theorem decode_head (depth : Nat) {major n : Nat} (hm : major < 7) (hn : n < 2 ^ 64)
    (rest : List UInt8) :
    decode (depth + 1) (head major n ++ rest) = body (decode depth) major 0 n rest := by
  obtain ⟨b, tail, e, hb, harg⟩ := head_eq_cons (Nat.lt_succ_of_lt hm) hn
  rw [e, List.cons_append, decode, harg, hb]
  exact congrFun (body_congr_info (decode depth) hm _ _ n) rest

theorem Item.encode_ne_nil (x : Item) : x.encode ≠ [] := by
  have pos : ∀ major n, head major n ≠ [] := fun major n => List.ne_nil_of_length_pos (length_head_pos major n)
  cases x with
  | simple n =>
    rw [Item.encode]
    split <;> simp
  | _ => simp [Item.encode, pos]

theorem Item.Fits.mono {depth depth' : Nat} {x : Item} (h : x.Fits depth) (hle : depth ≤ depth') :
    x.Fits depth' := by
  induction depth generalizing x depth' with
  | zero => exact h.elim
  | succ depth ih =>
    obtain ⟨depth', rfl⟩ : ∃ d, depth' = d + 1 := ⟨depth' - 1, by omega⟩
    have hle' : depth ≤ depth' := by omega
    cases x with
    | array xs => exact ⟨h.1, fun x hx => ih (h.2 x hx) hle'⟩
    | map es => exact ⟨h.1, fun e he => ⟨ih (h.2 e he).1 hle', ih (h.2 e he).2 hle'⟩⟩
    | tag n x => exact ih (x := x) h hle'
    | _ => exact h

theorem encodeItems_eq_flatMap (xs : List Item) : encodeItems xs = xs.flatMap Item.encode := by
  induction xs with
  | nil => rfl
  | cons x xs ih => simp [encodeItems, ih]

def encodeEntry (e : Item × Item) : List UInt8 := e.1.encode ++ e.2.encode

theorem encodeEntries_eq_flatMap (es : List (Item × Item)) :
    encodeEntries es = es.flatMap encodeEntry := by
  induction es with
  | nil => rfl
  | cons e es ih => simp [encodeEntries, encodeEntry, ih]

theorem times_flatMap {α : Type} {item : Decoder α} {enc : α → List UInt8} {xs : List α}
    (h : ∀ x ∈ xs, ∀ rest, item (enc x ++ rest) = some (x, rest)) (rest : List UInt8) :
    times item xs.length (xs.flatMap enc ++ rest) = some (xs, rest) := by
  induction xs with
  | nil => rfl
  | cons x xs ih =>
    have hx := h x (by simp) (xs.flatMap enc ++ rest)
    have hxs := ih fun y hy => h y (by simp [hy])
    simp [times, hx, hxs]

section Depth

variable {α : Type}

theorem length_le_length_flatMap {f : α → List UInt8} {xs : List α} {x : α} (h : x ∈ xs) :
    (f x).length ≤ (xs.flatMap f).length := by
  rw [List.length_flatMap]
  exact List.single_le_sum (by simp) _ (List.mem_map_of_mem h)

theorem Item.fits_leaf {x : Item} (h : x.Fits 1) : x.Fits x.encode.length :=
  h.mono (List.length_pos_of_ne_nil x.encode_ne_nil)

/-- An array is nested no deeper than it is long, if its items are. -/
theorem Item.fits_array {xs : List Item} (hlen : xs.length < 2 ^ 64)
    (h : ∀ x ∈ xs, x.Fits x.encode.length) :
    (Item.array xs).Fits (Item.array xs).encode.length := by
  have hhead := length_head_pos 4 xs.length
  obtain ⟨n, hn⟩ : ∃ n, (head 4 xs.length).length = n + 1 := ⟨_, (Nat.sub_add_cancel hhead).symm⟩
  rw [Item.encode, List.length_append, hn, Nat.succ_add, encodeItems_eq_flatMap]
  refine ⟨hlen, fun x hx => (h x hx).mono ?_⟩
  have := length_le_length_flatMap (f := Item.encode) hx
  omega

theorem Item.fits_map {es : List (Item × Item)} (hlen : es.length < 2 ^ 64)
    (h : ∀ e ∈ es, e.1.Fits e.1.encode.length ∧ e.2.Fits e.2.encode.length) :
    (Item.map es).Fits (Item.map es).encode.length := by
  have hhead := length_head_pos 5 es.length
  obtain ⟨n, hn⟩ : ∃ n, (head 5 es.length).length = n + 1 := ⟨_, (Nat.sub_add_cancel hhead).symm⟩
  rw [Item.encode, List.length_append, hn, Nat.succ_add, encodeEntries_eq_flatMap]
  refine ⟨hlen, fun e he => ?_⟩
  have hle := length_le_length_flatMap (f := encodeEntry) he
  rw [encodeEntry, List.length_append] at hle
  exact ⟨(h e he).1.mono (by omega), (h e he).2.mono (by omega)⟩

end Depth

/-- Major type 7 with a payload of `width` bytes. -/
theorem decode_payload (depth info width n : Nat) (hi : info < 32)
    (harg : ∀ rest, argument info (bigEndian width n ++ rest) = some (n, rest))
    (rest : List UInt8) :
    decode (depth + 1) (initial 7 info :: (bigEndian width n ++ rest)) =
      (decodeSimple info n).map (·, rest) := by
  have hb := initial_toNat (show 7 < 8 by omega) hi
  have hmod : (initial 7 info).toNat % 32 = info := by omega
  have hdiv : (initial 7 info).toNat / 32 = 7 := by omega
  rw [decode, hmod, hdiv, harg]
  rfl

theorem decode_simple (depth : Nat) {n : UInt8} (h : n < 24 ∨ 32 ≤ n) (rest : List UInt8) :
    decode (depth + 1) ((Item.simple n).encode ++ rest) = some (.simple n, rest) := by
  by_cases hn : n < 24
  · have hn' : n.toNat < 24 := UInt8.lt_iff_toNat_lt.mp hn
    have hb := initial_toNat (show 7 < 8 by omega) (show n.toNat < 32 by omega)
    have hmod : (initial 7 n.toNat).toNat % 32 = n.toNat := by omega
    have hdiv : (initial 7 n.toNat).toNat / 32 = 7 := by omega
    rw [Item.encode, if_pos hn, List.singleton_append, decode, hmod, hdiv]
    simp [argument, body, decodeSimple, hn']
  · have hn' : 32 ≤ n.toNat := UInt8.le_iff_toNat_le.mp (h.resolve_left hn)
    have := decode_payload depth 24 1 n.toNat (by omega)
      (fun rest => by
        simpa [argument] using take_bigEndian 1 n.toNat_lt rest) rest
    simpa [Item.encode, hn, bigEndian, decodeSimple, hn'] using this

/-- The suffix law: an encoded item is read back whole and nothing after it is touched. -/
theorem decode_encode {depth : Nat} {x : Item} (h : x.Fits depth) (rest : List UInt8) :
    decode depth (x.encode ++ rest) = some (x, rest) := by
  induction depth generalizing x rest with
  | zero => exact h.elim
  | succ depth ih =>
    cases x with
    | unsigned n =>
      rw [Item.encode, decode_head depth (by omega) n.toNat_lt]
      simp [body]
    | negative n =>
      rw [Item.encode, decode_head depth (by omega) n.toNat_lt]
      simp [body]
    | bytes b =>
      rw [Item.encode, List.append_assoc, decode_head depth (by omega) h]
      simp [body]
    | text b =>
      rw [Item.encode, List.append_assoc, decode_head depth (by omega) h]
      simp [body]
    | array xs =>
      rw [Item.encode, List.append_assoc, decode_head depth (by omega) h.1, encodeItems_eq_flatMap]
      simp [body, times_flatMap fun x hx => ih (h.2 x hx)]
    | map es =>
      have hentry : ∀ e ∈ es, ∀ rest, entry (decode depth) (encodeEntry e ++ rest) = some (e, rest) := by
        intro e he rest
        simp [entry, encodeEntry, ih (h.2 e he).1, ih (h.2 e he).2]
      rw [Item.encode, List.append_assoc, decode_head depth (by omega) h.1, encodeEntries_eq_flatMap]
      simp [body, times_flatMap hentry]
    | tag n x =>
      rw [Item.encode, List.append_assoc, decode_head depth (by omega) n.toNat_lt]
      simp [body, ih h]
    | simple n => exact decode_simple depth h rest
    | half f =>
      have := decode_payload depth 25 2 f.toNat (by omega)
        (fun rest => by simpa [argument] using take_bigEndian 2 f.isLt rest) rest
      simpa [Item.encode, decodeSimple] using this
    | single f =>
      have := decode_payload depth 26 4 f.toNat (by omega)
        (fun rest => by simpa [argument] using take_bigEndian 4 f.isLt rest) rest
      simpa [Item.encode, decodeSimple] using this
    | double f =>
      have := decode_payload depth 27 8 f.toNat (by omega)
        (fun rest => by simpa [argument] using take_bigEndian 8 f.isLt rest) rest
      simpa [Item.encode, decodeSimple] using this

end RpiDashboard.Cbor
