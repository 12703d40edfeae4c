import RpiDashboard.Cbor.Canonical

/-! The byte strings that are one data item (RFC 8949, section 3), of definite or
indefinite length, and how a decoder treats what follows an item. -/

namespace RpiDashboard.Cbor

/-- A definite-length string of major type `major`. -/
def IsString (major : Nat) (c : List UInt8) : Prop :=
  ∃ h b, c = h ++ b ∧ IsHead major b.length h

inductive Wellformed : List UInt8 → Prop
  | integer {m n h} : m < 2 → IsHead m n h → Wellformed h
  | string {m c} : m = 2 ∨ m = 3 → IsString m c → Wellformed c
  | openString {m} {cs : List (List UInt8)} : m = 2 ∨ m = 3 → (∀ c ∈ cs, IsString m c) →
      Wellformed (initial m 31 :: (cs.flatten ++ [0xff]))
  | array {h} {xs : List (List UInt8)} : IsHead 4 xs.length h → (∀ x ∈ xs, Wellformed x) →
      Wellformed (h ++ xs.flatten)
  | openArray {xs : List (List UInt8)} : (∀ x ∈ xs, Wellformed x) →
      Wellformed (initial 4 31 :: (xs.flatten ++ [0xff]))
  | map {h} {es : List (List UInt8 × List UInt8)} : IsHead 5 es.length h →
      (∀ e ∈ es, Wellformed e.1) → (∀ e ∈ es, Wellformed e.2) →
      Wellformed (h ++ es.flatMap fun e => e.1 ++ e.2)
  | openMap {es : List (List UInt8 × List UInt8)} : (∀ e ∈ es, Wellformed e.1) →
      (∀ e ∈ es, Wellformed e.2) →
      Wellformed (initial 5 31 :: ((es.flatMap fun e => e.1 ++ e.2) ++ [0xff]))
  | tag {n h b} : IsHead 6 n h → Wellformed b → Wellformed (h ++ b)
  -- a simple value in two bytes is at least 32
  | simple {n h} : IsHead 7 n h → (h.length = 2 → 32 ≤ n) → Wellformed h

section Encoding

theorem isString_head {major : Nat} {b : List UInt8} (hm : major < 8) (hb : b.length < 2 ^ 64) :
    IsString major (head major b.length ++ b) :=
  ⟨_, b, rfl, isHead_head hm hb⟩

theorem isHead_payload (info width n : Nat) (hi : info < 32)
    (harg : ∀ rest, argument info (bigEndian width n ++ rest) = some (n, rest)) :
    IsHead 7 n (initial 7 info :: bigEndian width n) := by
  have hb := initial_toNat (show 7 < 8 by omega) hi
  refine ⟨_, _, rfl, by omega, ?_⟩
  rw [show (initial 7 info).toNat % 32 = info by omega]
  simpa using harg []

theorem wellformed_simple {n : UInt8} (h : n < 24 ∨ 32 ≤ n) :
    Wellformed (Item.simple n).encode := by
  rw [Item.encode]
  split
  · rename_i hn
    have hn' : n.toNat < 24 := UInt8.lt_iff_toNat_lt.mp hn
    have hhead : head 7 n.toNat = [initial 7 n.toNat] := by simp [head, hn']
    exact .simple (hhead ▸ isHead_head (by omega) (by omega)) (by simp)
  · rename_i hn
    have hn' : 32 ≤ n.toNat := UInt8.le_iff_toNat_le.mp (h.resolve_left hn)
    have hbytes : bigEndian 1 n.toNat = [n] := by simp [bigEndian]
    refine .simple (hbytes ▸ isHead_payload 24 1 n.toNat (by omega) ?_) fun _ => hn'
    intro rest
    simpa [argument] using take_bigEndian 1 n.toNat_lt rest

/-- What the encoder writes is one data item. -/
theorem wellformed_encode {depth : Nat} {x : Item} (h : x.Fits depth) : Wellformed x.encode := by
  induction depth generalizing x with
  | zero => exact h.elim
  | succ depth ih =>
    cases x with
    | unsigned n => exact .integer (by omega) (isHead_head (show 0 < 8 by omega) n.toNat_lt)
    | negative n => exact .integer (by omega) (isHead_head (show 1 < 8 by omega) n.toNat_lt)
    | bytes b => exact .string (.inl rfl) (isString_head (by omega) h)
    | text b => exact .string (.inr rfl) (isString_head (by omega) h)
    | array xs =>
      have hencode : (Item.array xs).encode =
          head 4 (xs.map Item.encode).length ++ (xs.map Item.encode).flatten := by
        rw [Item.encode, encodeItems_eq_flatMap, List.length_map, List.flatMap_def]
      rw [hencode]
      refine .array (isHead_head (by omega) (by simpa using h.1)) ?_
      rw [List.forall_mem_map]
      exact fun x hx => ih (h.2 x hx)
    | map es =>
      let bs := es.map fun e => (e.1.encode, e.2.encode)
      have hencode : (Item.map es).encode = head 5 bs.length ++ bs.flatMap fun b => b.1 ++ b.2 := by
        rw [Item.encode, encodeEntries_eq_flatMap, List.length_map, List.flatMap_map]
        rfl
      rw [hencode]
      refine .map (isHead_head (by omega) (by simpa [bs] using h.1)) ?_ ?_ <;>
        rw [List.forall_mem_map]
      · exact fun e he => ih (h.2 e he).1
      · exact fun e he => ih (h.2 e he).2
    | tag n x => exact .tag (isHead_head (by omega) n.toNat_lt) (ih h)
    | simple n => exact wellformed_simple h
    | half f =>
      refine .simple (isHead_payload 25 2 f.toNat (by omega) fun rest => ?_) (by simp [Item.encode])
      simpa [argument] using take_bigEndian 2 f.isLt rest
    | single f =>
      refine .simple (isHead_payload 26 4 f.toNat (by omega) fun rest => ?_) (by simp [Item.encode])
      simpa [argument] using take_bigEndian 4 f.isLt rest
    | double f =>
      refine .simple (isHead_payload 27 8 f.toNat (by omega) fun rest => ?_) (by simp [Item.encode])
      simpa [argument] using take_bigEndian 8 f.isLt rest

end Encoding

section Framing

variable {α β : Type}

/-- What a decoder says of these bytes does not depend on what follows them. -/
def Framed (item : Decoder α) (p : List UInt8) : Prop :=
  (∃ x, ∀ t, item (p ++ t) = some (x, t)) ∨ ∀ t, item (p ++ t) = none

theorem Framed.map {item : Decoder α} {p : List UInt8} (h : Framed item p) (f : α → β) :
    Framed (fun input => (item input).map (Prod.map f id)) p := by
  rcases h with ⟨x, h⟩ | h
  · exact .inl ⟨f x, fun t => by simp [h]⟩
  · exact .inr fun t => by simp [h]

theorem Framed.times {item : Decoder α} {xs : List (List UInt8)} (h : ∀ x ∈ xs, Framed item x) :
    Framed (times item xs.length) xs.flatten := by
  induction xs with
  | nil => exact .inl ⟨[], fun t => rfl⟩
  | cons x xs ih =>
    obtain ⟨hx, hxs⟩ := List.forall_mem_cons.mp h
    rcases hx with ⟨a, hx⟩ | hx
    · rcases ih hxs with ⟨as, hxs⟩ | hxs
      · exact .inl ⟨a :: as, fun t => by simp [Cbor.times, hx, hxs]⟩
      · exact .inr fun t => by simp [Cbor.times, hx, hxs]
    · exact .inr fun t => by simp [Cbor.times, hx]

theorem Framed.entry {item : Decoder Item} {k v : List UInt8} (hk : Framed item k)
    (hv : Framed item v) : Framed (entry item) (k ++ v) := by
  rcases hk with ⟨x, hk⟩ | hk
  · rcases hv with ⟨y, hv⟩ | hv
    · exact .inl ⟨(x, y), fun t => by simp [Cbor.entry, hk, hv]⟩
    · exact .inr fun t => by simp [Cbor.entry, hk, hv]
  · exact .inr fun t => by simp [Cbor.entry, hk]

theorem argument_append {info n : Nat} {tail : List UInt8}
    (h : argument info tail = some (n, [])) (t : List UInt8) :
    argument info (tail ++ t) = some (n, t) := by
  have payload : ∀ width, (take width tail).map (Prod.map ofBigEndian id) = some (n, []) →
      (take width (tail ++ t)).map (Prod.map ofBigEndian id) = some (n, t) := by
    intro width h
    obtain ⟨rfl, rfl⟩ := take_eq_some h
    simp [Prod.map]
  unfold argument at h ⊢
  split_ifs at h ⊢
  · cases h
    rfl
  · exact payload 1 h
  · exact payload 2 h
  · exact payload 4 h
  · exact payload 8 h

/-- A head leads the decoder to the body of its type. -/
theorem IsHead.decode {major n : Nat} {h : List UInt8} (hh : IsHead major n h) (depth : Nat) :
    ∃ info, ∀ rest, Cbor.decode (depth + 1) (h ++ rest) =
      body (Cbor.decode depth) major info n rest := by
  obtain ⟨b, tail, rfl, hb, harg⟩ := hh
  refine ⟨b.toNat % 32, fun rest => ?_⟩
  rw [List.cons_append, Cbor.decode, argument_append harg, hb]
  rfl

/-- The decoder reads definite lengths only. -/
theorem decode_open (depth : Nat) {major : Nat} (hm : major < 8) (rest : List UInt8) :
    decode (depth + 1) (initial major 31 :: rest) = none := by
  have hb := initial_toNat hm (show 31 < 32 by omega)
  rw [decode, show (initial major 31).toNat % 32 = 31 by omega]
  rfl

theorem IsString.framed {major : Nat} {c : List UInt8} (hm : major = 2 ∨ major = 3)
    (h : IsString major c) (depth : Nat) : Framed (decode (depth + 1)) c := by
  obtain ⟨h, b, rfl, hh⟩ := h
  obtain ⟨info, hdecode⟩ := hh.decode depth
  rcases hm with rfl | rfl
  · exact .inl ⟨.bytes b, fun t => by simp [hdecode, body]⟩
  · exact .inl ⟨.text b, fun t => by simp [hdecode, body]⟩

/-- The decoder reads a data item, or refuses it, whatever comes after it. -/
theorem Wellformed.framed {p : List UInt8} (h : Wellformed p) (depth : Nat) :
    Framed (decode depth) p := by
  induction h generalizing depth with
  | @integer m n h hm hh =>
    cases depth with
    | zero => exact .inr fun t => rfl
    | succ depth =>
      obtain ⟨info, hdecode⟩ := hh.decode depth
      obtain rfl | rfl : m = 0 ∨ m = 1 := by omega
      · exact .inl ⟨.unsigned (UInt64.ofNat n), hdecode⟩
      · exact .inl ⟨.negative (UInt64.ofNat n), hdecode⟩
  | string hm hc =>
    cases depth with
    | zero => exact .inr fun t => rfl
    | succ depth => exact hc.framed hm depth
  | openString hm _ =>
    cases depth with
    | zero => exact .inr fun t => rfl
    | succ depth => exact .inr fun t => decode_open depth (by omega) _
  | @array h xs hh _ ih =>
    cases depth with
    | zero => exact .inr fun t => rfl
    | succ depth =>
      obtain ⟨info, hdecode⟩ := hh.decode depth
      have hxs := (Framed.times fun x hx => ih x hx depth).map Item.array
      simp only [Framed, List.append_assoc, hdecode]
      exact hxs
  | openArray _ =>
    cases depth with
    | zero => exact .inr fun t => rfl
    | succ depth => exact .inr fun t => decode_open depth (by omega) _
  | @map h es hh _ _ ihk ihv =>
    cases depth with
    | zero => exact .inr fun t => rfl
    | succ depth =>
      obtain ⟨info, hdecode⟩ := hh.decode depth
      have hentries : ∀ x ∈ es.map fun e => e.1 ++ e.2, Framed (entry (decode depth)) x := by
        rw [List.forall_mem_map]
        exact fun e he => (ihk e he depth).entry (ihv e he depth)
      have hes := (Framed.times hentries).map Item.map
      rw [List.length_map, ← List.flatMap_def] at hes
      simp only [Framed, List.append_assoc, hdecode]
      exact hes
  | openMap _ _ =>
    cases depth with
    | zero => exact .inr fun t => rfl
    | succ depth => exact .inr fun t => decode_open depth (by omega) _
  | @tag n h b hh _ ih =>
    cases depth with
    | zero => exact .inr fun t => rfl
    | succ depth =>
      obtain ⟨info, hdecode⟩ := hh.decode depth
      have hb := (ih depth).map (Item.tag (UInt64.ofNat n))
      simp only [Framed, List.append_assoc, hdecode]
      exact hb
  | @simple n h hh _ =>
    cases depth with
    | zero => exact .inr fun t => rfl
    | succ depth =>
      obtain ⟨info, hdecode⟩ := hh.decode depth
      simp only [Framed, hdecode, body]
      cases decodeSimple info n with
      | none => exact .inr fun t => rfl
      | some x => exact .inl ⟨x, fun t => rfl⟩

/-- Trailing bytes do not change the item that is read. -/
theorem Wellformed.decode_append {p : List UInt8} (h : Wellformed p) (depth : Nat)
    (t : List UInt8) :
    (decode depth (p ++ t)).map Prod.fst = (decode depth p).map Prod.fst := by
  rcases h.framed depth with ⟨x, hx⟩ | hx
  · have := hx []
    rw [List.append_nil] at this
    simp [hx, this]
  · have := hx []
    rw [List.append_nil] at this
    simp [hx, this]

end Framing

end RpiDashboard.Cbor
