import RpiDashboard.Cbor.Canonical
import RpiDashboard.Daemon.MapLaws
import RpiDashboard.Daemon.ValueLaws

/-! The daemon's encoding is canonical and delimits itself. -/

namespace RpiDashboard.Daemon

open Cbor

/-- What every `Value` of the source satisfies: the keys of a `std::map` increase, and
no container has more than a `std::size_t` of elements. -/
inductive Value.WellFormed : Value → Prop
  | unsigned {n} : WellFormed (.unsigned n)
  | number {d} : WellFormed (.number d)
  | text {t} : t.length < 2 ^ 64 → WellFormed (.text t)
  | bytes {b} : b.length < 2 ^ 64 → WellFormed (.bytes b)
  | boolean {b} : WellFormed (.boolean b)
  | array {xs} : xs.length < 2 ^ 64 → (∀ x ∈ xs, WellFormed x) → WellFormed (.array xs)
  | map {m} : m.length < 2 ^ 64 → StdMap.Ordered m → (∀ e ∈ m, e.1.length < 2 ^ 64) →
      (∀ e ∈ m, WellFormed e.2) → WellFormed (.map m)

mutual
/-- The value that a data item stands for. -/
def Value.ofItem : Item → Option Value
  | .unsigned n => some (.unsigned n)
  | .bytes b => some (.bytes b)
  | .text t => some (.text t)
  | .array xs => (ofItems xs).map .array
  | .map es => (ofEntries es).map .map
  | .simple n => if n = 21 then some (.boolean true) else if n = 20 then some (.boolean false) else none
  | .double f => some (.number ⟨f⟩)
  | _ => none

def ofItems : List Item → Option (List Value)
  | [] => some []
  | x :: xs => return (← Value.ofItem x) :: (← ofItems xs)

/-- The entries of a map, put into a `std::map`. -/
def ofEntries : List (Item × Item) → Option StdMap
  | [] => some []
  | (.text k, x) :: es => return StdMap.assign (← ofEntries es) k (← Value.ofItem x)
  | _ :: _ => none
end

/-- Reads one data item and leaves the rest.  Every level of nesting takes a byte, so
the length of the input bounds the depth. -/
def Value.decode : Decoder Value := fun input => do
  let (x, rest) ← Cbor.decode input.length input
  return (← Value.ofItem x, rest)

section Order

variable {α : Type} {a b c : List UInt8}

theorem precedes_iff : precedes a b = true ↔ LengthFirst a b := by
  unfold precedes LengthFirst
  by_cases h : a.length = b.length <;> simp [h]

theorem lengthFirst_trans (h : LengthFirst a b) (h' : LengthFirst b c) : LengthFirst a c := by
  rcases h with h | ⟨h, hlt⟩ <;> rcases h' with h' | ⟨h', hlt'⟩
  · exact .inl (by omega)
  · exact .inl (by omega)
  · exact .inl (by omega)
  · exact .inr ⟨by omega, List.lt_trans hlt hlt'⟩

theorem lengthFirst_or_eq (h : ¬LengthFirst b a) : LengthFirst a b ∨ a = b := by
  simp only [LengthFirst, not_or, not_and, not_lt] at h ⊢
  obtain ⟨hle, hlt⟩ := h
  rcases hle.lt_or_eq with hlen | hlen
  · exact .inl (.inl hlen)
  · by_cases hab : a < b
    · exact .inl (.inr ⟨hlen, hab⟩)
    · exact .inr (List.le_antisymm (List.not_lt.mp (hlt hlen.symm)) (List.not_lt.mp hab))

theorem lengthFirst_asymm (h : LengthFirst a b) : ¬LengthFirst b a := by
  rintro (h' | ⟨h', hlt'⟩) <;> rcases h with h | ⟨h, hlt⟩
  · omega
  · omega
  · omega
  · exact List.lt_asymm hlt hlt'

/-- Entries whose keys differ are put in strictly increasing order. -/
theorem pairwise_sortEntries {p : List (List UInt8 × α)} (h : (p.map Prod.fst).Nodup) :
    ((sortEntries p).map Prod.fst).Pairwise LengthFirst := by
  let le : List UInt8 × α → List UInt8 × α → Prop := fun a b => precedes b.1 a.1 = false
  have hle : ∀ {a b}, le a b ↔ ¬LengthFirst b.1 a.1 := by
    intro a b
    rw [← precedes_iff, Bool.not_eq_true]
  have total : Std.Total le := ⟨fun a b => by
    rw [hle, hle]
    by_contra hnot
    simp only [not_or, not_not] at hnot
    exact lengthFirst_asymm hnot.1 hnot.2⟩
  have trans : IsTrans _ le := ⟨fun a b c hab hbc => by
    rw [hle] at *
    intro hca
    rcases lengthFirst_or_eq hab with hlt | heq
    · exact hbc (lengthFirst_trans hca hlt)
    · exact hbc (heq ▸ hca)⟩
  have hsorted : (sortEntries p).Pairwise le := List.pairwise_insertionSort le p
  have hnodup : ((sortEntries p).map Prod.fst).Nodup :=
    ((sortEntries_perm p).map Prod.fst).nodup_iff.mpr h
  rw [List.Nodup, List.pairwise_map] at hnodup
  rw [List.pairwise_map]
  refine (hsorted.and hnodup).imp ?_
  rintro a b ⟨hab, hne⟩
  exact (lengthFirst_or_eq (hle.mp hab)).resolve_right hne

end Order

section Encoding

variable {v w : Value} {m : StdMap}

theorem encodeValues_eq_flatten (xs : List Value) :
    encodeValues xs = (xs.map Value.encode).flatten := by
  induction xs with
  | nil => rfl
  | cons x xs ih => rw [encodeValues, ih, List.map_cons, List.flatten_cons]

theorem head_append_injective {k l : List UInt8} (hk : k.length < 2 ^ 64) (hl : l.length < 2 ^ 64)
    (h : head 3 k.length ++ k = head 3 l.length ++ l) : k = l := by
  have read : ∀ {t : List UInt8}, t.length < 2 ^ 64 →
      Cbor.decode 1 (head 3 t.length ++ t) = some (.text t, []) := by
    intro t ht
    have := decode_encode (x := .text t) (show (Item.text t).Fits 1 from ht) []
    simpa [Item.encode, head_eq] using this
  have := (read hk).symm.trans ((congrArg (Cbor.decode 1) h).trans (read hl))
  simpa using this

/-- The encoded keys of a map differ as the keys do. -/
theorem nodup_encoded_keys (hm : StdMap.Ordered m) (hkeys : ∀ e ∈ m, e.1.length < 2 ^ 64) :
    ((toEntries m).map Prod.fst).Nodup := by
  rw [toEntries_eq_map, List.map_map]
  refine (List.nodup_map_iff_inj_on ?_).mpr ?_
  · exact hm.nodup.of_map
  · intro d hd e he heq
    have hk : d.1 = e.1 := head_append_injective (hkeys d hd) (hkeys e he) heq
    exact List.inj_on_of_nodup_map hm.nodup hd he hk

theorem canonical_encode (h : v.WellFormed) : Canonical v.toItem v.encode := by
  induction h with
  | @unsigned n =>
    simp only [Value.toItem, Value.encode, head_eq]
    exact .unsigned (isShortestHead_head (by omega) n.toNat_lt)
  | number => rw [encode_eq]; exact .double
  | text ht =>
    simp only [Value.toItem, Value.encode, head_eq]
    exact .text (isShortestHead_head (by omega) ht)
  | bytes hb =>
    simp only [Value.toItem, Value.encode, head_eq]
    exact .bytes (isShortestHead_head (by omega) hb)
  | @boolean b => rw [encode_eq]; exact .simple (.inl (by cases b <;> decide))
  | @array xs hlen _ ih =>
    simp only [Value.toItem, Value.encode, head_eq, toItems_eq_map, encodeValues_eq_flatten]
    refine .array ?_ ?_
    · rw [List.length_map]
      exact isShortestHead_head (by omega) hlen
    · rw [List.forall₂_map_left_iff, List.forall₂_map_right_iff]
      exact List.forall₂_same.mpr ih
  | @map m hlen hm hkeys _ ih =>
    have hsort := sortEntries_map (fun e : Item × Item => e.2.encode) (toEntries m)
    simp only [Value.toItem, Value.encode, head_eq, encodeEntries_eq m, hsort]
    have hlength : (sortEntries (toEntries m)).length = m.length := by
      rw [(sortEntries_perm _).length_eq, toEntries_eq_map, List.length_map]
    have hmem : ∀ p ∈ sortEntries (toEntries m), Canonical p.2.1 p.1 ∧
        Canonical p.2.2 p.2.2.encode := by
      intro p hp
      rw [(sortEntries_perm _).mem_iff, toEntries_eq_map] at hp
      obtain ⟨e, he, rfl⟩ := List.mem_map.mp hp
      refine ⟨?_, encode_eq e.2 ▸ ih e he⟩
      rw [head_eq]
      exact .text (isShortestHead_head (by omega) (hkeys e he))
    rw [List.length_map, hlength]
    refine .map ?_ ?_ ?_ ?_
    · rw [List.length_map, hlength]
      exact isShortestHead_head (by omega) hlen
    · simp only [List.map_map, List.forall₂_map_left_iff, List.forall₂_map_right_iff]
      exact List.forall₂_same.mpr fun p hp => (hmem p hp).1
    · simp only [List.map_map, List.forall₂_map_left_iff, List.forall₂_map_right_iff]
      exact List.forall₂_same.mpr fun p hp => (hmem p hp).2
    · have := pairwise_sortEntries (nodup_encoded_keys hm hkeys)
      simpa [List.map_map, Function.comp_def] using this

end Encoding

section Decoding

variable {v w : Value} {m l : StdMap}

/-- The entries of a map, assigned one after the other. -/
def assignAll (l : StdMap) : StdMap := l.foldr (fun e m => m.assign e.1 e.2) []

theorem ordered_assignAll (l : StdMap) : StdMap.Ordered (assignAll l) := by
  induction l with
  | nil => exact StdMap.ordered_nil
  | cons e l ih => exact ih.assign

theorem assignAll_perm (h : (l.map Prod.fst).Nodup) : (assignAll l).Perm l := by
  induction l with
  | nil => rfl
  | cons e l ih =>
    obtain ⟨hnew, hl⟩ := List.nodup_cons.mp h
    have hkeys : e.1 ∉ (assignAll l).map Prod.fst := by
      rwa [((ih hl).map Prod.fst).mem_iff]
    exact (StdMap.assign_perm hkeys).trans ((ih hl).cons e)

theorem ofEntries_map (h : ∀ e ∈ l, Value.ofItem e.2.toItem = some e.2) :
    ofEntries (l.map fun e => (.text e.1, e.2.toItem)) = some (assignAll l) := by
  induction l with
  | nil => rfl
  | cons e l ih =>
    obtain ⟨he, hl⟩ := List.forall_mem_cons.mp h
    rw [List.map_cons, ofEntries, ih hl, he]
    rfl

theorem ofItems_map {xs : List Value} (h : ∀ x ∈ xs, Value.ofItem x.toItem = some x) :
    ofItems (xs.map Value.toItem) = some xs := by
  induction xs with
  | nil => rfl
  | cons x xs ih =>
    obtain ⟨hx, hxs⟩ := List.forall_mem_cons.mp h
    rw [List.map_cons, ofItems, hx, ih hxs]
    rfl

theorem ofItem_toItem (h : v.WellFormed) : Value.ofItem v.toItem = some v := by
  induction h with
  | @array xs _ _ ih =>
    rw [Value.toItem, toItems_eq_map, Value.ofItem, ofItems_map ih]
    rfl
  | @map m _ hm _ _ ih =>
    -- The encoder's order is a permutation of the map's own, which the decoder restores.
    have hsort := sortEntries_map (fun e : StdString × Value => (Item.text e.1, e.2.toItem))
      (m.map fun e => (head 3 e.1.length ++ e.1, e))
    let l := (sortEntries (m.map fun e => (head 3 e.1.length ++ e.1, e))).map Prod.snd
    have hl : l.Perm m := by
      have := (sortEntries_perm (m.map fun e => (head 3 e.1.length ++ e.1, e))).map Prod.snd
      simpa [l, List.map_map, Function.comp_def] using this
    have hentries : (sortEntries (toEntries m)).map Prod.snd =
        l.map fun e => (Item.text e.1, e.2.toItem) := by
      rw [toEntries_eq_map]
      simpa [l, List.map_map, Function.comp_def] using congrArg (List.map Prod.snd) hsort
    have hnodup : (l.map Prod.fst).Nodup := (hl.map Prod.fst).nodup_iff.mpr hm.nodup
    rw [Value.toItem, hentries, Value.ofItem, ofEntries_map fun e he => ih e (hl.mem_iff.mp he),
      Option.map_some, (ordered_assignAll l).eq_of_perm hm ((assignAll_perm hnodup).trans hl)]
  | @boolean b => cases b <;> rfl
  | _ => rfl

/-- An item is nested no deeper than it is long. -/
theorem fits_toItem (h : v.WellFormed) : v.toItem.Fits v.toItem.encode.length := by
  induction h with
  | text ht => exact Item.fits_leaf (x := .text _) ht
  | bytes hb => exact Item.fits_leaf (x := .bytes _) hb
  | @array xs hlen _ ih =>
    rw [Value.toItem, toItems_eq_map]
    refine Item.fits_array (by rwa [List.length_map]) ?_
    rw [List.forall_mem_map]
    exact ih
  | @map m hlen _ hkeys _ ih =>
    have hlength : ((sortEntries (toEntries m)).map Prod.snd).length = m.length := by
      rw [List.length_map, (sortEntries_perm _).length_eq, toEntries_eq_map, List.length_map]
    rw [Value.toItem]
    refine Item.fits_map (by rwa [hlength]) ?_
    rw [List.forall_mem_map]
    intro p hp
    rw [(sortEntries_perm _).mem_iff, toEntries_eq_map] at hp
    obtain ⟨e, he, rfl⟩ := List.mem_map.mp hp
    exact ⟨Item.fits_leaf (x := .text e.1) (hkeys e he), ih e he⟩
  | @unsigned n => exact Item.fits_leaf (x := .unsigned n) trivial
  | @number d => exact Item.fits_leaf (x := .double d.bits) trivial
  | @boolean b => cases b <;> exact Item.fits_leaf (x := .simple _) (.inl (by decide))

theorem decode_cbor (h : v.WellFormed) (rest : List UInt8) :
    Value.decode (cbor v ++ rest) = some (v, rest) := by
  have hfits : v.toItem.Fits (v.toItem.encode ++ rest).length :=
    (fits_toItem h).mono (by simp)
  rw [Value.decode, cbor, encode_eq, decode_encode hfits]
  simp [ofItem_toItem h]

/-- Canonical and self-delimiting: what is decoded from an encoding and anything after it
is the value and the rest, so encodings are injective and none starts another; heads are
shortest and keys in length-first order, in every map at every depth. -/
theorem cbor_canonical (h : v.WellFormed) :
    (∀ rest, Value.decode (cbor v ++ rest) = some (v, rest)) ∧
    (∀ w : Value, w.WellFormed → ∀ rest, cbor w = cbor v ++ rest → w = v ∧ rest = []) ∧
    Canonical v.toItem (cbor v) := by
  refine ⟨decode_cbor h, ?_, canonical_encode h⟩
  intro w hw rest heq
  have hread := decode_cbor hw []
  rw [List.append_nil, heq, decode_cbor h rest] at hread
  cases hread
  exact ⟨rfl, rfl⟩

theorem cbor_canonical_sample :
    let v := Value.map [(lit "b", .array [.unsigned 24, .boolean true]), (lit "bb", .number ⟨0⟩),
      (lit "c", .map [])]
    Value.decode (cbor v ++ [0xff]) = some (v, [0xff]) := by
  intro v
  have hv : v.WellFormed := by
    refine .map (by decide) (by decide) (by decide) ?_
    simp only [List.forall_mem_cons, List.not_mem_nil, false_imp_iff, implies_true, and_true]
    refine ⟨.array (by decide) ?_, .number, .map (by decide) (by decide) (by simp) (by simp)⟩
    simp only [List.forall_mem_cons, List.not_mem_nil, false_imp_iff, implies_true, and_true]
    exact ⟨.unsigned, .boolean⟩
  exact (cbor_canonical hv).1 [0xff]

end Decoding

end RpiDashboard.Daemon
