import RpiDashboard.Cbor.ItemLaws
import RpiDashboard.Daemon.Value

/-! What the daemon's encoder writes is the preferred serialization of a data item. -/

namespace RpiDashboard.Daemon

open Cbor

mutual
/-- The data item of a value, with the entries of its maps in the encoder's order. -/
def Value.toItem : Value → Item
  | .unsigned n => .unsigned n
  | .number d => .double d.bits
  | .text t => .text t
  | .bytes b => .bytes b
  | .boolean b => .simple (if b then 21 else 20)
  | .array xs => .array (toItems xs)
  | .map m => .map ((sortEntries (toEntries m)).map Prod.snd)

def toItems : List Value → List Item
  | [] => []
  | x :: xs => x.toItem :: toItems xs

/-- The entries under their encoded keys. -/
def toEntries : List (StdString × Value) → List (List UInt8 × Item × Item)
  | [] => []
  | (k, x) :: m => (head 3 k.length ++ k, .text k, x.toItem) :: toEntries m
end

theorem bytesFrom_eq (n i : Nat) : bytesFrom n i = bigEndian (i + 1) n := by
  induction i with
  | zero => simp [bytesFrom, bigEndian]
  | succ i ih =>
    rw [bytesFrom, bigEndian, ih, Nat.shiftRight_eq_div_pow, Nat.mul_comm, Nat.pow_mul]

theorem initial_eq (m : Nat) {n : Nat} (h : n < 32) :
    UInt8.ofNat ((m <<< 5) ||| n) = initial m n := by
  rw [initial, ← Nat.shiftLeft_add_eq_or_of_lt (i := 5) h, Nat.shiftLeft_eq]

theorem head_eq (m n : Nat) : head m n = Cbor.head m n := by
  unfold head Cbor.head
  split_ifs
  · rw [initial_eq m (by omega)]
  · exact congrArg₂ List.cons (initial_eq m (by omega)) (bytesFrom_eq n 0)
  · exact congrArg₂ List.cons (initial_eq m (by omega)) (bytesFrom_eq n 1)
  · exact congrArg₂ List.cons (initial_eq m (by omega)) (bytesFrom_eq n 3)
  · exact congrArg₂ List.cons (initial_eq m (by omega)) (bytesFrom_eq n 7)

section Order

variable {α β : Type}

theorem sortEntries_perm (p : List (List UInt8 × α)) : (sortEntries p).Perm p :=
  List.perm_insertionSort _ p

/-- Sorting looks at the keys only. -/
theorem sortEntries_map (f : α → β) (p : List (List UInt8 × α)) :
    sortEntries (p.map fun e => (e.1, f e.2)) = (sortEntries p).map fun e => (e.1, f e.2) := by
  unfold sortEntries
  exact (List.map_insertionSort _ _ (fun e : List UInt8 × α => (e.1, f e.2)) p
    fun _ _ _ _ => Iff.rfl).symm

end Order

theorem toItems_eq_map (xs : List Value) : toItems xs = xs.map Value.toItem := by
  induction xs with
  | nil => rfl
  | cons x xs ih => rw [toItems, ih, List.map_cons]

theorem toEntries_eq_map (m : StdMap) :
    toEntries m = m.map fun e => (head 3 e.1.length ++ e.1, .text e.1, e.2.toItem) := by
  induction m with
  | nil => rfl
  | cons e m ih => rw [toEntries, ih, List.map_cons]

theorem encode_key {m : StdMap} {e : List UInt8 × Item × Item} (h : e ∈ toEntries m) :
    e.1 = e.2.1.encode := by
  rw [toEntries_eq_map] at h
  obtain ⟨e, -, rfl⟩ := List.mem_map.mp h
  simp [Item.encode, head_eq]

mutual
theorem encode_eq : (v : Value) → v.encode = v.toItem.encode
  | .unsigned n => by simp [Value.encode, Value.toItem, Item.encode, head_eq]
  | .number d => by
    simp only [Value.encode, Value.toItem, Item.encode, bytesFrom_eq]
    rfl
  | .text t => by simp [Value.encode, Value.toItem, Item.encode, head_eq]
  | .bytes b => by simp [Value.encode, Value.toItem, Item.encode, head_eq]
  | .boolean b => by cases b <;> rfl
  | .array xs => by
    simp [Value.encode, Value.toItem, Item.encode, head_eq, encodeValues_eq xs,
      toItems_eq_map, encodeItems_eq_flatMap]
  | .map m => by
    have hkeys : (sortEntries (toEntries m)).flatMap (fun e => e.1 ++ e.2.2.encode) =
        (sortEntries (toEntries m)).flatMap fun e => encodeEntry e.2 := by
      refine List.flatMap_congr fun e he => ?_
      rw [encode_key ((sortEntries_perm _).mem_iff.mp he)]
      rfl
    have hsort := sortEntries_map (fun e : Item × Item => e.2.encode) (toEntries m)
    simp only [Value.encode, Value.toItem, Item.encode, head_eq, encodeEntries_eq m, hsort,
      encodeEntries_eq_flatMap, List.length_map, List.flatMap_map, hkeys]

theorem encodeValues_eq : (xs : List Value) → encodeValues xs = (toItems xs).flatMap Item.encode
  | [] => rfl
  | x :: xs => by simp [encodeValues, toItems, encode_eq x, encodeValues_eq xs]

theorem encodeEntries_eq : (m : List (StdString × Value)) →
    encodeEntries m = (toEntries m).map fun e => (e.1, e.2.2.encode)
  | [] => rfl
  | (k, x) :: m => by simp [encodeEntries, toEntries, encode_eq x, encodeEntries_eq m]
end

end RpiDashboard.Daemon
