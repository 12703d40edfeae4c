import RpiDashboard.Daemon.MapLaws
import RpiDashboard.Daemon.MessageLaws
import RpiDashboard.Qt.Reference

/-! What the dashboard reads from a part of one of the daemon's messages, whatever is in it. -/

namespace RpiDashboard.Daemon

open Qt Protocol Cbor

/-- The value that Qt reads; none where a text is not UTF-8.  Integers beyond the signed range
become doubles. -/
def Value.read (v : Value) : Option QCborValue := QCborValue.ofItem v.toItem

section Read

variable {v : Value} {q : QCborValue} {m : StdMap} {depth : Nat}

theorem Value.Fits.read (h : v.Fits depth) : v.read = some v.toQt := by
  rw [Value.read, ← h.toItem]
  exact QCborValue.ofItem_toItem h.plain

/-- The reader that meets the documentation makes the same of the whole item. -/
theorem fromCbor_cbor_eq_read (h : v.toItem.Fits 1024) :
    QtCbor.reference.fromCbor (cbor v) = v.read := by
  have hdecode := decode_encode h []
  rw [List.append_nil] at hdecode
  simp only [QtCbor.reference, cbor, encode_eq, hdecode]
  rfl

theorem read_text {t : StdString} (h : (Value.text t).read = some q) :
    ∃ s, q = .string s ∧ t = toUtf8 s := by
  obtain ⟨s, hs, rfl⟩ := Option.map_eq_some_iff.mp h
  exact ⟨s, rfl, fromUtf8?_eq_some.mp hs⟩

theorem read_array {xs : List Value} (h : (Value.array xs).read = some q) :
    ∃ ys, q = .array ys ∧ List.Forall₂ (fun x y => x.read = some y) xs ys := by
  rw [Value.read, Value.toItem, QCborValue.ofItem, toItems_eq_map] at h
  obtain ⟨ys, hys, rfl⟩ := Option.map_eq_some_iff.mp h
  exact ⟨ys, rfl, List.forall₂_map_left_iff.mp (ofItems_eq_some hys)⟩

/-- An entry of a map as a pair of data items. -/
def entryItem (e : StdString × Value) : Item × Item := (.text e.1, e.2.toItem)

/-- The entries of a map are written in another order. -/
theorem toItem_map (m : StdMap) : ∃ n : StdMap, n.Perm m ∧
    (Value.map m).toItem = .map (n.map entryItem) := by
  let p := m.map fun e => (head 3 e.1.length ++ e.1, e)
  refine ⟨(sortEntries p).map Prod.snd, ?_, ?_⟩
  · refine ((sortEntries_perm p).map Prod.snd).trans (.of_eq ?_)
    rw [List.map_map]
    exact List.map_id m
  · have hp : toEntries m = p.map fun e => (e.1, entryItem e.2) := by
      rw [toEntries_eq_map, List.map_map]
      rfl
    rw [Value.toItem, hp, sortEntries_map entryItem, List.map_map, List.map_map]
    rfl

/-- An entry of a map and what is read of it. -/
def EntryRead (e : StdString × Value) (r : QCborValue × QCborValue) : Prop :=
  (Value.text e.1).read = some r.1 ∧ e.2.read = some r.2

theorem keys_of_read {root : QCborMap} (h : List.Forall₂ EntryRead m root) :
    m.map Prod.fst = (QCborMap.stringKeys root).map toUtf8 := by
  induction h with
  | nil => rfl
  | @cons e r _ _ he _ ih =>
    obtain ⟨k, w⟩ := r
    obtain ⟨s, rfl, hs⟩ := read_text he.1
    rw [List.map_cons, QCborMap.stringKeys_cons_string, List.map_cons, ih, hs]

theorem exists_of_forall₂ {α β : Type} {R : α → β → Prop} {xs : List α} {ys : List β}
    (h : List.Forall₂ R xs ys) {x : α} (hx : x ∈ xs) : ∃ y ∈ ys, R x y := by
  induction h with
  | nil => cases hx
  | @cons a b xs ys hab _ ih =>
    rcases List.mem_cons.mp hx with rfl | hx
    · exact ⟨b, List.mem_cons_self, hab⟩
    · obtain ⟨y, hy, hxy⟩ := ih hx
      exact ⟨y, List.mem_cons_of_mem _ hy, hxy⟩

theorem mem_of_read {root : QCborMap} {e : StdString × Value} (h : List.Forall₂ EntryRead m root)
    (he : e ∈ m) : ∃ s w, (.string s, w) ∈ root ∧ e.1 = toUtf8 s ∧ e.2.read = some w := by
  obtain ⟨⟨k, w⟩, hmem, hkey, hvalue⟩ := exists_of_forall₂ h he
  obtain ⟨s, hs, htext⟩ := read_text hkey
  cases hs
  exact ⟨s, w, hmem, htext, hvalue⟩

/-- What stands under a key of the root is what is read of the daemon's value under it. -/
def Reads (m : StdMap) (root : QCborMap) : Prop :=
  ∀ key v, m.find (lit key) = some v → v.read = some (root.value key)

theorem read_map (hn : (m.map Prod.fst).Nodup) (h : (Value.map m).read = some q) :
    ∃ root, q = .map root ∧ Reads m root := by
  obtain ⟨n, hperm, hitem⟩ := toItem_map m
  rw [Value.read, hitem, QCborValue.ofItem] at h
  obtain ⟨root, hroot, rfl⟩ := Option.map_eq_some_iff.mp h
  have hentries : List.Forall₂ EntryRead n root :=
    (List.forall₂_map_left_iff (f := entryItem)).mp (ofEntries_eq_some hroot)
  have hdistinct : QCborMap.Distinct root := by
    have hkeys := (hperm.map Prod.fst).nodup_iff.mpr hn
    rw [keys_of_read hentries] at hkeys
    exact hkeys.of_map
  refine ⟨root, rfl, fun key v hv => ?_⟩
  obtain ⟨s, w, hmem, hs, hw⟩ := mem_of_read hentries (hperm.mem_iff.mpr (mem_of_find hv))
  rw [toUtf8_injective hs, QCborMap.value_eq_of_mem hdistinct hmem]
  exact hw

section Reads

variable {root : QCborMap} {key : String} (h : Reads m root)

include h

theorem Reads.text {t : StdString} (ht : m.find (lit key) = some (.text t)) :
    ∃ s, root.value key = .string s ∧ t = toUtf8 s := read_text (h key _ ht)

theorem Reads.map {s : StdMap} (hs : m.find (lit key) = some (.map s))
    (hn : (s.map Prod.fst).Nodup) : ∃ sub, root.value key = .map sub ∧ Reads s sub :=
  read_map hn (h key _ hs)

/-- The maps of a list, one by one. -/
theorem Reads.maps {items : List StdMap} (hi : m.find (lit key) = some (.array (items.map .map)))
    (hn : ∀ s ∈ items, (s.map Prod.fst).Nodup) :
    ∃ subs : List QCborMap, root.value key = .array (subs.map .map) ∧
      List.Forall₂ Reads items subs := by
  obtain ⟨ys, hys, hread⟩ := read_array (h key _ hi)
  rw [hys]
  rw [List.forall₂_map_left_iff] at hread
  clear hi hys
  induction hread with
  | nil => exact ⟨[], rfl, .nil⟩
  | @cons s y items ys hy _ ih =>
    obtain ⟨sub, rfl, hsub⟩ := read_map (hn s List.mem_cons_self) hy
    obtain ⟨subs, heq, hsubs⟩ := ih fun s hs => hn s (List.mem_cons_of_mem _ hs)
    cases heq
    exact ⟨sub :: subs, rfl, .cons hsub hsubs⟩

end Reads

end Read

end RpiDashboard.Daemon
