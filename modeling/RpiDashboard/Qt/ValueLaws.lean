import RpiDashboard.Cbor.ItemLaws
import RpiDashboard.Qt.Value
import Mathlib.Data.List.Nodup
import Mathlib.Data.List.Perm.Basic

namespace RpiDashboard.Qt

open Numeric Cbor

@[simp] theorem fromUtf8?_toUtf8 (s : QString) : fromUtf8? (toUtf8 s) = some s := by
  simp [fromUtf8?, toUtf8, String.fromUTF8?, String.fromUTF8, s.isValidUTF8]

theorem fromUtf8?_eq_some {b : QByteArray} {s : QString} : fromUtf8? b = some s ↔ b = toUtf8 s := by
  constructor
  case mp =>
    intro h
    unfold fromUtf8? String.fromUTF8? at h
    split at h
    case isTrue hvalid =>
      cases h
      simp [toUtf8, String.fromUTF8]
    case isFalse => cases h
  case mpr =>
    rintro rfl
    exact fromUtf8?_toUtf8 s

theorem mem_utf8EncodeChar_lt {c : Char} {b : UInt8} (h : b ∈ String.utf8EncodeChar c) :
    b.toNat < 0xf5 := by
  have hc : c.val.toNat < 0x110000 := by
    rcases c.valid with h | h <;> omega
  rw [String.utf8EncodeChar] at h
  generalize c.val.toNat = v at h hc
  split_ifs at h <;> simp only [List.mem_cons, List.not_mem_nil, or_false] at h
  · subst h; simp; omega
  · rcases h with rfl | rfl <;> simp <;> omega
  · rcases h with rfl | rfl | rfl <;> simp <;> omega
  · rcases h with rfl | rfl | rfl | rfl <;> simp <;> omega

/-- UTF-8 has no use for the bytes from `0xf5` on. -/
theorem mem_toUtf8_lt {s : QString} {b : UInt8} (h : b ∈ toUtf8 s) : b.toNat < 0xf5 := by
  have hs : toUtf8 s = s.toList.flatMap String.utf8EncodeChar := by
    rw [toUtf8, ← String.utf8Encode_toList, List.utf8Encode]
    simp
  rw [hs] at h
  obtain ⟨c, -, hb⟩ := List.mem_flatMap.mp h
  exact mem_utf8EncodeChar_lt hb

theorem QUuid.fromRfc4122_toRfc4122 (u : QUuid) : fromRfc4122 u.toRfc4122 = u := by
  simp [fromRfc4122, toRfc4122, u.length_eq]

namespace QCborMap

@[simp] theorem value_nil (key : QString) : value [] key = .undefined := rfl

@[simp] theorem value_cons_string (k key : QString) (v : QCborValue) (m : QCborMap) :
    value ((.string k, v) :: m) key = if k = key then v else value m key := rfl

theorem value_cons_of_ne {k : QCborValue} {key : QString} (h : k ≠ .string key)
    (v : QCborValue) (m : QCborMap) : value ((k, v) :: m) key = value m key := by
  cases k <;> simp_all [value]

theorem insert_cons_of_ne {e : QCborValue} (h : ∀ k, e ≠ .string k) (w : QCborValue)
    (m : QCborMap) (k : QString) (v : QCborValue) :
    insert ((e, w) :: m) k v = (e, w) :: insert m k v := by
  cases e <;> first | rfl | exact absurd rfl (h _)

@[simp] theorem value_insert (m : QCborMap) (k key : QString) (v : QCborValue) :
    value (insert m k v) key = if k = key then v else value m key := by
  induction m with
  | nil => rfl
  | cons e m ih =>
    obtain ⟨e, w⟩ := e
    by_cases hs : ∃ l, e = .string l
    · obtain ⟨l, rfl⟩ := hs
      by_cases hl : l = k
      · subst hl
        by_cases hk : l = key <;> simp [insert, hk]
      · by_cases hk : k = key
        · subst hk
          simp [insert, hl, ih]
        · simp [insert, hl, ih, hk]
    · have hs' : ∀ l, e ≠ .string l := fun l hl => hs ⟨l, hl⟩
      rw [insert_cons_of_ne hs', value_cons_of_ne (hs' key), value_cons_of_ne (hs' key), ih]

def keyText : QCborValue × QCborValue → Option QString
  | (.string k, _) => some k
  | _ => none

/-- The string keys of a map, in order. -/
def stringKeys (m : QCborMap) : List QString := m.filterMap keyText

def Distinct (m : QCborMap) : Prop := m.stringKeys.Nodup

@[simp] theorem stringKeys_nil : stringKeys [] = [] := rfl

@[simp] theorem stringKeys_cons_string (k : QString) (v : QCborValue) (m : QCborMap) :
    stringKeys ((.string k, v) :: m) = k :: stringKeys m := rfl

theorem stringKeys_cons_of_ne {e : QCborValue} (h : ∀ k, e ≠ .string k) (v : QCborValue)
    (m : QCborMap) : stringKeys ((e, v) :: m) = stringKeys m := by
  cases e <;> first | rfl | exact absurd rfl (h _)

@[simp] theorem mem_stringKeys {m : QCborMap} {k : QString} :
    k ∈ m.stringKeys ↔ ∃ v, (.string k, v) ∈ m := by
  simp only [stringKeys, List.mem_filterMap]
  constructor
  · rintro ⟨⟨e, v⟩, he, h⟩
    cases e <;> cases h
    exact ⟨v, he⟩
  · rintro ⟨v, hv⟩
    exact ⟨(.string k, v), hv, rfl⟩

theorem stringKeys_insert (m : QCborMap) (k : QString) (v : QCborValue) :
    (insert m k v).stringKeys = if k ∈ m.stringKeys then m.stringKeys else m.stringKeys ++ [k] := by
  induction m with
  | nil => rfl
  | cons e m ih =>
    obtain ⟨e, w⟩ := e
    by_cases hs : ∃ l, e = .string l
    · obtain ⟨l, rfl⟩ := hs
      by_cases hl : l = k
      · subst hl
        rw [insert, if_pos rfl, stringKeys_cons_string, if_pos (by simp), stringKeys_cons_string]
      · rw [insert, if_neg hl, stringKeys_cons_string, stringKeys_cons_string, ih]
        by_cases hk : k ∈ stringKeys m
        · rw [if_pos hk, if_pos (List.mem_cons_of_mem _ hk)]
        · rw [if_neg hk, if_neg (by simp_all [Ne.symm hl]), List.cons_append]
    · have hs' : ∀ l, e ≠ .string l := fun l hl => hs ⟨l, hl⟩
      rw [insert_cons_of_ne hs', stringKeys_cons_of_ne hs', stringKeys_cons_of_ne hs', ih]

@[simp] theorem distinct_nil : Distinct [] := List.nodup_nil

theorem Distinct.insert {m : QCborMap} (h : m.Distinct) (k : QString) (v : QCborValue) :
    (insert m k v).Distinct := by
  rw [Distinct, stringKeys_insert]
  split
  · exact h
  · next hk =>
    rw [← List.concat_eq_append]
    exact List.Nodup.concat hk h

theorem value_eq_of_mem {m : QCborMap} {k : QString} {v : QCborValue} (h : m.Distinct)
    (hm : (.string k, v) ∈ m) : m.value k = v := by
  induction m with
  | nil => simp at hm
  | cons e m ih =>
    obtain ⟨e, w⟩ := e
    rcases List.mem_cons.mp hm with heq | hm'
    · cases heq
      simp
    · by_cases he : e = .string k
      · subst he
        rw [Distinct, stringKeys_cons_string] at h
        exact absurd (mem_stringKeys.mpr ⟨v, hm'⟩) h.notMem
      · rw [value_cons_of_ne he]
        exact ih (h.sublist ((List.sublist_cons_self _ m).filterMap keyText)) hm'

theorem value_eq_undefined {m : QCborMap} {k : QString} (h : ∀ v, (.string k, v) ∉ m) :
    m.value k = .undefined := by
  induction m with
  | nil => rfl
  | cons e m ih =>
    obtain ⟨e, w⟩ := e
    have he : e ≠ .string k := by
      rintro rfl
      exact h w (by simp)
    rw [value_cons_of_ne he]
    exact ih fun v hv => h v (by simp [hv])

theorem Distinct.perm {m n : QCborMap} (h : m.Distinct) (p : n.Perm m) : n.Distinct :=
  (p.filterMap _).nodup_iff.mpr h

/-- Lookup in a map without duplicate keys does not see the order of the entries. -/
theorem value_perm {m n : QCborMap} (h : m.Distinct) (p : n.Perm m) (k : QString) :
    n.value k = m.value k := by
  by_cases hk : ∃ v, (.string k, v) ∈ m
  · obtain ⟨v, hv⟩ := hk
    rw [value_eq_of_mem h hv, value_eq_of_mem (h.perm p) (p.mem_iff.mpr hv)]
  · have hm : ∀ v, (.string k, v) ∉ m := fun v hv => hk ⟨v, hv⟩
    rw [value_eq_undefined hm, value_eq_undefined fun v hv => hm v (p.mem_iff.mp hv)]

end QCborMap

theorem toItems_eq_map (xs : List QCborValue) : toItems xs = xs.map QCborValue.toItem := by
  induction xs with
  | nil => rfl
  | cons x xs ih => simp [toItems, ih]

def toEntry (e : QCborValue × QCborValue) : Item × Item := (e.1.toItem, e.2.toItem)

theorem toEntries_eq_map (es : QCborMap) : toEntries es = es.map toEntry := by
  induction es with
  | nil => rfl
  | cons e es ih => simp [toEntries, toEntry, ih]

def QCborMap.Plain (depth : Nat) (m : QCborMap) : Prop :=
  ∀ e ∈ m, e.1.Plain depth ∧ e.2.Plain depth

@[simp] theorem QCborValue.plain_map {depth : Nat} {m : QCborMap} :
    (QCborValue.map m).Plain (depth + 1) ↔ m.Plain depth := Iff.rfl

@[simp] theorem QCborValue.plain_string (depth : Nat) (s : QString) :
    (QCborValue.string s).Plain (depth + 1) := trivial

@[simp] theorem QCborValue.plain_integer (depth : Nat) (i : Int64) :
    (QCborValue.integer i).Plain (depth + 1) := trivial

@[simp] theorem QCborValue.plain_double (depth : Nat) (d : Double) :
    (QCborValue.double d).Plain (depth + 1) := trivial

@[simp] theorem QCborValue.plain_boolean (depth : Nat) (b : Bool) :
    (QCborValue.boolean b).Plain (depth + 1) := trivial

@[simp] theorem QCborValue.plain_byteArray (depth : Nat) (b : QByteArray) :
    (QCborValue.byteArray b).Plain (depth + 1) := trivial

@[simp] theorem QCborMap.plain_nil (depth : Nat) : QCborMap.Plain depth [] := by
  simp [QCborMap.Plain]

theorem QCborMap.Plain.insert {depth : Nat} {m : QCborMap} (h : m.Plain (depth + 1))
    (k : QString) {v : QCborValue} (hv : v.Plain (depth + 1)) :
    (QCborMap.insert m k v).Plain (depth + 1) := by
  induction m with
  | nil => simp [QCborMap.Plain, QCborMap.insert, hv]
  | cons e m ih =>
    have hm : QCborMap.Plain (depth + 1) m := fun d hd => h d (List.mem_cons_of_mem e hd)
    have he := h e List.mem_cons_self
    obtain ⟨e, w⟩ := e
    by_cases hs : ∃ l, e = .string l
    · obtain ⟨l, rfl⟩ := hs
      rw [QCborMap.insert]
      split_ifs with hl
      · exact List.forall_mem_cons.mpr ⟨⟨he.1, hv⟩, hm⟩
      · exact List.forall_mem_cons.mpr ⟨he, ih hm⟩
    · rw [QCborMap.insert_cons_of_ne fun l hl => hs ⟨l, hl⟩]
      exact List.forall_mem_cons.mpr ⟨he, ih hm⟩

section Size

theorem QCborValue.encodedSize_pos (v : QCborValue) : 0 < v.encodedSize :=
  List.length_pos_of_ne_nil v.toItem.encode_ne_nil

def textSize (s : QString) : Nat := (QCborValue.string s).encodedSize

theorem textSize_eq (s : QString) :
    textSize s = (head 3 (toUtf8 s).length).length + (toUtf8 s).length := by
  simp [textSize, QCborValue.encodedSize, QCborValue.toItem, Item.encode]

theorem textSize_le {s : QString} {n : Nat} (h : (toUtf8 s).length ≤ n) (hn : n < 65536) :
    textSize s ≤ n + 3 := by
  have := length_head_le_three (lt_of_le_of_lt h hn) 3
  rw [textSize_eq]
  omega

def QCborMap.entriesSize (m : QCborMap) : Nat :=
  (m.map fun e => e.1.encodedSize + e.2.encodedSize).sum

theorem QCborValue.encodedSize_array (xs : List QCborValue) :
    (QCborValue.array xs).encodedSize =
      (head 4 xs.length).length + (xs.map QCborValue.encodedSize).sum := by
  simp only [QCborValue.encodedSize, QCborValue.toItem, Item.encode, toItems_eq_map,
    encodeItems_eq_flatMap, List.length_append, List.length_flatMap, List.length_map, List.map_map]
  rfl

theorem QCborValue.encodedSize_map (m : QCborMap) :
    (QCborValue.map m).encodedSize = (head 5 m.length).length + m.entriesSize := by
  simp [QCborValue.encodedSize, QCborValue.toItem, Item.encode, toEntries_eq_map, encodeEntry,
    encodeEntries_eq_flatMap, List.length_flatMap, Function.comp_def, QCborMap.entriesSize, toEntry]

theorem QCborMap.length_insert_le (m : QCborMap) (k : QString) (v : QCborValue) :
    (QCborMap.insert m k v).length ≤ m.length + 1 := by
  induction m with
  | nil => simp [QCborMap.insert]
  | cons e m ih =>
    obtain ⟨e, w⟩ := e
    by_cases hs : ∃ l, e = .string l
    · obtain ⟨l, rfl⟩ := hs
      rw [QCborMap.insert]
      split_ifs <;> simp [ih]
    · rw [QCborMap.insert_cons_of_ne fun l hl => hs ⟨l, hl⟩]
      simp [ih]

theorem QCborMap.entriesSize_insert_le (m : QCborMap) (k : QString) (v : QCborValue) :
    (QCborMap.insert m k v).entriesSize ≤ m.entriesSize + textSize k + v.encodedSize := by
  induction m with
  | nil => simp [QCborMap.insert, QCborMap.entriesSize, textSize]
  | cons e m ih =>
    obtain ⟨e, w⟩ := e
    by_cases hs : ∃ l, e = .string l
    · obtain ⟨l, rfl⟩ := hs
      rw [QCborMap.insert]
      simp only [QCborMap.entriesSize] at ih
      split_ifs <;> simp only [QCborMap.entriesSize, List.map_cons, List.sum_cons] <;> omega
    · rw [QCborMap.insert_cons_of_ne fun l hl => hs ⟨l, hl⟩]
      simp only [QCborMap.entriesSize, List.map_cons, List.sum_cons] at ih ⊢
      omega

end Size

section Arrange

variable {sort : QCborMap → QCborMap}

def arrangeEntry (sort : QCborMap → QCborMap) (e : QCborValue × QCborValue) :
    QCborValue × QCborValue := (e.1.arrange sort, e.2.arrange sort)

def QCborMap.arrange (sort : QCborMap → QCborMap) (m : QCborMap) : QCborMap :=
  sort (m.map (arrangeEntry sort))

theorem arrangeItems_eq_map (xs : List QCborValue) :
    arrangeItems sort xs = xs.map (QCborValue.arrange sort) := by
  induction xs with
  | nil => rfl
  | cons x xs ih => simp [arrangeItems, ih]

theorem arrangeEntries_eq_map (es : QCborMap) :
    arrangeEntries sort es = es.map (arrangeEntry sort) := by
  induction es with
  | nil => rfl
  | cons e es ih => simp [arrangeEntries, arrangeEntry, ih]

@[simp] theorem QCborValue.arrange_array (xs : List QCborValue) :
    (QCborValue.array xs).arrange sort = .array (xs.map (QCborValue.arrange sort)) := by
  rw [QCborValue.arrange, arrangeItems_eq_map]

@[simp] theorem QCborValue.arrange_map (m : QCborMap) :
    (QCborValue.map m).arrange sort = .map (m.arrange sort) := by
  rw [QCborValue.arrange, arrangeEntries_eq_map, QCborMap.arrange]

@[simp] theorem QCborValue.arrange_undefined :
    QCborValue.undefined.arrange sort = .undefined := rfl

@[simp] theorem QCborValue.arrange_boolean (b : Bool) :
    (QCborValue.boolean b).arrange sort = .boolean b := rfl

@[simp] theorem QCborValue.arrange_integer (i : Int64) :
    (QCborValue.integer i).arrange sort = .integer i := rfl

@[simp] theorem QCborValue.arrange_double (d : Double) :
    (QCborValue.double d).arrange sort = .double d := rfl

@[simp] theorem QCborValue.arrange_string (s : QString) :
    (QCborValue.string s).arrange sort = .string s := rfl

@[simp] theorem QCborValue.arrange_byteArray (b : QByteArray) :
    (QCborValue.byteArray b).arrange sort = .byteArray b := rfl

theorem QCborValue.arrange_eq_string {v : QCborValue} {k : QString} :
    v.arrange sort = .string k ↔ v = .string k := by
  cases v <;> simp [QCborValue.arrange]

theorem QCborMap.keyText_arrangeEntry (e : QCborValue × QCborValue) :
    QCborMap.keyText (arrangeEntry sort e) = QCborMap.keyText e := by
  obtain ⟨k, v⟩ := e
  cases k <;> simp [arrangeEntry, QCborValue.arrange, QCborMap.keyText]

theorem QCborMap.Distinct.map_arrangeEntry {m : QCborMap} (h : m.Distinct) :
    QCborMap.Distinct (m.map (arrangeEntry sort)) := by
  have : QCborMap.keyText ∘ arrangeEntry sort = QCborMap.keyText :=
    funext QCborMap.keyText_arrangeEntry
  rwa [QCborMap.Distinct, QCborMap.stringKeys, List.filterMap_map, this]

theorem QCborMap.value_map_arrangeEntry (m : QCborMap) (k : QString) :
    QCborMap.value (m.map (arrangeEntry sort)) k = (m.value k).arrange sort := by
  induction m with
  | nil => simp
  | cons e m ih =>
    obtain ⟨e, v⟩ := e
    by_cases he : e = .string k
    · subst he
      simp [arrangeEntry]
    · have he' : e.arrange sort ≠ .string k := mt QCborValue.arrange_eq_string.mp he
      rw [List.map_cons, arrangeEntry, QCborMap.value_cons_of_ne he', ih,
        QCborMap.value_cons_of_ne he]

variable (hsort : ∀ m, (sort m).Perm m)

include hsort

/-- Rearranging commutes with lookup. -/
theorem QCborMap.value_arrange {m : QCborMap} (h : m.Distinct) (k : QString) :
    (m.arrange sort).value k = (m.value k).arrange sort := by
  rw [QCborMap.arrange, QCborMap.value_perm h.map_arrangeEntry (hsort _),
    QCborMap.value_map_arrangeEntry]

@[simp] theorem QCborMap.arrange_nil : QCborMap.arrange sort [] = [] :=
  List.perm_nil.mp (hsort [])

theorem QCborValue.Plain.arrange {depth : Nat} {v : QCborValue} (h : v.Plain depth) :
    (v.arrange sort).Plain depth := by
  induction depth generalizing v with
  | zero => exact h.elim
  | succ depth ih =>
    cases v with
    | array xs =>
      rw [QCborValue.arrange_array]
      intro x hx
      obtain ⟨y, hy, rfl⟩ := List.mem_map.mp hx
      exact ih (h y hy)
    | map m =>
      rw [QCborValue.arrange_map]
      intro e he
      obtain ⟨d, hd, rfl⟩ := List.mem_map.mp ((hsort _).mem_iff.mp he)
      exact ⟨ih (h d hd).1, ih (h d hd).2⟩
    | tag n v => exact h.elim
    | simpleType n => exact h.elim
    | _ => simp [QCborValue.arrange, QCborValue.Plain]

/-- Rearranging permutes the bytes of the encoding. -/
theorem QCborValue.encode_arrange_perm {depth : Nat} {v : QCborValue} (h : v.Plain depth) :
    (v.arrange sort).toItem.encode.Perm v.toItem.encode := by
  induction depth generalizing v with
  | zero => exact h.elim
  | succ depth ih =>
    cases v with
    | array xs =>
      simp only [QCborValue.arrange_array, QCborValue.toItem, Item.encode, toItems_eq_map,
        encodeItems_eq_flatMap, List.length_map, List.map_map, List.flatMap_map]
      exact (List.Perm.flatMap_left _ fun x hx => ih (h x hx)).append_left _
    | map m =>
      have hentry : ∀ e ∈ m, (encodeEntry (toEntry (arrangeEntry sort e))).Perm
          (encodeEntry (toEntry e)) := fun e he => (ih (h e he).1).append (ih (h e he).2)
      have hlen : (QCborMap.arrange sort m).length = m.length := by
        simpa [QCborMap.arrange] using (hsort (m.map (arrangeEntry sort))).length_eq
      simp only [QCborValue.arrange_map, QCborValue.toItem, Item.encode, toEntries_eq_map,
        encodeEntries_eq_flatMap, List.length_map, List.flatMap_map, hlen]
      refine List.Perm.append_left _ ?_
      refine ((hsort _).flatMap_right _).trans ?_
      rw [List.flatMap_map]
      exact List.Perm.flatMap_left _ hentry
    | tag n v => exact h.elim
    | _ => simp [QCborValue.arrange]

theorem QCborValue.encodedSize_arrange {depth : Nat} {v : QCborValue} (h : v.Plain depth) :
    (v.arrange sort).encodedSize = v.encodedSize :=
  (QCborValue.encode_arrange_perm hsort h).length_eq

end Arrange

/-- What is written is read back, up to the order of the entries of its maps. -/
theorem QtCbor.Rfc8949.fromCbor_toCbor {qt : QtCbor} (h : qt.Rfc8949) :
    ∃ sort : QCborMap → QCborMap, (∀ m, (sort m).Perm m) ∧ ∀ v, v.Plain 16 →
      (qt.toCbor v).Perm v.toItem.encode ∧
        (v.encodedSize < 2 ^ 63 → qt.fromCbor (qt.toCbor v) = some (v.arrange sort)) := by
  obtain ⟨sort, hsort, henc⟩ := h.toCbor_eq
  refine ⟨sort, hsort, fun v hv => ?_⟩
  rw [henc v hv]
  refine ⟨QCborValue.encode_arrange_perm hsort hv, fun hs => ?_⟩
  exact h.fromCbor_encode _ (hv.arrange hsort) (by rwa [QCborValue.encodedSize_arrange hsort hv])

end RpiDashboard.Qt
