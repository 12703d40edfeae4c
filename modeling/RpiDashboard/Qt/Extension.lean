import RpiDashboard.Qt.ValueLaws
import Mathlib.Data.List.Forall2

/-! How one value extends another for a reader that knows only some of the keys:
the entries of maps may move, and maps may gain entries the reader does not know. -/

namespace RpiDashboard.Qt

/-- What is read of a value: the value itself, the items of a list, or the
entries of a map under the known keys. -/
inductive Layout : Type
  | plain : Layout
  | items : Layout → Layout
  | fields : List (QString × Layout) → Layout

namespace Layout

def field : Layout → QString → Option Layout
  | .fields known, key => known.lookup key
  | _, _ => none

def item : Layout → Layout
  | .items layout => layout
  | _ => .plain

/-- The layout of the value under a key. -/
def under (layout : Layout) : QCborValue → Layout
  | .string key => (layout.field key).getD .plain
  | _ => .plain

/-- Only a map whose entries are looked up by key may gain one, under an unknown key. -/
def Ignores : Layout → QCborValue → Prop
  | .fields known, .string key => known.lookup key = none
  | .fields _, _ => True
  | _, _ => False

end Layout

mutual
inductive Extends : Layout → QCborValue → QCborValue → Prop
  | refl (layout : Layout) (v : QCborValue) : Extends layout v v
  | array {layout : Layout} {xs ys : List QCborValue} :
      ExtendsItems layout.item xs ys → Extends layout (.array xs) (.array ys)
  | map {layout : Layout} {m m' : QCborMap} :
      ExtendsEntries layout m m' → Extends layout (.map m) (.map m')
  | tag {layout : Layout} (n : UInt64) {v v' : QCborValue} :
      Extends .plain v v' → Extends layout (.tag n v) (.tag n v')

inductive ExtendsItems : Layout → List QCborValue → List QCborValue → Prop
  | nil {layout : Layout} : ExtendsItems layout [] []
  | cons {layout : Layout} {x y : QCborValue} {xs ys : List QCborValue} :
      Extends layout x y → ExtendsItems layout xs ys → ExtendsItems layout (x :: xs) (y :: ys)

inductive ExtendsEntries : Layout → QCborMap → QCborMap → Prop
  | nil {layout : Layout} : ExtendsEntries layout [] []
  | keep {layout : Layout} {k k' v v' : QCborValue} {m m' : QCborMap} :
      Extends .plain k k' → Extends (layout.under k) v v' → ExtendsEntries layout m m' →
        ExtendsEntries layout ((k, v) :: m) ((k', v') :: m')
  | add {layout : Layout} {m m' : QCborMap} (k v : QCborValue) :
      layout.Ignores k → ExtendsEntries layout m m' → ExtendsEntries layout m ((k, v) :: m')
  | permute {layout : Layout} {m m' m'' : QCborMap} :
      ExtendsEntries layout m m' → m'.Perm m'' → ExtendsEntries layout m m''
end

mutual
/-- No map of the value, at any depth, has a string key twice. -/
def QCborValue.UniqueKeys : QCborValue → Prop
  | .array xs => UniqueItems xs
  | .map es => QCborMap.Distinct es ∧ UniqueEntries es
  | .tag _ v => v.UniqueKeys
  | _ => True

def UniqueItems : List QCborValue → Prop
  | [] => True
  | x :: xs => x.UniqueKeys ∧ UniqueItems xs

def UniqueEntries : List (QCborValue × QCborValue) → Prop
  | [] => True
  | (k, v) :: es => k.UniqueKeys ∧ v.UniqueKeys ∧ UniqueEntries es
end

theorem ExtendsItems.forall₂ {layout : Layout} {xs ys : List QCborValue} :
    ExtendsItems layout xs ys → List.Forall₂ (Extends layout) xs ys
  | .nil => .nil
  | .cons h hs => .cons h hs.forall₂

theorem ExtendsItems.refl (layout : Layout) (xs : List QCborValue) : ExtendsItems layout xs xs := by
  induction xs with
  | nil => exact .nil
  | cons x xs ih => exact .cons (.refl layout x) ih

theorem ExtendsEntries.refl (layout : Layout) (m : QCborMap) : ExtendsEntries layout m m := by
  induction m with
  | nil => exact .nil
  | cons e m ih => exact .keep (.refl .plain e.1) (.refl _ e.2) ih

theorem ExtendsEntries.append {layout : Layout} (front : QCborMap) {m m' : QCborMap}
    (h : ExtendsEntries layout m m') : ExtendsEntries layout (front ++ m) (front ++ m') := by
  induction front with
  | nil => exact h
  | cons e front ih => exact .keep (.refl .plain e.1) (.refl _ e.2) ih

theorem Extends.of_array {layout : Layout} {xs : List QCborValue} {v : QCborValue}
    (h : Extends layout (.array xs) v) :
    ∃ ys, v = .array ys ∧ List.Forall₂ (Extends layout.item) xs ys := by
  cases h with
  | refl => exact ⟨xs, rfl, (ExtendsItems.refl _ xs).forall₂⟩
  | array h => exact ⟨_, rfl, h.forall₂⟩

theorem Extends.entries {layout : Layout} {m m' : QCborMap}
    (h : Extends layout (.map m) (.map m')) : ExtendsEntries layout m m' := by
  cases h with
  | refl => exact .refl layout m
  | map h => exact h

theorem Extends.string_iff {layout : Layout} {k k' : QCborValue} (h : Extends layout k k')
    (key : QString) : k' = .string key ↔ k = .string key := by
  cases h <;> simp

theorem Extends.boolean_iff {layout : Layout} {v v' : QCborValue} (h : Extends layout v v')
    (b : Bool) : v' = .boolean b ↔ v = .boolean b := by
  cases h <;> simp

theorem Layout.Ignores.ne {layout below : Layout} {k : QCborValue} {key : QString}
    (h : layout.Ignores k) (hf : layout.field key = some below) : k ≠ .string key := by
  rintro rfl
  cases layout with
  | fields known => exact Option.some_ne_none below (hf.symm.trans h)
  | plain => exact h
  | items layout => exact h

namespace QCborMap

/-- The values of all entries with this key. -/
def valuesAt (m : QCborMap) (key : QString) : List QCborValue :=
  m.filterMap fun e => if keyText e = some key then some e.2 else none

@[simp] theorem valuesAt_nil (key : QString) : valuesAt [] key = [] := rfl

@[simp] theorem valuesAt_cons_self (key : QString) (v : QCborValue) (m : QCborMap) :
    valuesAt ((.string key, v) :: m) key = v :: m.valuesAt key := by
  simp [valuesAt, keyText]

theorem valuesAt_cons_of_ne {k : QCborValue} {key : QString} (h : k ≠ .string key)
    (v : QCborValue) (m : QCborMap) : valuesAt ((k, v) :: m) key = m.valuesAt key := by
  cases k <;> simp_all [valuesAt, keyText]

theorem value_eq_head (m : QCborMap) (key : QString) :
    m.value key = (m.valuesAt key).headD .undefined := by
  induction m with
  | nil => rfl
  | cons e m ih =>
    obtain ⟨k, v⟩ := e
    by_cases hk : k = .string key
    · subst hk
      simp
    · rw [value_cons_of_ne hk, valuesAt_cons_of_ne hk, ih]

theorem length_valuesAt (m : QCborMap) (key : QString) :
    (m.valuesAt key).length = m.stringKeys.count key := by
  induction m with
  | nil => rfl
  | cons e m ih =>
    obtain ⟨k, v⟩ := e
    by_cases hs : ∃ l, k = .string l
    · obtain ⟨l, rfl⟩ := hs
      by_cases hl : l = key
      · subst hl
        simp [ih]
      · rw [valuesAt_cons_of_ne (by simpa using hl), stringKeys_cons_string,
          List.count_cons_of_ne hl, ih]
    · have hne : ∀ l, k ≠ .string l := fun l hl => hs ⟨l, hl⟩
      rw [valuesAt_cons_of_ne (hne key), stringKeys_cons_of_ne hne, ih]

theorem Distinct.length_valuesAt_le {m : QCborMap} (h : m.Distinct) (key : QString) :
    (m.valuesAt key).length ≤ 1 := by
  rw [length_valuesAt]
  exact List.nodup_iff_count_le_one.mp h key

theorem valuesAt_perm {m m' : QCborMap} (h : m.Perm m') (key : QString) :
    (m.valuesAt key).Perm (m'.valuesAt key) := h.filterMap _

/-- The order of entries is not seen under a key that occurs once. -/
theorem valuesAt_eq_of_perm {m m' : QCborMap} (h : m.Perm m') {key : QString}
    (hm : (m.valuesAt key).length ≤ 1) : m'.valuesAt key = m.valuesAt key := by
  have hp := valuesAt_perm h key
  match hv : m.valuesAt key with
  | [] => exact (hv ▸ hp).nil_eq.symm
  | [v] => exact List.perm_singleton.mp (hv ▸ hp).symm
  | _ :: _ :: _ =>
    rw [hv] at hm
    simp at hm

end QCborMap

theorem ExtendsEntries.valuesAt {layout below : Layout} {m m' : QCborMap} {key : QString}
    (hf : layout.field key = some below) : ExtendsEntries layout m m' →
      (m.valuesAt key).length ≤ 1 →
        List.Forall₂ (Extends below) (m.valuesAt key) (m'.valuesAt key)
  | .nil, _ => .nil
  | @keep _ k k' v v' m m' hk hv h, hm => by
    by_cases hkey : k = .string key
    case pos =>
      have hkey' := (hk.string_iff key).mpr hkey
      subst hkey hkey'
      rw [QCborMap.valuesAt_cons_self] at hm ⊢
      rw [QCborMap.valuesAt_cons_self]
      rw [Layout.under, hf] at hv
      exact .cons hv (h.valuesAt hf (by simp_all))
    case neg =>
      have hkey' := mt (hk.string_iff key).mp hkey
      rw [QCborMap.valuesAt_cons_of_ne hkey] at hm ⊢
      rw [QCborMap.valuesAt_cons_of_ne hkey']
      exact h.valuesAt hf hm
  | .add k v hk h, hm => by
    rw [QCborMap.valuesAt_cons_of_ne (hk.ne hf)]
    exact h.valuesAt hf hm
  | .permute h hp, hm => by
    have ih := h.valuesAt hf hm
    rwa [QCborMap.valuesAt_eq_of_perm hp (ih.length_eq ▸ hm)]

theorem ExtendsEntries.value {layout below : Layout} {m m' : QCborMap} {key : QString}
    (h : ExtendsEntries layout m m') (hm : m.Distinct) (hf : layout.field key = some below) :
    Extends below (m.value key) (m'.value key) := by
  have hvs := h.valuesAt hf (hm.length_valuesAt_le key)
  rw [QCborMap.value_eq_head, QCborMap.value_eq_head]
  generalize m.valuesAt key = vs at hvs
  generalize m'.valuesAt key = vs' at hvs
  cases hvs with
  | nil => exact .refl below .undefined
  | cons hv => exact hv

section UniqueKeys

theorem UniqueItems.of_mem {xs : List QCborValue} (h : UniqueItems xs) {x : QCborValue}
    (hx : x ∈ xs) : x.UniqueKeys := by
  induction xs with
  | nil => cases hx
  | cons y xs ih =>
    rcases List.mem_cons.mp hx with rfl | hx
    · exact h.1
    · exact ih h.2 hx

theorem UniqueEntries.value {m : QCborMap} (h : UniqueEntries m) (key : QString) :
    (m.value key).UniqueKeys := by
  induction m with
  | nil => trivial
  | cons e m ih =>
    obtain ⟨k, v⟩ := e
    by_cases hk : k = .string key
    · subst hk
      simpa using h.2.1
    · rw [QCborMap.value_cons_of_ne hk]
      exact ih h.2.2

end UniqueKeys

/-- A value without duplicate keys and one that extends it. -/
structure Extension (layout : Layout) (v v' : QCborValue) : Prop where
  unique : v.UniqueKeys
  of : Extends layout v v'

namespace Extension

theorem value {layout below : Layout} {m m' : QCborMap}
    (h : Extension layout (.map m) (.map m')) (key : QString)
    (hf : layout.field key = some below) : Extension below (m.value key) (m'.value key) :=
  ⟨h.unique.2.value key, h.of.entries.value h.unique.1 hf⟩

theorem of_array {layout : Layout} {xs : List QCborValue} {v : QCborValue}
    (h : Extension layout (.array xs) v) :
    ∃ ys, v = .array ys ∧ List.Forall₂ (Extension layout.item) xs ys := by
  obtain ⟨ys, rfl, hys⟩ := h.of.of_array
  have hu : ∀ x ∈ xs, x.UniqueKeys := fun x hx => UniqueItems.of_mem h.unique hx
  exact ⟨ys, rfl, ((List.forall₂_and_left xs ys).mpr ⟨hu, hys⟩).imp fun x y hxy => ⟨hxy.1, hxy.2⟩⟩

end Extension

end RpiDashboard.Qt
