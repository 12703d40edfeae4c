import RpiDashboard.Daemon.AcceptLaws

/-! Maps that are built field by field. -/

namespace RpiDashboard.Daemon

variable {m root sub : StdMap} {key key' : String} {v : Value} {value : Option Value}
  {xs : List Value} {fields subFields : Fields} {P : Value → Prop}

@[simp] theorem lit_inj {s t : String} : lit s = lit t ↔ s = t := toUtf8_injective.eq_iff

section Find

@[simp] theorem find_assign :
    (m.assign (lit key) v).find (lit key') = if key = key' then some v else m.find (lit key') := by
  simp [StdMap.find_assign]

@[simp] theorem find_assignSome :
    (m.assignSome key value).find (lit key') =
      if key = key' then value.or (m.find (lit key')) else m.find (lit key') := by
  cases value <;> simp [StdMap.assignSome]

theorem find_addObject (hne : key ≠ key') :
    (addObject root key sub).find (lit key') = root.find (lit key') := by
  unfold addObject
  split <;> simp [hne]

theorem find_addArray (hne : key ≠ key') :
    (addArray root key xs).find (lit key') = root.find (lit key') := by
  unfold addArray
  split <;> simp [hne]

theorem find_addObject_self (hs : sub ≠ []) :
    (addObject root key sub).find (lit key) = some (.map sub) := by
  simp [addObject, hs]

theorem find_addArray_self (hxs : xs ≠ []) :
    (addArray root key xs).find (lit key) = some (.array xs) := by
  simp [addArray, hxs]

theorem find_erase :
    (m.erase (lit key)).find (lit key') = if key = key' then none else m.find (lit key') := by
  induction m with
  | nil => simp [StdMap.erase]
  | cons e m ih =>
    obtain ⟨k, w⟩ := e
    by_cases hk : k = lit key
    case pos =>
      have htail : StdMap.erase ((k, w) :: m) (lit key) = StdMap.erase m (lit key) :=
        List.filter_cons_of_neg (by simpa using hk)
      rw [htail, ih, StdMap.find_cons, hk]
      split <;> simp [*]
    case neg =>
      have hkeep : StdMap.erase ((k, w) :: m) (lit key) = (k, w) :: StdMap.erase m (lit key) :=
        List.filter_cons_of_pos (by simpa using hk)
      rw [hkeep, StdMap.find_cons, StdMap.find_cons, ih]
      split
      case isTrue heq =>
        have hne : key ≠ key' := fun h => hk (h ▸ heq)
        rw [if_neg hne]
      case isFalse => rfl

end Find

section Ordered

open StdMap

theorem ordered_assignSome (h : m.Ordered) : (m.assignSome key value).Ordered := by
  cases value with
  | none => exact h
  | some v => exact h.assign

theorem ordered_addObject (h : root.Ordered) : (addObject root key sub).Ordered := by
  unfold addObject
  split
  case isTrue => exact h
  case isFalse => exact h.assign

theorem ordered_addArray (h : root.Ordered) : (addArray root key xs).Ordered := by
  unfold addArray
  split
  case isTrue => exact h
  case isFalse => exact h.assign

end Ordered

/-- The keys of a map that is being built are in order, each with a value of its field. -/
structure Builds (fields : Fields) (m : StdMap) : Prop where
  ordered : m.Ordered
  field : ∀ e ∈ m, ∃ f ∈ fields, e.1 = lit f.1 ∧ f.2 e.2

theorem Builds.entries (h : Builds fields m) : Entries fields m := ⟨h.ordered.nodup, h.field⟩

theorem builds_nil (fields : Fields) : Builds fields [] := ⟨StdMap.ordered_nil, by simp⟩

theorem Builds.assign (h : Builds fields m) (hf : (key, P) ∈ fields) (hv : P v) :
    Builds fields (m.assign (lit key) v) where
  ordered := h.ordered.assign
  field := fun e he => by
    rcases StdMap.mem_of_mem_assign he with rfl | he
    · exact ⟨(key, P), hf, rfl, hv⟩
    · exact h.field e he

theorem Builds.assignSome (h : Builds fields m) (hf : (key, P) ∈ fields) (hv : ∀ v ∈ value, P v) :
    Builds fields (m.assignSome key value) := by
  cases value with
  | none => exact h
  | some v => exact h.assign hf (hv v rfl)

theorem Builds.erase (h : Builds fields m) : Builds fields (m.erase (lit key)) where
  ordered := h.ordered.sublist (List.filter_sublist.map Prod.fst)
  field := fun e he => h.field e (List.mem_of_mem_filter he)

theorem Builds.addObject (h : Builds fields root) (hf : (key, P) ∈ fields)
    (hs : sub ≠ [] → P (.map sub)) : Builds fields (addObject root key sub) := by
  unfold Daemon.addObject
  split
  case isTrue => exact h
  case isFalse hne => exact h.assign hf (hs (by simpa using hne))

theorem Builds.addArray (h : Builds fields root) (hf : (key, P) ∈ fields) (hxs : P (.array xs)) :
    Builds fields (addArray root key xs) := by
  unfold Daemon.addArray
  split
  case isTrue => exact h
  case isFalse => exact h.assign hf hxs

/-- The same keys, with any values. -/
def keysOf (fields : Fields) : Fields := fields.map fun f => (f.1, fun _ => True)

theorem mem_keysOf (hk : key ∈ fields.map Prod.fst) : (key, fun _ => True) ∈ keysOf fields := by
  obtain ⟨f, hf, rfl⟩ := List.mem_map.mp hk
  exact List.mem_map_of_mem hf

theorem Builds.put (h : Builds (keysOf fields) m) (hk : key ∈ fields.map Prod.fst) :
    Builds (keysOf fields) (m.assign (lit key) v) :=
  h.assign (mem_keysOf hk) trivial

theorem Builds.putSome (h : Builds (keysOf fields) m) (hk : key ∈ fields.map Prod.fst) :
    Builds (keysOf fields) (m.assignSome key value) :=
  h.assignSome (mem_keysOf hk) fun _ _ => trivial

/-- Where a value may be overwritten, only those that are left count. -/
theorem Builds.of_find (h : Builds (keysOf fields) m)
    (hv : ∀ f ∈ fields, ∀ v ∈ m.find (lit f.1), f.2 v) : Builds fields m where
  ordered := h.ordered
  field := fun e he => by
    obtain ⟨g, hg, hkey, -⟩ := h.field e he
    obtain ⟨f, hf, rfl⟩ := List.mem_map.mp hg
    refine ⟨f, hf, hkey, hv f hf e.2 ?_⟩
    rw [← hkey]
    exact find_of_mem h.ordered.nodup he

end RpiDashboard.Daemon
